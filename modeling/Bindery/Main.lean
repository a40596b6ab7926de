import Bindery.CommandLine.Script
import Std.Time.Zoned

/-! # The command

Reads the command line, reads the file that the command asks for, and plays the script of the
command: its texts go to the standard output, its messages to the standard error.
-/

namespace Bindery.CommandLine

open Decimal (padded)

/-- The fault that an error of the system stands for. -/
def FileFault.ofError? : IO.Error → Option FileFault
  | .noFileOrDirectory _ _ _ => some .missing
  | .inappropriateType _ code _ => some (if code = 21 then .isDirectory else .notDirectory)
  | .invalidArgument _ code _ => some (if code = 22 then .nullInPath else .nameTooLong)
  | _ => none

/-- Reads a file. An error that stands for no fault is passed on. -/
def readFile (path : String) : IO (Except FileFault String) := do
  try
    let bytes ← IO.FS.readBinFile (normalPath path)
    match String.fromUTF8? bytes with
    | some text => return .ok text
    | none => return .error .undecodable
  catch e =>
    match FileFault.ofError? e with
    | some f => return .error f
    | none => throw e

/-- The time of day and the date, as log lines show them. -/
def stamp : IO String := do
  let now ← Std.Time.PlainDateTime.now
  let date := "-".intercalate
    [padded 4 now.year.toInt.toNat, padded 2 now.month.toNat, padded 2 now.day.toNat]
  let time := ":".intercalate
    [padded 2 now.hour.toNat, padded 2 now.minute.toNat, padded 2 now.second.toNat]
  return date ++ " " ++ time

/-- Takes one step of a script. -/
def perform (c : Log.Context) : Action → IO Unit
  | .print text => IO.print text
  | .log m => do
    let now ← if c.rich then stamp else pure ""
    IO.eprint (Log.report (some c) now m)
  | .write path text => IO.FS.writeFile (normalPath path) text

/-- Carries out a command line. -/
def carryOut (i : Invocation) : IO UInt32 := do
  let contents ← match i.command.input? with
    | some path => readFile path
    | none => pure (.ok "")
  let script := i.command.script contents
  for action in script.actions do
    perform i.context action
  match script.ending with
  | .exit code => return code.toUInt32
  | .crash reason =>
    IO.eprintln reason.message
    return 1

end Bindery.CommandLine

open Bindery.CommandLine in
/-- Exits with 2 where the command line does not fit the program. -/
def main (args : List String) : IO UInt32 := do
  match parse args with
  | .ok i => carryOut i
  | .error .help =>
    IO.print usage
    return 0
  | .error .usage =>
    IO.eprint usage
    return 2
