import Bindery.CommandLine.Command
import Bindery.CommandLine.Files
import Bindery.Description.Bindings
import Bindery.Predicate.Parser

/-! # Carrying out a command

A command is turned into a script: what is logged, printed and written, in order, and how the run
ends. A description that can be read but not understood is reported; one whose values are not fit
for their use, and a file that is not a text, crash the run.
-/

namespace Bindery.CommandLine

/-- One step of a script. -/
inductive Action
  | log (message : Log.Message)
  | print (text : String)
  | write (path text : String)
deriving DecidableEq

/-- Why a run breaks off. -/
inductive Crash
  | file (path : String) (fault : FileFault)
  /-- An option has no value where one is needed. -/
  | option (m : Misuse)
  | description (failure : Description.Failure)
  | predicate (failure : Predicate.Failure)
deriving DecidableEq

/-- What the user is told of a run that breaks off. -/
def Crash.message : Crash → String
  | file path f => (f.report? path).getD "a file cannot be read or written"
  | option _ => "an option has no value"
  | description _ => "a value of the description is not fit for its use"
  | predicate _ => "the predicate breaks off"

/-- How a run ends. -/
inductive Ending
  | exit (code : Nat)
  | crash (reason : Crash)
deriving DecidableEq

/-- The steps of a run and its end. -/
structure Script where
  actions : List Action
  ending : Ending
deriving DecidableEq

/-- A script that goes on after some steps. -/
def Script.after (before : List Action) (s : Script) : Script := ⟨before ++ s.actions, s.ending⟩

/-- Logs an error and exits. -/
def reportError (text : String) : Script := ⟨[.log ⟨.error, text⟩], .exit 1⟩

/-- A message on the progress of the work. -/
def progress (text : String) : Action := .log ⟨.info, text⟩

/-! ## Generating a module -/

/-- Writes a file and says so. -/
def writeFile (path text : String) : List Action := [.write path text, progress ("Wrote " ++ path)]

/-- A path that is given and not empty. -/
def givenPath? (path : Option String) : Option String := path.filter fun p => !p.isEmpty

/-- Where the code and the versions go. -/
def deliver (c : Config) (code : String) (output versionsFile : Option String) : List Action :=
  (match givenPath? output with
    | some path => writeFile path code
    | none => [.print code]) ++
  (match givenPath? versionsFile with
    | some path => writeFile path (Emit.versionsFile c).text
    | none => [])

/-- Generates the module of some bindings. -/
def generate (b : Bindings) (output versionsFile : Option String) : Script :=
  let code := Emit.bindings b
  Script.after (code.messages.map .log)
    (match code.result with
      | .error ⟨.unfit m, _⟩ => ⟨[], .crash (.description (.misused m))⟩
      | .error e => reportError e.format
      | .ok () => ⟨deliver b.env.config code.text output versionsFile, .exit 0⟩)

/-- Generates the module of a description. -/
def generateFrom (r : Except Description.Failure Description)
    (output versionsFile : Option String) : Script :=
  match r with
  | .error (.refused e) => reportError ("error: " ++ e.message)
  | .error e => ⟨[], .crash (.description e)⟩
  | .ok d => Script.after [.log d.summary] (generate d.bindings output versionsFile)

/-- The script of `gen`, given what reading the description gave. -/
def genScript (path : String) (contents : Except FileFault String)
    (output versionsFile : Option String) : Script :=
  Script.after [progress ("Loading description: " ++ path)]
    (match contents with
      | .ok text => generateFrom (Description.readText (normalPath path) text) output versionsFile
      | .error f =>
        match f.report? path with
        | some report => reportError ("error: [WGC-0010] cannot read " ++ path ++ ": " ++ report)
        | none => ⟨[], .crash (.file path f)⟩)

/-! ## Guards and predicates -/

/-- Reports a text that is no version. -/
def reportVersion (e : Version.ParseError) : Script :=
  reportError ("error: [WGC-0020] " ++ e.message)

/-- Prints the guard of a version against a baseline. -/
def printGuard (version : Version) (baseline : Option Version) (crateTag : Option String)
    (noDoc complement : Bool) : Script :=
  match Guard.resolve? (some version) baseline crateTag with
  | none =>
    ⟨[progress (version.text ++ " needs no guard against baseline " ++
      Version.describe baseline)], .exit 0⟩
  | some g =>
    let text := if complement then g.complementAttribute {} else g.render (!noDoc) {}
    ⟨[.print (text ++ "\n")], .exit 0⟩

/-- The script of `guard`. -/
def guardScript (version : String) (baseline : Option (Option String)) (crateTag : Option String)
    (noDoc complement : Bool) : Script :=
  match Version.parse version, baseline with
  | .error e, _ => reportVersion e
  | .ok v, none => printGuard v none crateTag noDoc complement
  | .ok _, some none => ⟨[], .crash (.option .property)⟩
  | .ok v, some (some text) =>
    match Version.parse text with
    | .error e => reportVersion e
    | .ok b => printGuard v (some b) crateTag noDoc complement

/-- Evaluates a predicate: one that holds exits with 0, one that does not with 3. -/
def evaluate (predicate : String) (features flags : List String) : Script :=
  match Predicate.isActive ⟨features.contains, flags.contains⟩ predicate with
  | .error (.refused e) => reportError ("error: " ++ e.message)
  | .error e => ⟨[], .crash (.predicate e)⟩
  | .ok true => ⟨[.print "active\n"], .exit 0⟩
  | .ok false => ⟨[.print "inactive\n"], .exit 3⟩

/-- The script of `cfg`. -/
def cfgScript (predicate : String) (features flags : List (Option String)) : Script :=
  match features.mapM id, flags.mapM id with
  | some features, some flags => evaluate predicate features flags
  | _, _ => ⟨[], .crash (.option .operand)⟩

/-! ## Any command -/

/-- The file that a command reads. -/
def Command.input? : Command → Option String
  | gen path _ _ => some path
  | _ => none

/-- The script of a command, given what reading its file gave. -/
def Command.script (c : Command) (contents : Except FileFault String) : Script :=
  match c with
  | gen path output versionsFile => genScript path contents output versionsFile
  | guard version baseline crateTag noDoc complement =>
    guardScript version baseline crateTag noDoc complement
  | cfg predicate features flags => cfgScript predicate features flags

end Bindery.CommandLine
