import Bindery.CommandLine.Options
import Bindery.Log

/-! # Commands

The command line has flags for what is logged, a command, and the arguments of the command.
-/

namespace Bindery.CommandLine

/-- What is to be done. -/
inductive Command
  /-- Generate a module from a description. -/
  | gen (description : String) (output versionsFile : Option String)
  /-- Print the guard of a version. A baseline may be asked for without being named. -/
  | guard (version : String) (baseline : Option (Option String)) (crateTag : Option String)
      (noDoc complement : Bool)
  /-- Evaluate a predicate. A feature or flag may be asked for without being named. -/
  | cfg (predicate : String) (features flags : List (Option String))
deriving DecidableEq

/-- What is to be done, and what is logged of it. -/
structure Invocation where
  verbosity : Nat
  rich : Bool
  command : Command
deriving DecidableEq

/-- Messages of detail are shown from the third flag on, messages of progress from the first. -/
def Invocation.context (i : Invocation) : Log.Context :=
  ⟨if 3 ≤ i.verbosity then .debug else if 1 ≤ i.verbosity then .info else .error, i.rich⟩

/-! ## The options -/

/-- Options of any command. -/
inductive Key
  | verbose
  | log
  | output
  | versionsFile
  | baseline
  | crateTag
  | noDoc
  | complement
  | feature
  | flag
deriving DecidableEq

/-- The option that every command has. -/
def helpOption : OptionSpec Key := ⟨["-h", "--help"], .help⟩

/-- Options before the command. -/
def mainOptions : List (OptionSpec Key) :=
  [helpOption, ⟨["-v", "--verbose"], .flag .verbose⟩, ⟨["-l", "--log"], .flag .log⟩]

/-- Options of `gen`. -/
def genOptions : List (OptionSpec Key) :=
  [helpOption, ⟨["--output", "-o"], .valued .output⟩,
    ⟨["--versions-file"], .valued .versionsFile⟩]

/-- Options of `guard`. -/
def guardOptions : List (OptionSpec Key) :=
  [helpOption, ⟨["--baseline", "-b"], .valued .baseline⟩, ⟨["--prefix", "-p"], .valued .crateTag⟩,
    ⟨["--no-doc"], .flag .noDoc⟩, ⟨["--complement"], .flag .complement⟩]

/-- Options of `cfg`. -/
def cfgOptions : List (OptionSpec Key) :=
  [helpOption, ⟨["--feature", "-F"], .valued .feature⟩, ⟨["--flag"], .valued .flag⟩]

/-! ## Reading a command line -/

/-- The positional of a command, and its options with their values, in order. -/
structure Arguments where
  positional : String
  options : List (Key × Option String)

namespace Arguments

/-- What an option is given, each time in order. -/
def values (a : Arguments) (key : Key) : List (Option String) :=
  (a.options.filter (·.1 == key)).map (·.2)

/-- What an option is given the last time. -/
def last? (a : Arguments) (key : Key) : Option (Option String) := (a.values key).getLast?

/-- The text that an option is given the last time, if it is one. -/
def text? (a : Arguments) (key : Key) : Option String := (a.last? key).join

/-- Whether an option is given. -/
def has (a : Arguments) (key : Key) : Bool := a.options.any (·.1 == key)

/-- Reads the arguments of a command. A shortened name with several meanings is refused before
anything is read, and what the command does not know after all has been read. -/
def read (specs : List (OptionSpec Key)) (args : List String) : Except Rejection Arguments :=
  if hasAmbiguous specs args then .error .usage
  else
    let is := items specs args
    match stop? is with
    | some r => .error r
    | none =>
      match allKnown is, onePositional? is with
      | true, some p => .ok ⟨p, givenOptions is⟩
      | _, _ => .error .usage

end Arguments

/-- The command with a name; names are not shortened. -/
def command (name : String) (args : List String) : Except Rejection Command :=
  if name = "gen" then do
    let a ← Arguments.read genOptions args
    return .gen a.positional (a.text? .output) (a.text? .versionsFile)
  else if name = "guard" then do
    let a ← Arguments.read guardOptions args
    return .guard a.positional (a.last? .baseline) (a.text? .crateTag) (a.has .noDoc)
      (a.has .complement)
  else if name = "cfg" then do
    let a ← Arguments.read cfgOptions args
    return .cfg a.positional (a.values .feature) (a.values .flag)
  else .error .usage

/-- Reads a command line: flags, the name of a command, and the arguments of the command. -/
def parse (args : List String) : Except Rejection Invocation :=
  if hasAmbiguous mainOptions args then .error .usage
  else
    let front := args.takeWhile fun arg => !isPositional mainOptions arg
    let is := items mainOptions front
    match stop? is, args.drop front.length with
    | some r, _ => .error r
    | none, [] => .error .usage
    | none, name :: rest => do
      let c ← if front.contains "--" then .error .usage else command name rest
      if allKnown is then
        let keys := (givenOptions is).map (·.1)
        return ⟨keys.count .verbose, keys.contains .log, c⟩
      else .error .usage

/-- What is printed for help. -/
def usage : String :=
  "usage: wgc [-h] [-v] [-l] \x7bgen,guard,cfg\x7d ...\n"

end Bindery.CommandLine
