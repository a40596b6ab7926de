import Bindery.CommandLine.Script

/-! # A run in a directory

What a script prints, logs and writes when it is played in a directory. A write that fails breaks
the run off.
-/

namespace Bindery.CommandLine

/-- What a run has done, and how it ended. -/
structure Report where
  printed : List String
  logged : List Log.Message
  files : FileTree
  ending : Ending

namespace Report

/-- Everything printed. -/
def output (r : Report) : String := String.join r.printed

/-- Adds a text that was printed before. -/
def afterPrint (text : String) (r : Report) : Report := { r with printed := text :: r.printed }

/-- Adds a message that was logged before. -/
def afterLog (m : Log.Message) (r : Report) : Report := { r with logged := m :: r.logged }

/-- The files in the directory that were not there before, with their texts. -/
def newFiles (r : Report) (before : FileTree) : List (String × String) :=
  (r.files.filter fun e => isWithin e.1).filterMap fun e =>
    match before.node? e.1, e.2 with
    | none, .file text => some (e.1, text)
    | _, _ => none

end Report

/-- Plays the steps of a script. -/
def play (ending : Ending) (files : FileTree) : List Action → Report
  | [] => ⟨[], [], files, ending⟩
  | .print text :: rest => (play ending files rest).afterPrint text
  | .log m :: rest => (play ending files rest).afterLog m
  | .write path text :: rest =>
    match files.write path text with
    | .error f => ⟨[], [], files, .crash (.file path f)⟩
    | .ok files => play ending files rest

/-- Carries out a command in a directory. -/
def Command.run (c : Command) (files : FileTree) : Report :=
  let s := c.script (files.read (c.input?.getD ""))
  play s.ending files s.actions

end Bindery.CommandLine
