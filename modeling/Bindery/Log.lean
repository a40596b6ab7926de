/-! # Log lines

A message has a level, and a context shows the messages up to its own level. In the rich format
a line begins with the time and, except for the silent level, the name of its level.
-/

namespace Bindery.Log

/-- How much a message matters, or how much is to be seen. -/
inductive Level
  | silent
  | error
  | warning
  | info
  | debug
deriving DecidableEq

namespace Level

/-- The place of a level, the weightiest messages first. -/
def rank : Level → Nat
  | silent => 0
  | error => 3
  | warning => 6
  | info => 10
  | debug => 30

/-- The name shown in rich lines. -/
def name? : Level → Option String
  | silent => none
  | error => some "ERROR"
  | warning => some "WARNING"
  | info => some "INFO"
  | debug => some "DEBUG"

end Level

/-- A message and its level. -/
structure Message where
  level : Level
  text : String
deriving DecidableEq

/-- What is shown, and how. -/
structure Context where
  level : Level := .warning
  rich : Bool := false

namespace Context

/-- Whether messages of a level are shown. -/
def admits (c : Context) (l : Level) : Bool := l.rank ≤ c.level.rank

/-- What stands before a message. -/
def lead (c : Context) (stamp : String) (l : Level) : String :=
  match c.rich, l.name? with
  | true, some name => stamp ++ " [" ++ name ++ "] "
  | _, _ => ""

/-- The lines shown of some messages. -/
def lines (c : Context) (stamp : String) (ms : List Message) : List String :=
  (ms.filter fun m => c.admits m.level).map fun m => c.lead stamp m.level ++ m.text

/-- The text shown of some messages, each on a line. -/
def render (c : Context) (stamp : String) (ms : List Message) : String :=
  String.join ((c.lines stamp ms).map (· ++ "\n"))

end Context

/-- The message that opens a stage of the work on a subject. -/
def stage (what : String) (subject : Option String) : Message :=
  match subject with
  | some s => ⟨.info, if s.isEmpty then what ++ "..." else what ++ " '" ++ s ++ "'"⟩
  | none => ⟨.info, what ++ "..."⟩

/-- What is shown of a message when there is no context. -/
def showBare (m : Message) : String :=
  "No context provided for logging.\n" ++ m.text ++ "\n"

/-- What is shown of a message in a context, or without one. -/
def report (context : Option Context) (stamp : String) (m : Message) : String :=
  match context with
  | some c => c.render stamp [m]
  | none => showBare m

end Bindery.Log
