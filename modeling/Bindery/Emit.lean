import Bindery.Failure
import Bindery.Log

/-! # Emission

A renderer is a computation that writes texts and log messages in order and ends in a value or an
internal error. What it writes does not depend on where it is written to: a sink that fails after
some writes sees those writes and no other, and the log is filtered after the fact.
-/

namespace Bindery

/-- One step of an emission. -/
inductive Event
  | write (text : String)
  | log (message : Log.Message)
deriving DecidableEq

namespace Event

/-- The text of a write. -/
def text? : Event → Option String
  | write text => some text
  | log _ => none

/-- The message of a log event. -/
def message? : Event → Option Log.Message
  | write _ => none
  | log message => some message

end Event

/-- The events of a renderer, in order, and its result. -/
structure Emit (α : Type) where
  events : List Event
  result : Except InternalError α

namespace Emit

variable {α β : Type}

/-- Writes nothing. -/
protected def pure (a : α) : Emit α := ⟨[], .ok a⟩

/-- What follows an error is not run. -/
protected def bind (x : Emit α) (f : α → Emit β) : Emit β :=
  match x.result with
  | .ok a => ⟨x.events ++ (f a).events, (f a).result⟩
  | .error e => ⟨x.events, .error e⟩

instance : Monad Emit where
  pure := Emit.pure
  bind := Emit.bind

instance : MonadLift (Except InternalError) Emit where
  monadLift r := ⟨[], r⟩

/-- Ends with an error. -/
def fail (e : InternalError) : Emit α := ⟨[], .error e⟩

/-- One write. -/
def write (text : String) : Emit Unit := ⟨[.write text], .ok ()⟩

/-- A line is two writes, the second of which ends it. -/
def line (text : String) : Emit Unit := do
  write text
  write "\n"

/-- The line of a text that may be absent. -/
def line? : Option String → Emit Unit
  | none => pure ()
  | some text => line text

/-- Each text on a line of its own. -/
def eachLine : List String → Emit Unit
  | [] => pure ()
  | text :: rest => do
    line text
    eachLine rest

/-- One log message. -/
def log (m : Log.Message) : Emit Unit := ⟨[.log m], .ok ()⟩

/-- A message on a detail. -/
def debug (text : String) : Emit Unit := log ⟨.debug, text⟩

/-- The texts written, in order. -/
def writes (x : Emit α) : List String := x.events.filterMap Event.text?

/-- Everything written. -/
def text (x : Emit α) : String := String.join x.writes

/-- The messages logged, in order. -/
def messages (x : Emit α) : List Log.Message := x.events.filterMap Event.message?

/-! ## Sinks that fail -/

/-- How a run into a sink ends. -/
inductive Outcome (α : Type)
  | done (a : α)
  | failed (e : InternalError)
  /-- The sink refused a write. -/
  | sinkFull

/-- What became of a run into a sink. -/
structure Run (α : Type) where
  events : List Event
  outcome : Outcome α

/-- The result as an outcome. -/
def outcome (x : Emit α) : Outcome α :=
  match x.result with
  | .ok a => .done a
  | .error e => .failed e

/-- The events up to the write that a sink refuses after `room` writes, if it comes to that. -/
def cutAt (room : Nat) : List Event → Option (List Event)
  | [] => none
  | .log m :: rest => (cutAt room rest).map (.log m :: ·)
  | .write text :: rest =>
    match room with
    | 0 => some []
    | room + 1 => (cutAt room rest).map (.write text :: ·)

/-- Runs into a sink that takes `room` writes and refuses the next; without a limit it takes all. -/
def run (x : Emit α) : Option Nat → Run α
  | none => ⟨x.events, x.outcome⟩
  | some room =>
    match cutAt room x.events with
    | none => ⟨x.events, x.outcome⟩
    | some events => ⟨events, .sinkFull⟩

end Emit

end Bindery
