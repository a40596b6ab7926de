import Bindery.Label
import Bindery.Text.Search

/-! # Internal errors

Faults of the metadata that rendering cannot recover from: guessing how a pointer lives would
give unsound bindings. Each cause has a code of its own.
-/

namespace Bindery

/-- A type of the library: the position of its namespace and its place there. -/
structure TypeId where
  ns : Int
  slot : Int
deriving DecidableEq, Inhabited

/-- Where an internal error arose. -/
structure Location where
  ns : Option String
  typeName : Option Label

/-- Why rendering cannot go on. -/
inductive Cause
  /-- No namespace has the id. -/
  | unknownNamespace (id : Int)
  /-- The type table has no entry for the id. -/
  | unknownType (id : TypeId)
  /-- A root type has no functions that count references. -/
  | rootLifetime
  /-- No ancestor class has functions that count references. -/
  | inheritedLifetime
  /-- Some but not all of the inline expressions are given. -/
  | partialInline
  /-- An import has no namespace before its symbol. -/
  | unqualifiedImport (name : String)
  /-- The shape of the wrapper is not known. -/
  | unknownWrapper (kind : String)
  /-- A label is not fit for its use. -/
  | unfit (m : Misuse)
  /-- Any other fault, in its own words. -/
  | other (message : String)
deriving DecidableEq

/-- The text of a cause, its code in front. -/
def Cause.message : Cause → String
  | unknownNamespace id => "[ICE-2001] unknown namespace id " ++ toString id
  | unknownType id =>
    "[ICE-2002] type id " ++ toString id.ns ++ ":" ++ toString id.slot ++
      " is not in the type table"
  | rootLifetime => "[ICE-2010] root fundamental type has no ref/unref functions"
  | inheritedLifetime => "[ICE-2011] no ancestor class of fundamental type declares ref/unref"
  | partialInline => "[ICE-2020] init/copy_into/clear must be given together"
  | unqualifiedImport name => "[ICE-2030] import '" ++ name ++ "' has no namespace qualifier"
  | unknownWrapper kind => "[ICE-2040] unknown wrapper kind " ++ kind
  | unfit _ => "a name is not fit for its use"
  | other message => message

/-- An internal error: its cause and, where known, its place. -/
structure InternalError where
  cause : Cause
  location : Option Location := none

namespace InternalError

/-- The message with a code; one without gets the general code. -/
def codedMessage (e : InternalError) : String :=
  if Text.occursIn "[ICE-".toList e.cause.message.toList then e.cause.message
  else "[ICE-9999] " ++ e.cause.message

/-- What stands before the message: the type at fault, in its namespace where that is known. -/
def place (e : InternalError) : String :=
  match e.location with
  | some ⟨ns, some typeName⟩ =>
    match typeName.subject?, ns with
    | none, _ => ""
    | some t, some n => if n.isEmpty then t ++ ": " else n ++ "." ++ t ++ ": "
    | some t, none => t ++ ": "
  | _ => ""

/-- The error for a reader. -/
def format (e : InternalError) : String :=
  e.place ++ "internal generator error: " ++ e.codedMessage

end InternalError

/-- Fails with a cause at no particular place. -/
def Cause.throw {α : Type} (c : Cause) : Except InternalError α := .error { cause := c }

namespace Label

/-- The text that a label must be. -/
def text (l : Label) : Except InternalError String :=
  match l.text? with
  | some s => .ok s
  | none => (Cause.unfit .operand).throw

/-- Labels with a comma between them. All must be texts. -/
def joined (ls : List Label) : Except InternalError String :=
  (ls.mapM text).map (", ".intercalate ·)

end Label

end Bindery
