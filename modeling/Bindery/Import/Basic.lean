import Bindery.Import.Scope
import Bindery.Text.Search

/-! # Imports

Every qualified name that a module refers to is kept with the weakest of the scopes under which it
was asked for, since the import must be there whenever one of those who asked is compiled.
-/

namespace Bindery

/-- A symbol of a crate, and where it is needed. -/
structure ImportRequest (κ : Type) where
  crate : String
  symbol : String
  scope : Scope κ := {}
deriving DecidableEq

/-- Splits a qualified name at its first `::`, with something on both sides. -/
def ImportRequest.ofName {κ : Type} (name : String) (scope : Scope κ) :
    Except InternalError (ImportRequest κ) :=
  match Text.splitFirst? "::".toList name.toList with
  | some (crate, symbol) =>
    if crate.isEmpty || symbol.isEmpty then (Cause.unqualifiedImport name).throw
    else .ok ⟨String.ofList crate, String.ofList symbol, scope⟩
  | none => (Cause.unqualifiedImport name).throw

/-- Names and their scopes, by increasing name. Names and constraints are texts, or labels. -/
structure Imports (κ : Type) where
  entries : List (κ × Scope κ) := []
deriving DecidableEq

namespace Imports

section

variable {κ : Type} [Ord κ]

/-- Asks for a name. -/
def add (i : Imports κ) (name : κ) (version : Option Version) (constraints : List κ) : Imports κ :=
  let asked := Scope.of constraints version
  ⟨Ordered.alter compare name (fun | none => asked | some s => s.weaken asked) i.entries⟩

/-- The number of names. -/
def size (i : Imports κ) : Nat := i.entries.length

/-- The scope of a name. -/
def scope? (i : Imports κ) (name : κ) : Option (Scope κ) := Ordered.find? compare name i.entries

end

/-- The names as requests; the first name without a crate is an error. -/
def requests (i : Imports String) : Except InternalError (List (ImportRequest String)) :=
  i.entries.mapM fun e => ImportRequest.ofName e.1 e.2

end Imports

end Bindery
