import Bindery.Failure
import Bindery.Version

/-! # The foreign library

Namespaces are numbered in the order in which they are added, the one being bound first. Types
stand in one table and are known by the number of their namespace and their place among its
types, so ancestors are lists of such ids.
-/

namespace Bindery

/-! ## Namespaces -/

/-- A foreign namespace and the crates that bind it. Symbols no newer than `minVersion` need no
guard. -/
structure Namespace where
  name : String
  crateName : String
  sysCrateName : String
  minVersion : Option Version := none
deriving DecidableEq

/-- The id of the namespace that is being bound. -/
def mainId : Int := 0

/-! ## Types -/

/-- What all named types have. -/
structure NamedType where
  name : String
  cType : String
  getType : Option String := none
deriving DecidableEq

/-- A type of the library. -/
inductive LibraryType
  /-- A class, perhaps with functions that count references. -/
  | classType (named : NamedType) (refFn unrefFn : Option String)
  | interfaceType (named : NamedType)
  | recordType (named : NamedType)
  /-- A type of which nothing is known. -/
  | bare
deriving DecidableEq

namespace LibraryType

/-- What a type has if it is named. -/
def named? : LibraryType → Option NamedType
  | classType named _ _ => some named
  | interfaceType named => some named
  | recordType named => some named
  | bare => none

/-- The name of a type that has one. -/
def name? (t : LibraryType) : Option String := t.named?.map (·.name)

/-- The pair of functions that count references, of a class that has both. -/
def lifetime? : LibraryType → Option (String × String)
  | classType _ (some refFn) (some unrefFn) => some (refFn, unrefFn)
  | _ => none

end LibraryType

/-! ## The type table -/

/-- Entries in the order in which they were added. -/
structure TypeTable (τ : Type) where
  entries : List (TypeId × τ) := []

namespace TypeTable

variable {τ : Type}

/-- The number of types in a namespace. -/
def countIn (t : TypeTable τ) (ns : Int) : Nat := t.entries.countP fun e => e.1.ns == ns

/-- The id that the next type of a namespace gets. -/
def nextId (t : TypeTable τ) (ns : Int) : TypeId := ⟨ns, t.countIn ns⟩

/-- Adds a type to a namespace. -/
def add (t : TypeTable τ) (ns : Int) (a : τ) : TypeTable τ := ⟨t.entries ++ [(t.nextId ns, a)]⟩

/-- The type with an id. -/
def get? (t : TypeTable τ) (id : TypeId) : Option τ :=
  (t.entries.find? fun e => e.1 == id).map (·.2)

/-- The first type of a namespace that has a property. -/
def find? (t : TypeTable τ) (ns : Int) (p : τ → Bool) : Option TypeId :=
  (t.entries.find? fun e => e.1.ns == ns && p e.2).map (·.1)

end TypeTable

/-! ## Ancestors -/

/-- Whether an ancestor is wanted in the bindings. -/
inductive AncestorStatus
  | active
  | ignored
  | unspecified
deriving DecidableEq

/-- An entry of a chain of ancestors: a type, the name it is printed with, and its status. -/
structure Ancestor where
  id : TypeId
  name : Label
  status : AncestorStatus := .active

/-- The ancestors that are wanted, in their order. -/
def activeAncestors (ps : List Ancestor) : List Ancestor := ps.filter fun p => p.status == .active

/-! ## The library -/

/-- The namespaces and the types of a library. -/
structure Library where
  namespaces : List Namespace := []
  types : TypeTable LibraryType := {}

namespace Library

/-- Adds a namespace, whose id is the number of those before it. -/
def addNamespace (l : Library) (n : Namespace) : Library :=
  { l with namespaces := l.namespaces ++ [n] }

/-- Adds a type to a namespace, which need not exist. -/
def addType (l : Library) (ns : Int) (t : LibraryType) : Library :=
  { l with types := l.types.add ns t }

/-- The namespace with an id, if there is one. -/
def namespace? (l : Library) (id : Int) : Option Namespace :=
  if id < 0 then none else l.namespaces[id.toNat]?

/-- The namespace with an id. -/
def findNamespace (l : Library) (id : Int) : Except InternalError Namespace :=
  match l.namespace? id with
  | some n => .ok n
  | none => (Cause.unknownNamespace id).throw

/-- The type with an id; a missing one is reported at its namespace. -/
def findType (l : Library) (id : TypeId) : Except InternalError LibraryType :=
  match l.types.get? id with
  | some t => .ok t
  | none => .error ⟨.unknownType id, some ⟨(l.namespace? id.ns).map (·.name), none⟩⟩

/-- The first type of a namespace with a name; no name finds a type of which nothing is known. -/
def typeNamed? (l : Library) (ns : Int) (name : Option String) : Option TypeId :=
  l.types.find? ns fun t => t.name? == name

/-- Whether the crate being bound is the one that all others rest on. -/
def isGlib (l : Library) : Bool :=
  match l.namespaces with
  | [] => false
  | n :: _ => n.name == "GLib"

end Library

end Bindery
