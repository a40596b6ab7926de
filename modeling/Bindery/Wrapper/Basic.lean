import Bindery.Attribute
import Bindery.Env

/-! # Wrappers

Each foreign type is bound by one declaration, whose shape says how the wrapped pointer lives:
fundamental types count references themselves or through an ancestor, objects and interfaces are
counted by the object system, boxed types are copied and freed by functions of their own or by
the runtime type, and shared types declare the functions that count their references.
-/

namespace Bindery.Wrapper

/-- What every declaration has. -/
structure Info where
  typeName : Label
  cName : String
  visibility : Visibility := .everywhere
  docAlias : Option Label := none
  derives : List Derive := []

/-- A type that counts references by functions of its own or of an ancestor. -/
structure Fundamental where
  getTypeFn : String
  refFn : Option String := none
  unrefFn : Option String := none
  parents : List Ancestor := []

/-- A class of objects or an interface. -/
structure Object where
  getTypeFn : String
  isInterface : Bool := false
  parents : List Ancestor := []
  classStruct : Option String := none

/-- The expressions that handle a value in place. They go together. -/
structure Inline where
  init : Option String := none
  copyInto : Option String := none
  clear : Option String := none

/-- A type that is copied and freed by functions of its own. -/
structure Boxed where
  copyFn : String
  copyTakesMut : Bool := false
  freeFn : String
  isInline : Bool := false
  inline : Inline := {}
  getTypeFn : Option String := none
  getTypeVersion : Option Version := none

/-- A type that is copied and freed by its runtime type. -/
structure AutoBoxed where
  getTypeFn : String
  isInline : Bool := false
  inline : Inline := {}

/-- A type that declares the functions that count its references. -/
structure Shared where
  refFn : String
  unrefFn : String
  getTypeFn : Option String := none
  getTypeVersion : Option Version := none

/-- The shape of a declaration. -/
inductive Kind
  | fundamental (k : Fundamental)
  | object (k : Object)
  | boxed (k : Boxed)
  | autoBoxed (k : AutoBoxed)
  | shared (k : Shared)
  /-- A shape that cannot be declared. -/
  | other (name : String)

/-- Whether the declaration begins with an empty line of its own. -/
def Kind.isSeparated : Kind → Bool
  | boxed _ => true
  | autoBoxed _ => true
  | shared _ => true
  | _ => false

/-- Fails with a cause at a type of the namespace being bound. -/
def failAt {α : Type} (env : Env) (info : Info) (c : Cause) : Except InternalError α := do
  let n ← env.library.findNamespace mainId
  .error ⟨c, some ⟨n.name, info.typeName⟩⟩

end Bindery.Wrapper
