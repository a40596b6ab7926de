import Bindery.Attribute
import Bindery.Import.Basic

/-! # Descriptions

A description lists what is to be bound. What it says is kept as it was written, except for what
has to be understood to read the rest: versions, visibilities, statuses, kinds, and references to
namespaces and types.
-/

namespace Bindery.Description

/-- Where a library description came from. -/
structure SourceEntry where
  dir : Json
  repository : Json
  hash : Json

/-- The configuration of the run. -/
structure ConfigEntry where
  minVersion : Option Version
  sources : List SourceEntry
  versionFile : Json

/-- A namespace; the names of its crates have been filled in. -/
structure NamespaceEntry where
  name : String
  crateName : Json
  sysCrateName : Json
  minVersion : Option Version

/-- The kinds of types that a description has. -/
inductive TypeKind
  | classType
  | interfaceType
  | recordType
deriving DecidableEq

/-- A type. Only a class has functions that count references. -/
structure TypeEntry where
  kind : TypeKind
  name : Json
  cType : Json
  getType : Json
  refFn : Json := .null
  unrefFn : Json := .null

/-- An ancestor, which has been found in the library. -/
structure AncestorEntry where
  id : TypeId
  name : Json
  status : AncestorStatus

/-- A derive attribute. -/
structure DeriveEntry where
  names : List Json
  cfg : Json

/-- A function of a type. -/
structure FunctionEntry where
  name : Json
  parameterCount : Json
  hidden : Json
  needGenerate : Json
  returnsValue : Json
  nullable : Json
  version : Option Version

/-- The function that copies a boxed type. -/
structure CopyEntry where
  name : Json
  version : Option Version
  takesMut : Json

/-- The expressions that handle a value in place. -/
structure InlineEntry where
  isInline : Json
  init : Json
  copyInto : Json
  clear : Json

/-- The shape of a wrapper. -/
inductive ShapeEntry
  | fundamental (getTypeFn refFn unrefFn : Json) (parents : List AncestorEntry)
  | object (getTypeFn : Json) (isInterface : Bool) (parents : List AncestorEntry)
      (classStruct : Json)
  | boxed (copy : CopyEntry) (freeFn : Json) (inline : InlineEntry) (getTypeFn : Json)
      (getTypeVersion : Option Version)
  | autoBoxed (getTypeFn : Json) (inline : InlineEntry)
  | shared (refFn unrefFn getTypeFn : Json) (getTypeVersion : Option Version)

/-- A wrapper and the functions of its type. -/
structure WrapperEntry where
  typeName : Json
  cName : Json
  visibility : Visibility
  docAlias : Json
  derives : List DeriveEntry
  shape : ShapeEntry
  functions : List FunctionEntry
  hasBuilder : Json

end Bindery.Description

namespace Bindery

open Description in
/-- A description that has been read. -/
structure Description where
  config : ConfigEntry
  namespaces : List NamespaceEntry
  types : TypeTable TypeEntry
  imports : Imports Label
  wrappers : List WrapperEntry

end Bindery
