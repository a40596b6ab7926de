import Bindery.Bindings
import Bindery.Description.Reader

/-! # From a description to bindings

What a description says is turned into what a module is generated from. Where a text is wanted,
any value stands for its text in a message, and where a truth value is wanted, for whether it
counts as true.
-/

namespace Bindery.Description

/-- The text of a value, null being none. -/
def text? : Json → Option String
  | .null => none
  | v => some v.display

/-! ## The parts -/

/-- Where a library description came from. -/
def SourceEntry.provenance (e : SourceEntry) : Provenance :=
  ⟨e.dir.display, text? e.repository, text? e.hash⟩

/-- The configuration of the run. -/
def ConfigEntry.config (e : ConfigEntry) : Config :=
  { minVersion := e.minVersion
    sources := e.sources.map SourceEntry.provenance
    versionFile := text? e.versionFile }

/-- A namespace of the library. -/
def NamespaceEntry.ns (e : NamespaceEntry) : Namespace :=
  ⟨e.name, e.crateName.display, e.sysCrateName.display, e.minVersion⟩

/-- A type of the library. -/
def TypeEntry.type (e : TypeEntry) : LibraryType :=
  let named : NamedType := ⟨e.name.display, e.cType.display, text? e.getType⟩
  match e.kind with
  | .classType => .classType named (text? e.refFn) (text? e.unrefFn)
  | .interfaceType => .interfaceType named
  | .recordType => .recordType named

/-- An ancestor of a wrapped type. -/
def AncestorEntry.ancestor (e : AncestorEntry) : Ancestor := ⟨e.id, e.name, e.status⟩

/-- A derive attribute. -/
def DeriveEntry.derive (e : DeriveEntry) : Derive := ⟨e.names, text? e.cfg⟩

/-- The number of parameters. A value that is no number is not zero. -/
def countOf (v : Json) : Int :=
  match v with
  | .int n => n
  | v => if v.same (.int 0) then 0 else 1

/-- A function of a wrapped type. -/
def FunctionEntry.function (e : FunctionEntry) : Function :=
  { name := e.name.display
    parameterCount := countOf e.parameterCount
    hidden := e.hidden.isTruthy
    needGenerate := e.needGenerate.isTruthy
    returnsValue := e.returnsValue.isTruthy
    nullable := e.nullable.isTruthy
    version := e.version }

/-- The expressions that handle a value in place. -/
def InlineEntry.inline (e : InlineEntry) : Wrapper.Inline :=
  ⟨text? e.init, text? e.copyInto, text? e.clear⟩

/-- The structure of a class; a value that counts as false is none. -/
def classStruct? (v : Json) : Option String := if v.isTruthy then some v.display else none

/-- The shape of a wrapper. -/
def ShapeEntry.kind : ShapeEntry → Wrapper.Kind
  | fundamental getTypeFn refFn unrefFn parents =>
    .fundamental ⟨getTypeFn.display, text? refFn, text? unrefFn,
      parents.map AncestorEntry.ancestor⟩
  | object getTypeFn isInterface parents classStruct =>
    .object ⟨getTypeFn.display, isInterface, parents.map AncestorEntry.ancestor,
      classStruct? classStruct⟩
  | boxed copy freeFn inline getTypeFn getTypeVersion =>
    .boxed ⟨copy.name.display, copy.takesMut.isTruthy, freeFn.display, inline.isInline.isTruthy,
      inline.inline, text? getTypeFn, getTypeVersion⟩
  | autoBoxed getTypeFn inline =>
    .autoBoxed ⟨getTypeFn.display, inline.isInline.isTruthy, inline.inline⟩
  | shared refFn unrefFn getTypeFn getTypeVersion =>
    .shared ⟨refFn.display, unrefFn.display, text? getTypeFn, getTypeVersion⟩

/-- An alias that documentation also finds a type by. -/
def alias? : Json → Option Label
  | .null => none
  | v => some v

/-- A wrapper and the functions of its type. -/
def WrapperEntry.spec (e : WrapperEntry) : WrapperSpec where
  info := {
    typeName := e.typeName
    cName := e.cName.display
    visibility := e.visibility
    docAlias := alias? e.docAlias
    derives := e.derives.map DeriveEntry.derive }
  kind := e.shape.kind
  functions := e.functions.map FunctionEntry.function
  hasBuilder := e.hasBuilder.isTruthy

/-- The library of a description. Types keep the ids that they were read with. -/
def library (d : Description) : Library :=
  ⟨d.namespaces.map NamespaceEntry.ns, ⟨d.types.entries.map fun e => (e.1, e.2.type)⟩⟩

/-- What a module is generated from. -/
def bindings (d : Description) : Bindings :=
  ⟨⟨d.library, d.config.config⟩, d.imports, d.wrappers.map WrapperEntry.spec⟩

end Bindery.Description
