import Bindery.Description.Access
import Bindery.Description.Basic
import Bindery.Import.Labelled
import Bindery.Json.Reader
import Bindery.Text.Case

/-! # Reading a description

The parts of a description are read in a fixed order, configuration, namespaces, types, imports,
wrappers, and the first fault ends the reading. Keys that mean nothing are passed over.
-/

namespace Bindery.Description

/-! ## Configuration -/

/-- Reads where a library description came from. -/
def readSource (v : Json) : Except Failure SourceEntry := do
  let dir ← require v "gir_dir" "config.girs_version"
  let repository ← get v "repository_url"
  let hash ← get v "hash"
  return ⟨dir, repository, hash⟩

/-- Reads the configuration. Without a version the baseline is 0.0. -/
def readConfig (v : Json) : Except Failure ConfigEntry := do
  let sources ← (← itemsAt v "girs_version").mapM readSource
  let versionFile ← get v "single_version_file"
  let minVersion ← versionAt v "min_cfg_version" "config.min_cfg_version"
  return ⟨some (minVersion.getD ⟨0, 0, 0⟩), sources, versionFile⟩

/-! ## Namespaces -/

/-- Reads a namespace. Crates are named for it unless they have names of their own; the sys crate
of the first is `ffi`. -/
def readNamespace (isFirst : Bool) (v : Json) : Except Failure NamespaceEntry := do
  let name ← text (← require v "name" "namespaces")
  let lowered := Text.lower name
  let crateName ← getD v "crate_name" (.string lowered)
  let sysCrate := if isFirst then "ffi" else lowered ++ "::ffi"
  let sysCrateName ← getD v "sys_crate_name" (.string sysCrate)
  let minVersion ← versionAt v "min_required_version" ("namespace " ++ name)
  return ⟨name, crateName, sysCrateName, minVersion⟩

/-- Reads the namespaces, of which there must be one. -/
def readNamespaces (v : Json) : Except Failure (List NamespaceEntry) :=
  if !v.isTruthy then refuse .noNamespace
  else do
    match ← items v with
    | [] => return []
    | first :: others =>
      let main ← readNamespace true first
      let rest ← others.mapM (readNamespace false)
      return main :: rest

/-- The id of the last namespace with a name. -/
def idOf? (ns : List NamespaceEntry) (name : String) : Option Nat :=
  (ns.reverse.findIdx? fun n => n.name == name).map (ns.length - 1 - ·)

/-- The id of the namespace that a value names. -/
def namespaceId (ns : List NamespaceEntry) (v : Json) (place : String) : Except Failure Int :=
  match v with
  | .string name =>
    match idOf? ns name with
    | some id => .ok id
    | none => refuse (.unknownNamespace place name)
  | .array _ => misuse .operand
  | .object _ => misuse .operand
  | v => refuse (.unknownNamespace place v.display)

/-! ## Types -/

/-- Reads a type and the namespace it is in. -/
def readType (ns : List NamespaceEntry) (v : Json) : Except Failure (Int × TypeEntry) := do
  let place := "type " ++ (← getD v "name" (.string "?")).display
  let id ← namespaceId ns (← require v "namespace" place) place
  let kind ← require v "kind" place
  let name ← require v "name" place
  let cType ← require v "c_type" place
  let getType ← get v "glib_get_type"
  match kind with
  | .string "class" =>
    let refFn ← get v "ref_fn"
    let unrefFn ← get v "unref_fn"
    return (id, ⟨.classType, name, cType, getType, refFn, unrefFn⟩)
  | .string "interface" => return (id, { kind := .interfaceType, name, cType, getType })
  | .string "record" => return (id, { kind := .recordType, name, cType, getType })
  | kind => refuse (.unknownTypeKind place kind.display)

/-- Reads the types into a table. -/
def readTypes (ns : List NamespaceEntry) (vs : List Json) :
    Except Failure (TypeTable TypeEntry) := do
  let types ← vs.mapM (readType ns)
  return types.foldl (fun table t => table.add t.1 t.2) {}

/-! ## Imports -/

/-- Reads an import and adds it to those before it. -/
def readImport (before : Imports Label) (v : Json) : Except Failure (Imports Label) := do
  let name ← require v "name" "imports"
  let minVersion ← versionAt v "version" "imports.version"
  let constraints ← itemsAt v "constraints"
  match before.addLabel? name minVersion constraints with
  | some after => return after
  | none => misuse .operand

/-! ## Wrappers -/

/-- The status with a name in capitals. -/
def statusNamed? (name : String) : Option AncestorStatus :=
  if name = "ACTIVE" then some .active
  else if name = "IGNORED" then some .ignored
  else if name = "UNSPECIFIED" then some .unspecified
  else none

/-- Reads the status of an ancestor, in any case. -/
def readStatus (v : Json) (place : String) : Except Failure AncestorStatus := do
  let name := Text.upper (← text v)
  match statusNamed? name with
  | some s => return s
  | none => refuse (.unknownStatus place (Text.lower name))

/-- Reads an ancestor and finds it among the types. -/
def readAncestor (ns : List NamespaceEntry) (types : TypeTable TypeEntry) (place : String)
    (v : Json) : Except Failure AncestorEntry := do
  let nsName ← require v "namespace" place
  let nsId ← namespaceId ns nsName place
  let name ← require v "name" place
  match types.find? nsId fun t => t.name.same name with
  | none => refuse (.unknownAncestor place nsName.display name.display)
  | some id =>
    let status ← readStatus (← getD v "status" (.string "active")) place
    return ⟨id, name, status⟩

/-- Reads the ancestors of a type. -/
def readAncestors (ns : List NamespaceEntry) (types : TypeTable TypeEntry) (place : String)
    (v : Json) : Except Failure (List AncestorEntry) := do
  (← itemsAt v "parents").mapM (readAncestor ns types place)

/-- Reads the expressions that handle a value in place. -/
def readInline (v : Json) : Except Failure InlineEntry := do
  let isInline ← getD v "boxed_inline" (.bool false)
  let init ← get v "init_function_expression"
  let copyInto ← get v "copy_into_function_expression"
  let clear ← get v "clear_function_expression"
  return ⟨isInline, init, copyInto, clear⟩

/-- Reads the function that copies a boxed type; a text alone is its name. -/
def readCopy (v : Json) (place : String) : Except Failure CopyEntry := do
  let v := match v with
    | .string s => .object [("name", .string s)]
    | v => v
  let name ← require v "name" place
  let since ← versionAt v "version" place
  let takesMut ← getD v "first_parameter_mut" (.bool false)
  return ⟨name, since, takesMut⟩

/-- Reads an object or an interface. -/
def readObject (ns : List NamespaceEntry) (types : TypeTable TypeEntry) (isInterface : Bool)
    (v : Json) (place : String) : Except Failure ShapeEntry := do
  let getTypeFn ← require v "get_type_fn" place
  let parents ← readAncestors ns types place v
  let classStruct ← get v "class_struct"
  return .object getTypeFn isInterface parents classStruct

/-- Reads the shape of a wrapper. -/
def readShape (ns : List NamespaceEntry) (types : TypeTable TypeEntry) (v : Json)
    (place : String) : Except Failure ShapeEntry := do
  match ← require v "kind" place with
  | .string "fundamental" =>
    let getTypeFn ← require v "get_type_fn" place
    let refFn ← get v "ref_fn"
    let unrefFn ← get v "unref_fn"
    let parents ← readAncestors ns types place v
    return .fundamental getTypeFn refFn unrefFn parents
  | .string "object" => readObject ns types false v place
  | .string "interface" => readObject ns types true v place
  | .string "boxed" =>
    let copy ← readCopy (← require v "copy_fn" place) place
    let freeFn ← require v "free_fn" place
    let inline ← readInline v
    let getTypeFn ← get v "get_type_fn"
    let getTypeVersion ← versionAt v "get_type_version" place
    return .boxed copy freeFn inline getTypeFn getTypeVersion
  | .string "auto_boxed" =>
    let getTypeFn ← require v "get_type_fn" place
    let inline ← readInline v
    return .autoBoxed getTypeFn inline
  | .string "shared" =>
    let refFn ← require v "ref_fn" place
    let unrefFn ← require v "unref_fn" place
    let getTypeFn ← get v "get_type_fn"
    let getTypeVersion ← versionAt v "get_type_version" place
    return .shared refFn unrefFn getTypeFn getTypeVersion
  | kind => refuse (.unknownWrapperKind place kind.display)

/-- Reads a derive attribute. -/
def readDerive (place : String) (v : Json) : Except Failure DeriveEntry := do
  let names ← items (← require v "names" place)
  let cfg ← get v "cfg_condition"
  return ⟨names, cfg⟩

/-- Reads a function of a type. -/
def readFunction (place : String) (v : Json) : Except Failure FunctionEntry := do
  let name ← require v "name" place
  let parameterCount ← getD v "parameter_count" (.int 0)
  let hidden ← getD v "hidden" (.bool false)
  let needGenerate ← getD v "need_generate" (.bool true)
  let returnsValue ← getD v "returns_value" (.bool true)
  let nullable ← getD v "ret_nullable" (.bool false)
  let since ← versionAt v "version" place
  return ⟨name, parameterCount, hidden, needGenerate, returnsValue, nullable, since⟩

/-- Reads the visibility of a wrapper. -/
def readVisibility (v : Json) (place : String) : Except Failure Visibility := do
  let keyword ← text v
  match Visibility.parse? keyword with
  | some visibility => return visibility
  | none => refuse (.unknownVisibility place keyword)

/-- Reads a wrapper. -/
def readWrapper (ns : List NamespaceEntry) (types : TypeTable TypeEntry) (v : Json) :
    Except Failure WrapperEntry := do
  let typeName ← require v "type_name" "wrappers"
  let place := "wrapper " ++ typeName.display
  let visibility ← readVisibility (← getD v "visibility" (.string "pub")) place
  let cName ← require v "glib_name" place
  let docAlias ← get v "doc_alias"
  let derives ← (← itemsAt v "derives").mapM (readDerive place)
  let functions ← (← itemsAt v "functions").mapM (readFunction place)
  let shape ← readShape ns types v place
  let hasBuilder ← getD v "has_builder" (.bool false)
  return ⟨typeName, cName, visibility, docAlias, derives, shape, functions, hasBuilder⟩

/-! ## The whole -/

/-- Reads a description. -/
def read (v : Json) : Except Failure Description := do
  let config ← readConfig (← getD v "config" (.object []))
  let namespaces ← readNamespaces (← require v "namespaces" "description")
  let types ← readTypes namespaces (← itemsAt v "types")
  let imports ← (← itemsAt v "imports").foldlM readImport {}
  let wrappers ← (← itemsAt v "wrappers").mapM (readWrapper namespaces types)
  return ⟨config, namespaces, types, imports, wrappers⟩

/-- A text in which every end of line is a line feed. -/
def unifyLineEnds : List Char → List Char
  | [] => []
  | '\r' :: '\n' :: rest => '\n' :: unifyLineEnds rest
  | c :: rest => (if c = '\r' then '\n' else c) :: unifyLineEnds rest

/-- Reads the description in the text of a file. -/
def readText (path fileText : String) : Except Failure Description :=
  let cs := unifyLineEnds fileText.toList
  match Json.read cs with
  | .error (.flaw f left) => refuse (.notJson path (f.locate cs left))
  | .error (.hugeNumber digits) => .error (.hugeNumber digits)
  | .ok v =>
    match v with
    | .object _ => read v
    | _ => refuse (.notObject path)

/-- What is logged of a description that has been read. -/
def summary (d : Description) : Log.Message :=
  ⟨.debug, "Loaded " ++ toString d.types.entries.length ++ " types, " ++
    toString d.wrappers.length ++ " wrappers"⟩

end Bindery.Description
