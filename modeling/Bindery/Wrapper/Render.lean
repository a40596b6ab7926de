import Bindery.Guard
import Bindery.Wrapper.Ancestry
import Bindery.Wrapper.Lifetime

/-! # Declarations

The text of each shape of wrapper. A boxed or shared type whose type accessor is newer than the
baseline is declared twice: with the accessor under the guard of its version, and without it under
the complement.
-/

namespace Bindery.Wrapper

open Emit

/-! ## Parts that all shapes share -/

/-- Opens a declaration, with the attributes of the type. -/
def opening (env : Env) (info : Info) : Emit Unit := do
  line (env.glibPath "wrapper!" ++ " \x7b")
  match info.docAlias with
  | none => pure ()
  | some name => docAlias name ⟨false, 1⟩
  derives info.derives ⟨false, 1⟩

/-- The struct of a declaration: how it is stored and what follows that. -/
def structLine (info : Info) (storage suffix : String) : String :=
  info.visibility.marker ⟨false, 1⟩ ++ "struct " ++ info.typeName.display ++ "(" ++ storage ++
    ")" ++ suffix ++ ";"

/-- The functions of a declaration, and its end. -/
def functions (entries : List String) : Emit Unit := do
  line ""
  line "\tmatch fn \x7b"
  eachLine (entries.map ("\t\t" ++ ·))
  line "\t\x7d"
  line "\x7d"

/-- The entry of the type accessor. -/
def typeEntry (sysCrate getTypeFn : String) : String :=
  "type_ => || " ++ sysCrate ++ "::" ++ getTypeFn ++ "(),"

/-! ## Values in place -/

/-- The expressions of a group that is complete. -/
structure InlineGroup where
  init : String
  copyInto : String
  clear : String

/-- The group of a type: all of its expressions, or none. -/
def inlineGroup (env : Env) (info : Info) (e : Inline) :
    Except InternalError (Option InlineGroup) :=
  match e.init, e.copyInto, e.clear with
  | some init, some copyInto, some clear => .ok (some ⟨init, copyInto, clear⟩)
  | none, none, none => .ok none
  | _, _, _ => failAt env info .partialInline

/-- The entries of a group. -/
def inlineEntries : Option InlineGroup → List String
  | none => []
  | some g => ["init => " ++ g.init ++ ",", "copy_into => " ++ g.copyInto ++ ",",
      "clear => " ++ g.clear ++ ","]

/-- How a boxed type is stored. -/
def boxedStorage (sysCrate : String) (info : Info) (isInline : Bool) : String :=
  (if isInline then "BoxedInline<" else "Boxed<") ++ sysCrate ++ "::" ++ info.cName ++ ">"

/-! ## Type accessors newer than the baseline -/

/-- Declares a type once, or twice where its accessor is guarded. -/
def straddled (env : Env) (getTypeFn : Option String) (version : Option Version)
    (block : Option String → Emit Unit) : Emit Unit :=
  match getTypeFn with
  | none => block none
  | some fn => do
    match ← env.guard? none version with
    | none => block (some fn)
    | some _ =>
      versionCondition env none version {}
      block (some fn)
      line ""
      notVersionConditionNoDocs env none version {}
      block none

/-! ## The shapes -/

/-- The implementation that gives the runtime type of a fundamental type. The declaration has no
type accessor, since that would also derive the conversion to values. -/
def staticTypeImpl (env : Env) (sysCrate : String) (info : Info) (getTypeFn : String) :
    Emit Unit := do
  line ("impl " ++ env.glibPath "StaticType" ++ " for " ++ info.typeName.display ++ " \x7b")
  line ("\tfn static_type() -> " ++ env.glibPath "Type" ++ " \x7b")
  line ("\t\tunsafe \x7b from_glib(" ++ sysCrate ++ "::" ++ getTypeFn ++ "()) \x7d")
  line "\t\x7d"
  line "\x7d"

/-- Declares a fundamental type. -/
def renderFundamental (env : Env) (info : Info) (k : Fundamental) : Emit Unit := do
  let sysCrate ← env.mainSysCrate
  let l ← resolveLifetime env info k
  opening env info
  line (structLine info ("Shared<" ++ sysCrate ++ "::" ++ info.cName ++ ">") "")
  functions ["ref => |ptr| " ++ l.crate ++ "::" ++ l.refFn ++ "(" ++ l.pointer ++ "),",
    "unref => |ptr| " ++ l.crate ++ "::" ++ l.unrefFn ++ "(" ++ l.pointer ++ "),"]
  line ""
  line ""
  staticTypeImpl env sysCrate info k.getTypeFn

/-- How an object or an interface is stored. An empty class structure is none. -/
def objectStorage (sysCrate : String) (info : Info) (k : Object) : String :=
  let classPart :=
    match k.classStruct with
    | none => ""
    | some s => if s.isEmpty then "" else ", " ++ sysCrate ++ "::" ++ s
  (if k.isInterface then "Interface<" else "Object<") ++ sysCrate ++ "::" ++ info.cName ++
    classPart ++ ">"

/-- Declares an object or an interface. -/
def renderObject (env : Env) (info : Info) (k : Object) : Emit Unit := do
  let sysCrate ← env.mainSysCrate
  opening env info
  let suffix ← ancestryText env k
  line (structLine info (objectStorage sysCrate info k) suffix)
  functions [typeEntry sysCrate k.getTypeFn]

/-- One declaration of a boxed type, with or without its type accessor. -/
def boxedBlock (env : Env) (info : Info) (k : Boxed) (group : Option InlineGroup)
    (getTypeFn : Option String) : Emit Unit := do
  let sysCrate ← env.mainSysCrate
  opening env info
  line (structLine info (boxedStorage sysCrate info k.isInline) "")
  let pointer := if k.copyTakesMut then "mut_override(ptr)" else "ptr"
  functions (["copy => |ptr| " ++ sysCrate ++ "::" ++ k.copyFn ++ "(" ++ pointer ++ "),",
    "free => |ptr| " ++ sysCrate ++ "::" ++ k.freeFn ++ "(ptr),"] ++ inlineEntries group ++
    (getTypeFn.map (typeEntry sysCrate)).toList)

/-- Declares a boxed type. -/
def renderBoxed (env : Env) (info : Info) (k : Boxed) : Emit Unit := do
  let group ← inlineGroup env info k.inline
  line ""
  straddled env k.getTypeFn k.getTypeVersion (boxedBlock env info k group)

/-- Declares a type that its runtime type copies and frees. -/
def renderAutoBoxed (env : Env) (info : Info) (k : AutoBoxed) : Emit Unit := do
  let sysCrate ← env.mainSysCrate
  let group ← inlineGroup env info k.inline
  let typeId := sysCrate ++ "::" ++ k.getTypeFn ++ "()"
  line ""
  opening env info
  line (structLine info (boxedStorage sysCrate info k.isInline) "")
  functions (["copy => |ptr| " ++ env.glibPath "gobject_ffi::g_boxed_copy" ++ "(" ++ typeId ++
      ", ptr as *mut _) as *mut " ++ sysCrate ++ "::" ++ info.cName ++ ",",
    "free => |ptr| " ++ env.glibPath "gobject_ffi::g_boxed_free" ++ "(" ++ typeId ++
      ", ptr as *mut _),"] ++ inlineEntries group ++ [typeEntry sysCrate k.getTypeFn])

/-- One declaration of a shared type, with or without its type accessor. -/
def sharedBlock (env : Env) (info : Info) (k : Shared) (getTypeFn : Option String) :
    Emit Unit := do
  let sysCrate ← env.mainSysCrate
  opening env info
  line (structLine info ("Shared<" ++ sysCrate ++ "::" ++ info.cName ++ ">") "")
  functions (["ref => |ptr| " ++ sysCrate ++ "::" ++ k.refFn ++ "(ptr),",
    "unref => |ptr| " ++ sysCrate ++ "::" ++ k.unrefFn ++ "(ptr),"] ++
    (getTypeFn.map (typeEntry sysCrate)).toList)

/-- Declares a shared type. -/
def renderShared (env : Env) (info : Info) (k : Shared) : Emit Unit := do
  line ""
  straddled env k.getTypeFn k.getTypeVersion (sharedBlock env info k)

/-- The declaration of a type. -/
def render (env : Env) (info : Info) : Kind → Emit Unit
  | .fundamental k => renderFundamental env info k
  | .object k => renderObject env info k
  | .boxed k => renderBoxed env info k
  | .autoBoxed k => renderAutoBoxed env info k
  | .shared k => renderShared env info k
  | .other name => failAt env info (.unknownWrapper name)

end Bindery.Wrapper
