import Bindery.Emit
import Bindery.Wrapper.Basic

/-! # Who counts the references of a fundamental type

A pair of functions on the type itself is used first. A type without one takes the pair of the
first active ancestor that is a class with both, and its pointer is cast to that ancestor's type.
-/

namespace Bindery.Wrapper

/-- The functions that count references, the crate they are in, and the pointer they are given. -/
structure Lifetime where
  refFn : String
  unrefFn : String
  pointer : String
  crate : String
deriving DecidableEq

/-- The lifetime that an ancestor class with a pair of functions gives. -/
def inherited (env : Env) (p : Ancestor) (cType refFn unrefFn : String) :
    Except InternalError Lifetime :=
  (env.sysCratePath p.id).map fun crate =>
    ⟨refFn, unrefFn, "ptr as *mut " ++ crate ++ "::" ++ cType, crate⟩

/-- The first of the ancestors that has a pair of functions decides. -/
def inheritFrom (env : Env) (info : Info) : List Ancestor → Emit Lifetime
  | [] => failAt env info .inheritedLifetime
  | p :: ps => do
    match ← env.library.findType p.id with
    | .classType named (some refFn) (some unrefFn) =>
      let lifetime ← inherited env p named.cType refFn unrefFn
      Emit.debug (info.typeName.display ++ ": ref/unref inherited from '" ++ p.name.display ++ "'")
      return lifetime
    | _ =>
      Emit.debug (info.typeName.display ++ ": ancestor '" ++ p.name.display ++
        "' has no ref/unref, skipping")
      inheritFrom env info ps

/-- The lifetime of a fundamental type. -/
def resolveLifetime (env : Env) (info : Info) (k : Fundamental) : Emit Lifetime := do
  let sysCrate ← env.mainSysCrate
  match k.refFn, k.unrefFn with
  | some refFn, some unrefFn => return ⟨refFn, unrefFn, "ptr", sysCrate⟩
  | _, _ =>
    match activeAncestors k.parents with
    | [] => failAt env info .rootLifetime
    | p :: ps => inheritFrom env info (p :: ps)

end Bindery.Wrapper
