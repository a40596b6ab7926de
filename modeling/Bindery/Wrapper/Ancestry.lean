import Bindery.Wrapper.Basic

/-! # The ancestors in a declaration

An interface requires all its active ancestors. An object extends those that are classes and
implements those that are interfaces; ancestors of other kinds are not mentioned.
-/

namespace Bindery.Wrapper

/-- The name of an ancestor, behind its crate unless it is in the namespace being bound. -/
def qualifiedName (env : Env) (p : Ancestor) : Except InternalError Label :=
  if p.id.ns = mainId then .ok p.name
  else (env.library.findNamespace p.id.ns).map fun n =>
    .string (n.crateName ++ "::" ++ p.name.display)

/-- What an object extends and what it implements. -/
structure Lineage where
  classes : List Label := []
  interfaces : List Label := []

/-- The lineage that some ancestors give, in their order. -/
def lineage (env : Env) : List Ancestor → Except InternalError Lineage
  | [] => .ok {}
  | p :: ps => do
    match ← env.library.findType p.id with
    | .interfaceType _ =>
      let name ← qualifiedName env p
      let rest ← lineage env ps
      return { rest with interfaces := name :: rest.interfaces }
    | .classType _ _ _ =>
      let name ← qualifiedName env p
      let rest ← lineage env ps
      return { rest with classes := name :: rest.classes }
    | _ => lineage env ps

/-- A keyword and the names that it governs, where there are any. -/
def clause (keyword : String) (names : List Label) : Except InternalError (Option String) :=
  if names.isEmpty then .ok none
  else (Label.joined names).map fun s => some (" " ++ keyword ++ " " ++ s)

/-- The lineage as it ends a declaration. -/
def Lineage.text (l : Lineage) : Except InternalError String := do
  let classes ← clause "@extends" l.classes
  let interfaces ← clause "@implements" l.interfaces
  return ",".intercalate (classes.toList ++ interfaces.toList)

/-- What follows the storage of an object or an interface. -/
def ancestryText (env : Env) (k : Object) : Except InternalError String :=
  match activeAncestors k.parents with
  | [] => .ok ""
  | p :: ps =>
    if k.isInterface then do
      let names ← (p :: ps).mapM (qualifiedName env)
      return " @requires " ++ (← Label.joined names)
    else do (← lineage env (p :: ps)).text

end Bindery.Wrapper
