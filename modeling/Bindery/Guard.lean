import Bindery.Emit
import Bindery.Env
import Bindery.Margin

/-! # Conditional compilation

A symbol of a library version newer than the baseline is gated by the feature of that version.
The compile attribute also admits the documentation feature, so that documentation shows every
symbol, and its twin tells the documentation which feature the symbol needs: version 2.58 gives
`#[cfg(any(feature = "v2_58", feature = "dox"))]` and
`#[cfg_attr(feature = "dox", doc(cfg(feature = "v2_58")))]`.

A declaration that differs before and after a version has its second variant under the complement
`#[cfg(not(any(..., feature = "dox")))]`, so that exactly one of the two is compiled.
-/

namespace Bindery

/-- The feature under which documentation is built. -/
def docsFeature : String := "dox"

/-- The predicate of that feature. -/
def docsPredicate : String := Version.requires docsFeature

/-- A predicate that gates a symbol. -/
structure Guard where
  cfg : String
deriving DecidableEq

namespace Guard

/-! ## Attributes -/

/-- The symbol is compiled under the guard or for documentation. -/
def compileAttribute (g : Guard) (m : Margin) : String :=
  m.text ++ "#[cfg(any(" ++ g.cfg ++ ", " ++ docsPredicate ++ "))]"

/-- Documentation names the guard. -/
def docAttribute (g : Guard) (m : Margin) : String :=
  m.text ++ "#[cfg_attr(" ++ docsPredicate ++ ", doc(cfg(" ++ g.cfg ++ ")))]"

/-- The symbol is compiled where the guard's own variant is not. -/
def complementAttribute (g : Guard) (m : Margin) : String :=
  m.text ++ "#[cfg(not(any(" ++ g.cfg ++ ", " ++ docsPredicate ++ ")))]"

/-- The compile attribute, and on the next line its twin where it is wanted. -/
def render (g : Guard) (withDoc : Bool) (m : Margin) : String :=
  if withDoc then g.compileAttribute m ++ "\n" ++ g.docAttribute m else g.compileAttribute m

/-! ## Which versions are guarded -/

/-- A version is guarded when it is strictly newer than the baseline, or when there is none. -/
def isNeeded (version baseline : Option Version) : Bool :=
  match version, baseline with
  | none, _ => false
  | some _, none => true
  | some v, some b => b < v

/-- The guard of a version against a baseline. -/
def resolve? (version baseline : Option Version) (crateTag : Option String) : Option Guard :=
  match version with
  | none => none
  | some v => if isNeeded version baseline then some ⟨v.predicate crateTag⟩ else none

end Guard

/-- The guard of a version of a namespace, against the baseline of that namespace and with its
tag. The namespace must exist even when there is no version. -/
def Env.guard? (env : Env) (ns : Option Int) (version : Option Version) :
    Except InternalError (Option Guard) := do
  let baseline ← env.baseline ns
  let tag ← env.crateTag ns
  return Guard.resolve? version baseline tag

namespace Emit

/-! ## Raw predicates -/

/-- Both attributes of a predicate, where there is one. -/
def condition (cfg : Option String) (m : Margin) : Emit Unit :=
  line? (cfg.map fun c => (Guard.mk c).render true m)

/-- The compile attribute of a predicate, where there is one. -/
def conditionNoDoc (cfg : Option String) (m : Margin) : Emit Unit :=
  line? (cfg.map fun c => (Guard.mk c).compileAttribute m)

/-- The documentation attribute of a predicate, where there is one. -/
def conditionDoc (cfg : Option String) (m : Margin) : Emit Unit :=
  line? (cfg.map fun c => (Guard.mk c).docAttribute m)

/-! ## Versions -/

/-- Both attributes of the guard of a version, as one text. -/
def versionText (env : Env) (ns : Option Int) (version : Option Version) (m : Margin) :
    Except InternalError (Option String) :=
  (env.guard? ns version).map fun g => g.map (·.render true m)

/-- Both attributes of the guard of a version. -/
def versionCondition (env : Env) (ns : Option Int) (version : Option Version) (m : Margin) :
    Emit Unit := do
  line? (← versionText env ns version m)

/-- The compile attribute of the guard of a version. -/
def versionConditionNoDoc (env : Env) (ns : Option Int) (version : Option Version) (m : Margin) :
    Emit Unit := do
  let guard ← env.guard? ns version
  line? (guard.map (·.render false m))

/-- The documentation attribute of the guard of a version of the namespace being bound. -/
def versionConditionDoc (env : Env) (version : Option Version) (m : Margin) : Emit Unit :=
  line? ((Guard.resolve? version env.config.minVersion none).map (·.docAttribute m))

/-- Both attributes of the negated feature of a version, whatever the baseline. -/
def notVersionCondition (version : Option Version) (m : Margin) : Emit Unit :=
  line? (version.map fun v => (Guard.mk ("not(" ++ v.predicate none ++ ")")).render true m)

/-- The complement of the guard of a version, whatever the baseline. -/
def notVersionConditionNoDocs (env : Env) (ns : Option Int) (version : Option Version)
    (m : Margin) : Emit Unit :=
  match version with
  | none => pure ()
  | some v => do
    let tag ← env.crateTag ns
    line ((Guard.mk (v.predicate tag)).complementAttribute m)

end Emit

end Bindery
