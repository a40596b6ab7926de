import Bindery.Env
import Bindery.Guard
import Bindery.Ordered

/-! # Scopes of imports

An import is needed where one of its constraints holds and its version is enabled. Constraints
are a set, kept increasing. The scope without constraints and version says nothing.
-/

namespace Bindery

/-- Where an import is needed. `κ` is what constraints are given as: predicates in text form, or
labels. -/
structure Scope (κ : Type) where
  constraints : List κ := []
  version : Option Version := none
deriving DecidableEq

section

variable {κ : Type} [Ord κ]

namespace Scope

/-- The scope of some constraints, in increasing order and each once. -/
def of (constraints : List κ) (version : Option Version) : Scope κ :=
  ⟨Ordered.ofList Ord.compare constraints, version⟩

/-- Whether a scope says nothing. -/
def isEmpty (s : Scope κ) : Bool := s.constraints.isEmpty && s.version.isNone

/-- Constraints decide before versions, and the absence of a version comes first. -/
def compare (s t : Scope κ) : Ordering :=
  (List.compareLex Ord.compare s.constraints t.constraints).then
    (compareOptional s.version t.version)

/-- Without constraints on either side there are none. -/
def mergeConstraints (cs ds : List κ) : List κ :=
  if cs.isEmpty || ds.isEmpty then [] else cs ++ ds

/-- Without a version on either side there is none; of two the lower is kept. -/
def mergeVersions : Option Version → Option Version → Option Version
  | some v, some w => some (if w < v then w else v)
  | _, _ => none

/-- The scope that holds wherever one of two does. -/
def weaken (s t : Scope κ) : Scope κ :=
  of (mergeConstraints s.constraints t.constraints) (mergeVersions s.version t.version)

/-- The version of a scope, unless the enclosing item or the baseline implies it. -/
def neededVersion (env : Env) (outer : Option Version) (s : Scope κ) : Option Version :=
  let v := Version.stricter? s.version outer
  if Guard.isNeeded v env.config.minVersion then v else none

/-- A scope without what the enclosing item and the baseline imply; one that then says nothing is
no scope. -/
def normalize? (env : Env) (outer : Option Version) (s : Scope κ) : Option (Scope κ) :=
  let n := of s.constraints (neededVersion env outer s)
  if n.isEmpty then none else some n

end Scope

/-- No scope comes before every scope. -/
def compareScopes (s t : Option (Scope κ)) : Ordering :=
  match s, t with
  | none, none => .eq
  | none, some _ => .lt
  | some _, none => .gt
  | some s, some t => s.compare t

end

end Bindery
