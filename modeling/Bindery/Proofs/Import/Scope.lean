import Bindery.Import.Group
import Bindery.Proofs.Guard.Version
import Bindery.Proofs.Ordered

/-!
# Where an import is needed

A scope holds where one of its constraints does and its version is enabled. Its attributes say just
that, and it still says the same without what the enclosing item and the baseline imply, as long as
the features that are on come with those of earlier versions.
-/

namespace Bindery

open Emit Predicate

variable {s : Settings} {baseline : Option Version}

/-- Whether an import under a scope is needed: the scope has no constraints, or one of them holds,
or documentation is built; and its version, if it has one, is enabled. -/
def Scope.Holds (s : Settings) (baseline : Option Version) (sc : Scope String) : Prop :=
  (sc.constraints = [] ∨ (∃ c ∈ sc.constraints, isActive s c = .ok true) ∨
    s.feature docsFeature = true) ∧
  ∀ v ∈ sc.version, s.Enables baseline v

/-! ## Versions in play -/

/-- With the feature of a version, the features of earlier ones among some versions are on, unless
the baseline guarantees them. -/
def Predicate.Settings.ClosedOn (s : Settings) (baseline : Option Version) (P : Version → Prop) :
    Prop :=
  ∀ u v, P u → P v → u ≤ v → Guard.isNeeded (some u) baseline = true →
    s.feature v.feature = true → s.feature u.feature = true

theorem enables_of_le {P : Version → Prop} (hclosed : s.ClosedOn baseline P) {u v : Version}
    (hu : P u) (hv : P v) (huv : u ≤ v) (h : s.Enables baseline v) : s.Enables baseline u := by
  by_cases hneeded : Guard.isNeeded (some u) baseline = true
  · rcases h with ⟨b, hb, hvb⟩ | hfeature | hdocs
    · exact .inl ⟨b, hb, Version.le_trans huv hvb⟩
    · exact .inr (.inl (hclosed u v hu hv huv hneeded hfeature))
    · exact .inr (.inr hdocs)
  · exact enables_of_not_isNeeded hneeded

/-! ## Attributes -/

/-- The attributes of constraints. -/
def constraintLines (cs : List String) : List String :=
  if cs.isEmpty then []
  else [(Guard.mk (", ".intercalate cs)).compileAttribute {},
    (Guard.mk (docsConstraint cs)).docAttribute {}]

/-- The attributes of a version. -/
def versionLines (env : Env) (version : Option Version) : List String :=
  ((Guard.resolve? version env.config.minVersion none).map (·.render false {})).toList

/-- The attributes of a scope. -/
def Scope.attributes (env : Env) (sc : Scope String) : List String :=
  constraintLines sc.constraints ++ versionLines env sc.version

theorem prints_constraintAttributes (cs : List String) :
    Prints (constraintAttributes cs) () (constraintLines cs) := by
  unfold constraintAttributes constraintLines
  split
  · exact prints_pure ()
  · exact (prints_line _).bind (prints_line _)

theorem prints_scopeAttributes (env : Env) (sc : Scope String) :
    Prints (scopeAttributes env sc) () (sc.attributes env) :=
  (prints_constraintAttributes sc.constraints).bind (prints_versionConditionNoDoc env sc.version {})

theorem exists_trees {cs : List String} (h : ∀ c ∈ cs, ∃ t, parse c = .ok t) :
    ∃ ts, List.Forall₂ (fun c t => parse c = .ok t) cs ts := by
  induction cs with
  | nil => exact ⟨[], .nil⟩
  | cons c cs ih =>
    obtain ⟨t, ht⟩ := h c (by simp)
    obtain ⟨ts, hts⟩ := ih fun d hd => h d (by simp [hd])
    exact ⟨t :: ts, .cons ht hts⟩

theorem any_holds_iff {cs : List String} {ts : List Predicate}
    (h : List.Forall₂ (fun c t => parse c = .ok t) cs ts) (s : Settings) :
    ts.any (holds s) = true ↔ ∃ c ∈ cs, isActive s c = .ok true := by
  induction h with
  | nil => simp
  | cons hc _ ih => simp [ih, isActive_of_parse hc]

/-- What stands under the attributes of a version is compiled where the version is enabled. -/
theorem admits_versions (env : Env) (version : Option Version) (s : Settings) :
    (versionLines env version).all (admits s) = true ↔
      ∀ v ∈ version, s.Enables env.config.minVersion v := by
  unfold versionLines
  cases hg : Guard.resolve? version env.config.minVersion none with
  | none =>
    have hneeded := resolve?_eq_none.1 hg
    refine iff_of_true rfl fun v hv => ?_
    obtain rfl : version = some v := hv
    exact enables_of_not_isNeeded (Bool.eq_false_iff.1 hneeded)
  | some g =>
    obtain ⟨v, rfl, hneeded, rfl⟩ := resolve?_eq_some hg
    have hadmits := admits_versionAttribute s v 0
    simp only [Option.map_some, Option.toList_some, List.all_cons, List.all_nil, Bool.and_true,
      Option.mem_def, Option.some.injEq, forall_eq', enables_iff_of_isNeeded hneeded, ← hadmits]
    exact Iff.rfl

/-- What stands under the attributes of constraints is compiled where one of these holds. -/
theorem admits_constraints {cs : List String} (h : ∀ c ∈ cs, ∃ t, parse c = .ok t) (s : Settings) :
    (constraintLines cs).all (admits s) = true ↔
      cs = [] ∨ (∃ c ∈ cs, isActive s c = .ok true) ∨ s.feature docsFeature = true := by
  obtain ⟨ts, hts⟩ := exists_trees h
  unfold constraintLines
  by_cases hempty : cs = []
  · simp [hempty]
  · have hadmits := admits_compileAttribute hempty hts s 0
    rw [if_neg (by simpa using hempty), or_iff_right hempty, ← any_holds_iff hts, ← Bool.or_eq_true,
      ← hadmits]
    simp only [List.all_cons, List.all_nil, admits_docAttribute, Bool.and_true]

/-- What stands under the attributes of a scope is compiled where the scope holds. -/
theorem admits_attributes (env : Env) {sc : Scope String}
    (h : ∀ c ∈ sc.constraints, ∃ t, parse c = .ok t) (s : Settings) :
    (sc.attributes env).all (admits s) = true ↔ sc.Holds s env.config.minVersion := by
  unfold Scope.attributes Scope.Holds
  rw [List.all_append, Bool.and_eq_true, admits_constraints h, admits_versions]

/-! ## Scopes without what is implied -/

/-- Whether a version is newer than the baseline and than the enclosing item. -/
def Version.IsNewer (env : Env) (outer : Option Version) (v : Version) : Prop :=
  (∀ b ∈ env.config.minVersion, b < v) ∧ ∀ w ∈ outer, w < v

section Left

variable {env : Env} {outer : Option Version} {sc n : Scope String} {v : Version}

theorem stricter?_eq_some {inner : Option Version} :
    Version.stricter? inner outer = some v ↔ inner = some v ∧ ∀ w ∈ outer, w < v := by
  unfold Version.stricter?
  cases inner with
  | none => simp
  | some u =>
    cases outer with
    | none => simp
    | some w =>
      simp only [Option.ite_none_right_eq_some, Option.some.injEq, Option.mem_def, forall_eq']
      constructor
      · rintro ⟨hlt, rfl⟩
        exact ⟨rfl, hlt⟩
      · rintro ⟨rfl, hlt⟩
        exact ⟨hlt, rfl⟩

/-- The version of a scope is kept where it is newer than what is there without it. -/
theorem neededVersion_eq_some :
    sc.neededVersion env outer = some v ↔ sc.version = some v ∧ v.IsNewer env outer := by
  unfold Scope.neededVersion Version.IsNewer
  rw [Option.ite_none_right_eq_some, stricter?_eq_some, isNeeded_iff_lt]
  constructor
  · rintro ⟨⟨u, hu, hbaseline⟩, hversion, houter⟩
    obtain ⟨hu, -⟩ := stricter?_eq_some.1 hu
    rw [hversion] at hu
    cases hu
    exact ⟨hversion, hbaseline, houter⟩
  · rintro ⟨hversion, hbaseline, houter⟩
    exact ⟨⟨v, stricter?_eq_some.2 ⟨hversion, houter⟩, hbaseline⟩, hversion, houter⟩

theorem Scope.isEmpty_iff : sc.isEmpty = true ↔ sc.constraints = [] ∧ sc.version = none := by
  unfold Scope.isEmpty
  rw [Bool.and_eq_true, List.isEmpty_iff, Option.isNone_iff_eq_none]

theorem normalize?_eq_some : sc.normalize? env outer = some n ↔
    ¬(n.constraints = [] ∧ n.version = none) ∧
      Scope.of sc.constraints (sc.neededVersion env outer) = n := by
  unfold Scope.normalize?
  rw [Option.ite_none_left_eq_some, Option.some.injEq, Scope.isEmpty_iff]
  constructor
  · rintro ⟨hne, rfl⟩
    exact ⟨hne, rfl⟩
  · rintro ⟨hne, rfl⟩
    exact ⟨hne, rfl⟩

theorem normalize?_eq_none : sc.normalize? env outer = none ↔
    sc.constraints = [] ∧ sc.neededVersion env outer = none := by
  unfold Scope.normalize?
  rw [ite_eq_left_iff, Scope.isEmpty_iff]
  simp [Scope.of, Ordered.ofList_eq_nil]

/-- What is left of a scope has the same constraints. -/
theorem mem_of_normalize? (h : sc.normalize? env outer = some n) {c : String}
    (hc : c ∈ n.constraints) : c ∈ sc.constraints := by
  obtain ⟨-, rfl⟩ := normalize?_eq_some.1 h
  exact Ordered.mem_ofList.1 hc

end Left

section Implied

variable {env : Env} {outer : Option Version} {sc : Scope String} {P : Version → Prop}
  (hclosed : s.ClosedOn env.config.minVersion P) (hversion : ∀ v ∈ sc.version, P v)
  (hplay : ∀ v ∈ outer, P v) (houter : ∀ v ∈ outer, s.Enables env.config.minVersion v)

include hclosed hversion hplay houter

/-- A version may be left out where the baseline guarantees it, or the enclosing item implies it. -/
theorem enables_neededVersion :
    (∀ v ∈ sc.neededVersion env outer, s.Enables env.config.minVersion v) ↔
      ∀ v ∈ sc.version, s.Enables env.config.minVersion v := by
  constructor
  · intro h v hv
    by_cases hbaseline : ∀ b ∈ env.config.minVersion, b < v
    · by_cases hnewer : ∀ w ∈ outer, w < v
      · exact h v (neededVersion_eq_some.2 ⟨hv, hbaseline, hnewer⟩)
      · push Not at hnewer
        obtain ⟨w, hw, hlt⟩ := hnewer
        have hle : v ≤ w := Version.le_of_not_lt hlt
        exact enables_of_le hclosed (hversion v hv) (hplay w hw) hle (houter w hw)
    · refine enables_of_not_isNeeded fun hneeded => hbaseline ?_
      obtain ⟨_, ⟨rfl⟩, hnewer⟩ := isNeeded_iff_lt.1 hneeded
      exact hnewer
  · exact fun h v hv => h v (neededVersion_eq_some.1 hv).1

theorem holds_normalize? :
    (∀ n ∈ sc.normalize? env outer, n.Holds s env.config.minVersion) ↔
      sc.Holds s env.config.minVersion := by
  have hof : (Scope.of sc.constraints (sc.neededVersion env outer)).Holds s env.config.minVersion ↔
      sc.Holds s env.config.minVersion := by
    unfold Scope.Holds
    refine and_congr ?_ (enables_neededVersion hclosed hversion hplay houter)
    simp [Scope.of, Ordered.ofList_eq_nil, Ordered.mem_ofList]
  rw [← hof]
  cases hn : sc.normalize? env outer with
  | none =>
    obtain ⟨hconstraints, hnone⟩ := normalize?_eq_none.1 hn
    refine iff_of_true (by simp) ⟨.inl ?_, ?_⟩
    · simp [Scope.of, Ordered.ofList_eq_nil, hconstraints]
    · simp [Scope.of, hnone]
  | some n =>
    obtain ⟨-, rfl⟩ := normalize?_eq_some.1 hn
    simp

end Implied

end Bindery
