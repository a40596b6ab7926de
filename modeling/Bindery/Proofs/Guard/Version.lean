import Bindery.Proofs.Emit
import Bindery.Proofs.Guard.Reading
import Bindery.Proofs.Version

/-!
# Guards of versions

What stands under the attributes of a version is compiled where the version is enabled: the
baseline guarantees it, its feature is on, or documentation is built. A version that the baseline
guarantees needs no attribute.
-/

namespace Bindery

open Predicate

/-! ## Attributes in effect -/

/-- Whether an attribute line lets what stands under it be compiled. Only a cfg attribute may
not. -/
def Predicate.admits (s : Settings) (line : String) : Bool :=
  match ofAttribute? line with
  | none => true
  | some p =>
    match isActive s p with
    | .ok b => b
    | .error _ => false

theorem admits_of_isActive {s : Settings} {line p : String} {b : Bool}
    (hline : ofAttribute? line = some p) (hp : isActive s p = .ok b) : admits s line = b := by
  unfold admits
  simp only [hline, hp]

theorem admits_docAttribute (s : Settings) (g : Guard) (m : Margin) :
    admits s (g.docAttribute m) = true := by
  unfold admits
  rw [ofAttribute?_docAttribute]

theorem admits_compileAttribute {texts : List String} {ts : List Predicate} (hne : texts ≠ [])
    (h : List.Forall₂ (fun text t => parse text = .ok t) texts ts) (s : Settings) (indent : Int) :
    admits s ((Guard.mk (", ".intercalate texts)).compileAttribute ⟨false, indent⟩) =
      (ts.any (holds s) || s.feature docsFeature) :=
  admits_of_isActive (Guard.ofAttribute?_compileAttribute _ _) (isActive_compilePredicate hne h s)

/-! ## Versions -/

/-- Whether a version is enabled: the baseline guarantees it, its feature is on, or documentation
is built. -/
def Predicate.Settings.Enables (s : Settings) (baseline : Option Version) (v : Version) : Prop :=
  (∃ b ∈ baseline, v ≤ b) ∨ s.feature v.feature = true ∨ s.feature docsFeature = true

/-- A version needs a guard when the baseline does not guarantee it. -/
theorem isNeeded_iff {v : Version} {baseline : Option Version} :
    Guard.isNeeded (some v) baseline = true ↔ ¬∃ b ∈ baseline, v ≤ b := by
  cases baseline with
  | none => simp [Guard.isNeeded]
  | some b => simp [Guard.isNeeded, ← Version.not_le]

theorem isNeeded_iff_lt {version baseline : Option Version} :
    Guard.isNeeded version baseline = true ↔ ∃ v ∈ version, ∀ b ∈ baseline, b < v := by
  cases version with
  | none => simp [Guard.isNeeded]
  | some v => simp [isNeeded_iff, Version.not_le]

/-- A version that needs no guard is enabled. -/
theorem enables_of_not_isNeeded {s : Settings} {v : Version} {baseline : Option Version}
    (h : ¬Guard.isNeeded (some v) baseline = true) : s.Enables baseline v :=
  .inl (not_not.1 (mt isNeeded_iff.2 h))

theorem enables_iff_of_isNeeded {s : Settings} {v : Version} {baseline : Option Version}
    (h : Guard.isNeeded (some v) baseline = true) :
    s.Enables baseline v ↔ (s.feature v.feature || s.feature docsFeature) = true := by
  rw [Predicate.Settings.Enables, or_iff_right (isNeeded_iff.1 h), Bool.or_eq_true]

/-- What the baseline of a namespace guarantees needs no guard. -/
theorem guarantees_eq {env : Env} {ns : Option Int} {baseline : Option Version}
    (h : env.baseline ns = .ok baseline) (v : Version) :
    env.guarantees ns (some v) = .ok (!Guard.isNeeded (some v) baseline) := by
  have hany : baseline.any (v ≤ ·) = !Guard.isNeeded (some v) baseline := by
    rw [Bool.eq_iff_iff, Bool.not_eq_true', ← Bool.not_eq_true, isNeeded_iff, not_not,
      Option.any_eq_true]
    simp
  rw [← hany]
  exact map_eq_ok_iff.2 ⟨baseline, h, rfl⟩

theorem guarantees_main (env : Env) (v : Version) : env.guarantees none (some v) =
    .ok (!Guard.isNeeded (some v) env.config.minVersion) :=
  guarantees_eq rfl v

theorem resolve?_eq_none {version baseline : Option Version} {crateTag : Option String} :
    Guard.resolve? version baseline crateTag = none ↔ Guard.isNeeded version baseline = false := by
  cases version with
  | none => simp [Guard.resolve?, Guard.isNeeded]
  | some v => simp [Guard.resolve?]

theorem isSome_resolve? {version baseline : Option Version} {crateTag : Option String} :
    (Guard.resolve? version baseline crateTag).isSome = Guard.isNeeded version baseline := by
  rw [Bool.eq_iff_iff, ← Option.ne_none_iff_isSome, ne_eq, resolve?_eq_none, Bool.not_eq_false]

theorem resolve?_eq_some {version baseline : Option Version} {crateTag : Option String}
    {g : Guard} (h : Guard.resolve? version baseline crateTag = some g) :
    ∃ v, version = some v ∧ Guard.isNeeded version baseline = true ∧
      g = ⟨v.predicate crateTag⟩ := by
  cases version with
  | none => simp [Guard.resolve?] at h
  | some v =>
    simp only [Guard.resolve?, Option.ite_none_right_eq_some, Option.some.injEq] at h
    exact ⟨v, rfl, h.1, h.2.symm⟩

/-- The guard of a version of the namespace being bound. -/
theorem guard?_main (env : Env) (version : Option Version) :
    env.guard? none version = .ok (Guard.resolve? version env.config.minVersion none) := rfl

theorem guard?_eq {env : Env} {ns : Option Int} {baseline : Option Version} {tag : Option String}
    (hbaseline : env.baseline ns = .ok baseline) (htag : env.crateTag ns = .ok tag)
    (version : Option Version) :
    env.guard? ns version = .ok (Guard.resolve? version baseline tag) :=
  bind_eq_ok_iff.2 ⟨baseline, hbaseline, bind_eq_ok_iff.2 ⟨tag, htag, rfl⟩⟩

/-! ## The attributes that a version prints -/

section Printed

open Emit

variable {env : Env} {ns : Option Int} {version : Option Version}

theorem prints_guarded {guard : Option Guard} (h : env.guard? ns version = .ok guard)
    (m : Margin) : Prints (versionCondition env ns version m) ()
      (guard.map (·.render true m)).toList :=
  .lift_bind (map_eq_ok_iff.2 ⟨guard, h, rfl⟩) (prints_line? _)

theorem prints_complement {tag : Option String} (h : env.crateTag ns = .ok tag) (v : Version)
    (m : Margin) : Prints (notVersionConditionNoDocs env ns (some v) m) ()
      [(Guard.mk (v.predicate tag)).complementAttribute m] :=
  .lift_bind h (prints_line _)

variable (env version) (m : Margin)

theorem prints_versionCondition : Prints (versionCondition env none version m) ()
    ((Guard.resolve? version env.config.minVersion none).map (·.render true m)).toList :=
  prints_guarded (guard?_main env version) m

theorem prints_versionConditionNoDoc : Prints (versionConditionNoDoc env none version m) ()
    ((Guard.resolve? version env.config.minVersion none).map (·.render false m)).toList :=
  .lift_bind rfl (prints_line? _)

theorem prints_notVersionConditionNoDocs (v : Version) :
    Prints (notVersionConditionNoDocs env none (some v) m) ()
      [(Guard.mk (v.predicate none)).complementAttribute m] :=
  prints_complement rfl v m

end Printed

/-! ## Where those attributes hold -/

section Tagged

variable (s : Settings) {tag : Option String} (htag : Version.IsPlainTag tag) (v : Version)

theorem any_holds_feature (name : String) :
    [Predicate.keyValue "feature" name].any (holds s) = s.feature name := by
  unfold holds
  simp [evaluate]

include htag

theorem parses_predicate : List.Forall₂ (fun text t => parse text = .ok t) [v.predicate tag]
    [.keyValue "feature" (v.featureIn tag)] := .cons (Version.parse_predicate htag v) .nil

theorem isActive_taggedPredicate : isActive s (Guard.mk (v.predicate tag)).compilePredicate =
    .ok (s.feature (v.featureIn tag) || s.feature docsFeature) := by
  have h := isActive_compilePredicate (by simp) (parses_predicate htag v) s
  rwa [String.intercalate_singleton, any_holds_feature] at h

theorem isActive_taggedComplement :
    isActive s (Guard.mk (v.predicate tag)).complementPredicate =
      .ok (!(s.feature (v.featureIn tag) || s.feature docsFeature)) := by
  have h := isActive_complementPredicate (by simp) (parses_predicate htag v) s
  rwa [String.intercalate_singleton, any_holds_feature] at h

end Tagged

/-! ### In the namespace being bound -/

section Feature

variable (s : Settings) (v : Version)

theorem isActive_versionPredicate : isActive s (Guard.mk (v.predicate none)).compilePredicate =
    .ok (s.feature v.feature || s.feature docsFeature) :=
  isActive_taggedPredicate s Version.isPlainTag_none v

theorem isActive_versionComplement :
    isActive s (Guard.mk (v.predicate none)).complementPredicate =
      .ok (!(s.feature v.feature || s.feature docsFeature)) :=
  isActive_taggedComplement s Version.isPlainTag_none v

theorem admits_versionAttribute (indent : Int) :
    admits s ((Guard.mk (v.predicate none)).compileAttribute ⟨false, indent⟩) =
      (s.feature v.feature || s.feature docsFeature) :=
  admits_of_isActive (Guard.ofAttribute?_compileAttribute _ _) (isActive_versionPredicate s v)

theorem admits_versionComplement (indent : Int) :
    admits s ((Guard.mk (v.predicate none)).complementAttribute ⟨false, indent⟩) =
      !(s.feature v.feature || s.feature docsFeature) :=
  admits_of_isActive (Guard.ofAttribute?_complementAttribute _ _) (isActive_versionComplement s v)

end Feature

end Bindery
