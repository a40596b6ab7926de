import Bindery.Attribute
import Bindery.Proofs.Version.Feature

/-!
# Deprecations beside guards

Whether a deprecation has a condition is decided like whether a symbol of that version has a guard,
by the baseline of the namespace. The condition is not that of the guard: it names the feature of
the version without the crate, so the two agree in namespaces without a crate in front of their
features, and nowhere else.
-/

namespace Bindery

/-! ## The two forms -/

/-- What a deprecation says. -/
def deprecationNote (v : Version) : String := "deprecated = \"Since " ++ v.text ++ "\""

/-- The attribute without a condition. -/
def plainDeprecation (v : Version) (m : Margin) : String :=
  m.text ++ ("#[" ++ deprecationNote v ++ "]")

/-- The attribute under a predicate. -/
def deprecationUnder (cfg : String) (v : Version) (m : Margin) : String :=
  m.text ++ ("#[cfg_attr(" ++ cfg ++ ", " ++ deprecationNote v ++ ")]")

theorem plainDeprecation_ne_under (cfg : String) (v : Version) (m : Margin) :
    plainDeprecation v m ≠ deprecationUnder cfg v m := by
  unfold plainDeprecation deprecationUnder
  rw [ne_eq, String.append_right_inj]
  intro h
  -- The letters behind the bracket differ.
  have hplain : ("#[" ++ deprecationNote v ++ "]").toList =
      '#' :: '[' :: 'd' :: (("eprecated = \"Since " ++ v.text ++ "\"").toList ++ [']']) := by
    unfold deprecationNote
    simp
  have hlist := congrArg String.toList h
  rw [hplain] at hlist
  simp at hlist

theorem deprecationUnder_inj {cfg cfg' : String} {v : Version} {m : Margin} :
    deprecationUnder cfg v m = deprecationUnder cfg' v m ↔ cfg = cfg' := by
  unfold deprecationUnder
  rw [String.append_right_inj, String.append_left_inj, String.append_left_inj,
    String.append_left_inj, String.append_right_inj]

/-- The attribute has a condition where a guard is needed. -/
theorem deprecation?_eq {env : Env} {ns : Option Int} {baseline : Option Version}
    (h : env.baseline ns = .ok baseline) (v : Version) (m : Margin) :
    deprecation? env ns (some v) m = .ok (some (if Guard.isNeeded (some v) baseline then
      deprecationUnder (v.predicate none) v m else plainDeprecation v m)) := by
  refine bind_eq_ok_iff.2 ⟨_, guarantees_eq h v, ?_⟩
  cases Guard.isNeeded (some v) baseline with
  | true => rfl
  | false => rfl

/-! ## Their features -/

theorem crateFeature_eq_feature {crate : String} {v : Version} :
    crateFeature crate v = v.feature ↔ crate = "" := by
  constructor
  · intro h
    have hnone : crateFeature crate v = crateFeature "" v := h
    exact (Version.crateFeature_inj hnone).1
  · rintro rfl
    rfl

/-- A guard has a feature with a crate in front of it, and a deprecation has a condition without. -/
structure OmitsCrate (crate : String) (v : Version) (m : Margin) (g : Guard) (text : String) :
    Prop where
  guard_cfg : g.cfg = "feature = \"" ++ crateFeature crate v ++ "\""
  text_eq : text = deprecationUnder ("feature = \"" ++ v.feature ++ "\"") v m
  /-- The features are the same just where there is no crate, as in the namespace being bound. -/
  feature_iff : crateFeature crate v = v.feature ↔ crate = ""
  /-- Only there is the deprecation the one under the predicate of the guard. -/
  text_iff : text = deprecationUnder g.cfg v m ↔ crate = ""

/-- A deprecation in a namespace, with a version that it may have, stands without a condition
exactly where a symbol of that version needs no guard. Elsewhere its condition omits the crate. -/
theorem deprecation_omits_crate {env : Env} {ns : Option Int} {baseline : Option Version}
    {crate : String} (hns : env.Binds ns baseline crate) (v : Version) (m : Margin) :
    ∃ guard text, env.guard? ns (some v) = .ok guard ∧
      deprecation? env ns (some v) m = .ok (some text) ∧
      (text = plainDeprecation v m ↔ guard = none) ∧
      ∀ g, guard = some g → OmitsCrate crate v m g text := by
  obtain ⟨tag, hbaseline, hcrate, -, hfeature⟩ := hns.exists_tag
  refine ⟨_, _, guard?_eq hbaseline hcrate (some v), deprecation?_eq hbaseline v m, ?_, ?_⟩
  · rw [resolve?_eq_none]
    cases Guard.isNeeded (some v) baseline with
    | true =>
      rw [if_pos rfl]
      exact iff_of_false (plainDeprecation_ne_under _ v m).symm nofun
    | false => exact iff_of_true rfl rfl
  · intro g hg
    obtain ⟨w, hw, hneeded, rfl⟩ := resolve?_eq_some hg
    obtain rfl := Option.some.inj hw
    have hcfg : v.predicate tag = "feature = \"" ++ crateFeature crate v ++ "\"" := by
      rw [← hfeature]
      rfl
    rw [if_pos hneeded]
    refine ⟨hcfg, rfl, crateFeature_eq_feature, ?_⟩
    rw [deprecationUnder_inj, Version.predicate, Version.predicate,
      Version.requires_injective.eq_iff, hfeature, eq_comm]
    exact crateFeature_eq_feature

/-- In a library that the bindings rest on, what appeared in version 2.58 and what was deprecated in
it are switched on by two features. -/
theorem deprecation_unlike_guard :
    dependentEnv.Binds (some 1) (some ⟨2, 56, 0⟩) "gio" ∧
    dependentEnv.guard? (some 1) (some ⟨2, 58, 0⟩) = .ok (some ⟨"feature = \"gio_v2_58\""⟩) ∧
    deprecation? dependentEnv (some 1) (some ⟨2, 58, 0⟩) {} =
      .ok (some "#[cfg_attr(feature = \"v2_58\", deprecated = \"Since 2.58\")]") := by
  refine ⟨.dependency (by decide) (n := ⟨"Gio", "gio", "gio_ffi", some ⟨2, 56, 0⟩⟩) rfl, ?_, ?_⟩
  · rfl
  · rfl

/-- The same version there, and a version that the library has in any case. -/
theorem deprecation_omits_crate_gio :
    (∃ text, deprecation? dependentEnv (some 1) (some ⟨2, 58, 0⟩) {} = .ok (some text) ∧
      text ≠ deprecationUnder "feature = \"gio_v2_58\"" ⟨2, 58, 0⟩ {}) ∧
    deprecation? dependentEnv (some 1) (some ⟨2, 56, 0⟩) {} =
      .ok (some (plainDeprecation ⟨2, 56, 0⟩ {})) := by
  have hgio : dependentEnv.Binds (some 1) (some ⟨2, 56, 0⟩) "gio" :=
    .dependency (by decide) (n := ⟨"Gio", "gio", "gio_ffi", some ⟨2, 56, 0⟩⟩) rfl
  refine ⟨?_, ?_⟩
  · obtain ⟨guard, text, hguard, htext, -, hcfg⟩ :=
      deprecation_omits_crate hgio ⟨2, 58, 0⟩ {}
    have hsome : dependentEnv.guard? (some 1) (some ⟨2, 58, 0⟩) =
        .ok (some ⟨"feature = \"gio_v2_58\""⟩) := rfl
    obtain rfl := Except.ok.inj (hguard.symm.trans hsome)
    exact ⟨text, htext, fun h => absurd ((hcfg _ rfl).text_iff.1 h) (by decide)⟩
  · obtain ⟨guard, text, hguard, htext, hplain, -⟩ :=
      deprecation_omits_crate hgio ⟨2, 56, 0⟩ {}
    have hnone : dependentEnv.guard? (some 1) (some ⟨2, 56, 0⟩) = .ok none := rfl
    obtain rfl := Except.ok.inj (hguard.symm.trans hnone)
    rw [htext, hplain.2 rfl]

end Bindery
