import Bindery.Proofs.Guard.Reading
import Mathlib.Algebra.Ring.Parity

/-!
# More features

What enabling more does to a predicate depends on how many negations the features and flags stand
under. Below an even number of them they can only make it true, below an odd number only false.

1. Values move with the polarity, one case for each way a predicate is made
   (`moves_of_derives`, `moves_of_derivesAll`).
2. Without negations every switch stands under none, so a guard once active stays active
   (`Occurs.eq_zero`, `polarity_respected`).
-/

namespace Bindery

namespace Predicate

open Text

/-! ## Switches -/

/-- What can be enabled. -/
inductive Switch
  | feature (name : String)
  | flag (name : String)

/-- Whether a switch is enabled. -/
def Settings.Has (s : Settings) : Switch → Prop
  | .feature n => s.feature n = true
  | .flag n => s.flag n = true

/-- Whether all that is enabled under the first settings is so under the second. -/
def Settings.Within (s s' : Settings) : Prop := ∀ w, s.Has w → s'.Has w

/-- Whether a switch is enabled under the second settings alone. -/
def Settings.Gains (s s' : Settings) (w : Switch) : Prop := s'.Has w ∧ ¬s.Has w

/-- Whether a switch stands somewhere in a tree under a number of negations. Only the key `feature`
has features for values. -/
inductive Occurs : Switch → Nat → Predicate → Prop
  | flag (name : String) : Occurs (.flag name) 0 (.name name)
  | feature (name : String) : Occurs (.feature name) 0 (.keyValue "feature" name)
  | any {w : Switch} {n : Nat} {p : Predicate} {ps : List Predicate} :
      p ∈ ps → Occurs w n p → Occurs w n (.call "any" ps)
  | all {w : Switch} {n : Nat} {p : Predicate} {ps : List Predicate} :
      p ∈ ps → Occurs w n p → Occurs w n (.call "all" ps)
  | not {w : Switch} {n : Nat} {p : Predicate} {ps : List Predicate} :
      p ∈ ps → Occurs w n p → Occurs w (n + 1) (.call "not" ps)

theorem occurs_name {w : Switch} {n : Nat} {name : String} :
    Occurs w n (.name name) ↔ w = .flag name ∧ n = 0 := by
  constructor
  · intro h
    cases h
    exact ⟨rfl, rfl⟩
  · rintro ⟨rfl, rfl⟩
    exact .flag name

theorem occurs_keyValue {w : Switch} {n : Nat} {key value : String} :
    Occurs w n (.keyValue key value) ↔ key = "feature" ∧ w = .feature value ∧ n = 0 := by
  constructor
  · intro h
    cases h
    exact ⟨rfl, rfl, rfl⟩
  · rintro ⟨rfl, rfl, rfl⟩
    exact .feature value

theorem occurs_call {w : Switch} {n : Nat} {op : String} {ps : List Predicate} :
    Occurs w n (.call op ps) ↔ ∃ p ∈ ps, (op ∈ ["any", "all"] ∧ Occurs w n p) ∨
      op = "not" ∧ ∃ m, n = m + 1 ∧ Occurs w m p := by
  constructor
  · intro h
    cases h with
    | any hmem h => exact ⟨_, hmem, .inl ⟨by simp, h⟩⟩
    | all hmem h => exact ⟨_, hmem, .inl ⟨by simp, h⟩⟩
    | not hmem h => exact ⟨_, hmem, .inr ⟨rfl, _, rfl, h⟩⟩
  · rintro ⟨p, hmem, ⟨hop, h⟩ | ⟨rfl, m, rfl, h⟩⟩
    · simp only [List.mem_cons, List.not_mem_nil, or_false] at hop
      rcases hop with rfl | rfl
      · exact .any hmem h
      · exact .all hmem h
    · exact .not hmem h

/-- Whether there is a negation in a tree. -/
inductive Negates : Predicate → Prop
  | negation (ps : List Predicate) : Negates (.call "not" ps)
  | argument {op : String} {p : Predicate} {ps : List Predicate} :
      p ∈ ps → Negates p → Negates (.call op ps)

theorem not_negates_name (n : String) : ¬Negates (.name n) := nofun

theorem not_negates_keyValue (k v : String) : ¬Negates (.keyValue k v) := nofun

theorem negates_call {op : String} {ps : List Predicate} :
    Negates (.call op ps) ↔ op = "not" ∨ ∃ p ∈ ps, Negates p := by
  constructor
  · intro h
    cases h with
    | negation => exact .inl rfl
    | argument hmem hneg => exact .inr ⟨_, hmem, hneg⟩
  · rintro (rfl | ⟨p, hmem, hneg⟩)
    · exact .negation ps
    · exact .argument hmem hneg

/-- Without negations a switch stands under none. -/
theorem Occurs.eq_zero {w : Switch} {n : Nat} {p : Predicate} (h : Occurs w n p)
    (hp : ¬Negates p) : n = 0 := by
  induction h with
  | flag name => rfl
  | feature name => rfl
  | any hmem _ ih => exact ih fun hneg => hp (.argument hmem hneg)
  | all hmem _ ih => exact ih fun hneg => hp (.argument hmem hneg)
  | not hmem _ ih => exact absurd (.negation _) hp

/-! ## How values move -/

/-- Whether one value follows another: upward truth is kept, and downward falsity. -/
def Moves : Bool → Bool → Bool → Prop
  | true, b, b' => b = true → b' = true
  | false, b, b' => b' = true → b = true

section Moves

variable {up b b' : Bool} {ps : List Predicate} {f g : Predicate → Bool}

theorem Moves.refl (up b : Bool) : Moves up b b := by
  cases up with
  | true => exact id
  | false => exact id

theorem Moves.any (h : ∀ p ∈ ps, Moves up (f p) (g p)) : Moves up (ps.any f) (ps.any g) := by
  cases up with
  | true =>
    intro hany
    obtain ⟨p, hp, hf⟩ := List.any_eq_true.1 hany
    exact List.any_eq_true.2 ⟨p, hp, h p hp hf⟩
  | false =>
    intro hany
    obtain ⟨p, hp, hg⟩ := List.any_eq_true.1 hany
    exact List.any_eq_true.2 ⟨p, hp, h p hp hg⟩

theorem Moves.all (h : ∀ p ∈ ps, Moves up (f p) (g p)) : Moves up (ps.all f) (ps.all g) := by
  cases up with
  | true =>
    intro hall
    exact List.all_eq_true.2 fun p hp => h p hp (List.all_eq_true.1 hall p hp)
  | false =>
    intro hall
    exact List.all_eq_true.2 fun p hp => h p hp (List.all_eq_true.1 hall p hp)

/-- A negation turns the direction. -/
theorem Moves.not (h : Moves (!up) b b') : Moves up (!b) (!b') := by
  cases up with
  | true =>
    intro hb
    cases b' with
    | true => rw [h rfl] at hb; exact hb
    | false => rfl
  | false =>
    intro hb
    cases b with
    | true => rw [h rfl] at hb; exact hb
    | false => rfl

end Moves

/-! ## Polarity -/

/-- Whether all switches that are gained stand in a tree under even numbers of negations, or all
under odd ones. -/
def Polar (s s' : Settings) (up : Bool) (p : Predicate) : Prop :=
  ∀ w, s.Gains s' w → ∀ n, Occurs w n p → (Even n ↔ up = true)

section Polar

variable {s s' : Settings} {up : Bool} {p : Predicate} {ps : List Predicate}

theorem Polar.any (h : Polar s s' up (.call "any" ps)) (hp : p ∈ ps) : Polar s s' up p :=
  fun w hw n hn => h w hw n (.any hp hn)

theorem Polar.all (h : Polar s s' up (.call "all" ps)) (hp : p ∈ ps) : Polar s s' up p :=
  fun w hw n hn => h w hw n (.all hp hn)

theorem Polar.not (h : Polar s s' up (.call "not" ps)) (hp : p ∈ ps) : Polar s s' (!up) p := by
  intro w hw n hn
  have hodd := h w hw (n + 1) (.not hp hn)
  rw [Nat.even_add_one] at hodd
  rw [Bool.not_eq_true', ← Bool.not_eq_true, ← hodd, not_not]

/-- A switch that stands under no negation is not lost. -/
theorem moves_switch (h : s.Within s') {w : Switch} (hpolar : Polar s s' up p) (hw : Occurs w 0 p)
    {b b' : Bool} (hb : b = true ↔ s.Has w) (hb' : b' = true ↔ s'.Has w) : Moves up b b' := by
  have hkept : b = true → b' = true := fun hon => hb'.2 (h w (hb.1 hon))
  cases up with
  | true => exact hkept
  | false =>
    intro hon
    by_contra hoff
    have heven := hpolar w ⟨hb'.1 hon, fun hhas => hoff (hb.2 hhas)⟩ 0 hw
    exact absurd (heven.1 Even.zero) Bool.false_ne_true

mutual

/-- The value of a derived tree moves with the polarity of what is gained. -/
theorem moves_of_derives {p : Predicate} (h : s.Within s') : {ls : List Lexeme} →
    Derives ls p → (up : Bool) → Polar s s' up p → Moves up (holds s p) (holds s' p)
  | _, .name n, up, hpolar => by
    refine moves_switch h hpolar (.flag n) ?_ ?_
    · simp [holds, evaluate, Settings.Has]
    · simp [holds, evaluate, Settings.Has]
  | _, .keyValue k v, up, hpolar => by
    by_cases hk : k = "feature"
    · subst hk
      refine moves_switch h hpolar (.feature v) ?_ ?_
      · simp [holds, evaluate, Settings.Has]
      · simp [holds, evaluate, Settings.Has]
    · have hnever : ∀ t : Settings, holds t (.keyValue k v) = false := by
        intro t
        simp [holds, evaluate, hk]
      rw [hnever, hnever]
      exact .refl up false
  | _, @Derives.call _ _ ps hop hargs hnot, up, hpolar => by
    have hs := evaluate_of_derivesAll s hargs
    have hs' := evaluate_of_derivesAll s' hargs
    simp only [List.mem_cons, List.not_mem_nil, or_false] at hop
    rcases hop with rfl | rfl | rfl
    · rw [holds_any hs, holds_any hs']
      exact .any fun p hp => moves_of_derivesAll h hargs up p hp (hpolar.any hp)
    · rw [holds_all hs, holds_all hs']
      exact .all fun p hp => moves_of_derivesAll h hargs up p hp (hpolar.all hp)
    · obtain ⟨p, rfl⟩ := List.length_eq_one_iff.1 (hnot rfl)
      have hp : p ∈ [p] := List.mem_singleton_self p
      rw [holds_not (hs p hp), holds_not (hs' p hp)]
      exact (moves_of_derivesAll h hargs (!up) p hp (hpolar.not hp)).not

theorem moves_of_derivesAll {ps : List Predicate} (h : s.Within s') : {ls : List Lexeme} →
    DerivesAll ls ps → (up : Bool) →
      ∀ p ∈ ps, Polar s s' up p → Moves up (holds s p) (holds s' p)
  | _, .nil, _ => by simp
  | _, .last hp, up => by simpa using moves_of_derives h hp up
  | _, .cons hp hps, up => by
    simpa using ⟨moves_of_derives h hp up, moves_of_derivesAll h hps up⟩

end

theorem moves_of_parse {text : String} (h : s.Within s') (hp : parse text = .ok p)
    (hpolar : Polar s s' up p) : Moves up (holds s p) (holds s' p) := by
  obtain ⟨ls, -, hd⟩ := lexes_of_parse hp
  exact moves_of_derives h hd up hpolar

end Polar

/-- The values of a predicate under two settings follow the negations that what is gained stands
under. -/
structure FollowsPolarity (s s' : Settings) (p : Predicate) (b b' : Bool) : Prop where
  before : evaluate s p = .ok b
  after : evaluate s' p = .ok b'
  /-- If their number is even throughout, truth is kept. -/
  even : (∀ w, s.Gains s' w → ∀ n, Occurs w n p → Even n) → b = true → b' = true
  /-- If it is odd throughout, falsity is. -/
  odd : (∀ w, s.Gains s' w → ∀ n, Occurs w n p → Odd n) → b' = true → b = true
  /-- If nothing that is gained occurs, nothing changes. -/
  same : (∀ w, s.Gains s' w → ∀ n, ¬Occurs w n p) → b = b'

/-- A parsed text is looked at under two settings of which the second enables more. -/
theorem evaluate_within {text : String} {p : Predicate} {s s' : Settings}
    (hp : parse text = .ok p) (h : s.Within s') : ∃ b b', FollowsPolarity s s' p b b' := by
  obtain ⟨ls, -, hd⟩ := lexes_of_parse hp
  have hup : (∀ w, s.Gains s' w → ∀ n, Occurs w n p → Even n) →
      Moves true (holds s p) (holds s' p) := by
    intro heven
    exact moves_of_parse h hp fun w hw n hn => iff_of_true (heven w hw n hn) rfl
  have hdown : (∀ w, s.Gains s' w → ∀ n, Occurs w n p → Odd n) →
      Moves false (holds s p) (holds s' p) := by
    intro hodd
    refine moves_of_parse h hp fun w hw n hn => iff_of_false ?_ Bool.false_ne_true
    exact Nat.not_even_iff_odd.2 (hodd w hw n hn)
  refine ⟨_, _, evaluate_of_derives s hd, evaluate_of_derives s' hd, hup, hdown, fun hnone => ?_⟩
  -- What does not occur at all occurs under even numbers only, and under odd numbers only.
  have hkept := hup fun w hw n hn => absurd hn (hnone w hw n)
  have hgained := hdown fun w hw n hn => absurd hn (hnone w hw n)
  exact Bool.eq_iff_iff.2 ⟨hkept, hgained⟩

end Predicate

open Predicate

/-! ## Guards without negations -/

/-- The guard of predicates without negations has none. -/
theorem not_negates_guard {ts : List Predicate} (h : ∀ t ∈ ts, ¬Negates t) :
    ¬Negates (.call "any" (ts ++ [docsTree])) := by
  rw [negates_call]
  rintro (hop | ⟨t, hmem, hneg⟩)
  · exact absurd hop (by decide)
  · rcases List.mem_append.1 hmem with hmem | hmem
    · exact h t hmem hneg
    · rw [List.mem_singleton.1 hmem] at hneg
      exact not_negates_keyValue _ _ hneg

/-- A parsed text without negations that is active stays so when more is enabled. -/
theorem isActive_within {text : String} {t : Predicate} (ht : parse text = .ok t)
    (hneg : ¬Negates t) {s s' : Settings} (h : s.Within s') :
    ∃ b b', isActive s text = .ok b ∧ isActive s' text = .ok b' ∧ (b = true → b' = true) := by
  refine ⟨_, _, isActive_of_parse ht s, isActive_of_parse ht s', ?_⟩
  have hpolar : Polar s s' true t := by
    intro w _ n hn
    rw [hn.eq_zero hneg]
    exact iff_of_true Even.zero rfl
  exact moves_of_parse h ht hpolar

/-- Under a second setting a guard that holds a predicate is not turned off, nor its complement
on. -/
structure StaysOn (g : Guard) (indent : Int) (s s' : Settings) (c d : String)
    (b b' e e' : Bool) : Prop where
  complement : ofAttribute? (g.complementAttribute ⟨false, indent⟩) = some d
  before : isActive s c = .ok b
  after : isActive s' c = .ok b'
  stays_on : b = true → b' = true
  complement_before : isActive s d = .ok e
  complement_after : isActive s' d = .ok e'
  stays_off : e' = true → e = true

/-- When more is enabled, a predicate that a text stands for changes with the number of negations
that what is gained stands under. So a guard that is read back as a predicate without negations is
never turned off, nor its complement on; and a guard of predicates without negations is read back as
one. -/
theorem polarity_respected :
    (∀ (text : String) (p : Predicate) (s s' : Settings), parse text = .ok p → s.Within s' →
      ∃ b b', FollowsPolarity s s' p b b') ∧
    (∀ (g : Guard) (indent : Int) (c : String) (t : Predicate),
      ofAttribute? (g.compileAttribute ⟨false, indent⟩) = some c → parse c = .ok t →
      ¬Negates t → ∀ s s' : Settings, s.Within s' →
      ∃ d b b' e e', StaysOn g indent s s' c d b b' e e') ∧
    ∀ (texts : List String) (ts : List Predicate), texts ≠ [] →
      List.Forall₂ (fun text t => parse text = .ok t) texts ts → (∀ t ∈ ts, ¬Negates t) →
      ∀ indent : Int, ∃ c t,
        ofAttribute? ((Guard.mk (", ".intercalate texts)).compileAttribute ⟨false, indent⟩) =
          some c ∧ parse c = .ok t ∧ ¬Negates t := by
  refine ⟨fun text p s s' hp h => evaluate_within hp h, ?_, ?_⟩
  · intro g indent c t hc ht hneg s s' h
    rw [Guard.ofAttribute?_compileAttribute] at hc
    obtain rfl := Option.some.inj hc
    obtain ⟨b, b', hb, hb', hkept⟩ := isActive_within ht hneg h
    have hcomplement : ∀ r v, isActive r g.compilePredicate = .ok v →
        isActive r g.complementPredicate = .ok (!v) := by
      intro r v hv
      obtain ⟨ls, -, hd⟩ := lexes_of_parse ht
      rw [isActive_of_parse ht] at hv
      rw [isActive_of_parse (parse_complement ht), holds_not (evaluate_of_derives r hd),
        Except.ok.inj hv]
    refine ⟨_, b, b', !b, !b', Guard.ofAttribute?_complementAttribute g indent, hb, hb', hkept,
      hcomplement s b hb, hcomplement s' b' hb', fun he' => ?_⟩
    cases b with
    | true => rw [hkept rfl] at he'; exact he'
    | false => rfl
  · intro texts ts hne h hneg indent
    exact ⟨_, _, Guard.ofAttribute?_compileAttribute _ indent, parse_compilePredicate hne h,
      not_negates_guard hneg⟩

/-- The feature of a version under two negations, beside a flag under one. -/
def twiceNegated : Predicate :=
  .call "not" [.call "all" [.name "unix", .call "not" [.keyValue "feature" "v2_58"]]]

theorem parse_twiceNegated :
    parse "not(all(unix, not(feature = \"v2_58\")))" = .ok twiceNegated := by
  have hplain : ∀ c ∈ "v2_58".toList, c ≠ '"' ∧ c ≠ '\\' := by simp
  have hinner : parse ("not" ++ "(" ++ ("feature = \"" ++ "v2_58" ++ "\"") ++ ")") =
      .ok (.call "not" [.keyValue "feature" "v2_58"]) := by
    have hparses := parsesAll_intercalate (.cons (parse_feature hplain) .nil)
    rw [String.intercalate_singleton] at hparses
    exact parse_operator (by simp) (by simp) hparses
  have hall : parse ("all" ++ "(" ++ ", ".intercalate
      ["unix", "not" ++ "(" ++ ("feature = \"" ++ "v2_58" ++ "\"") ++ ")"] ++ ")") =
      .ok (.call "all" [.name "unix", .call "not" [.keyValue "feature" "v2_58"]]) :=
    parse_operator (by simp) (by simp)
      (parsesAll_intercalate (.cons (parse_name (by decide)) (.cons hinner .nil)))
  have hparses := parsesAll_intercalate (.cons hall .nil)
  rw [String.intercalate_singleton] at hparses
  have htext : "not(all(unix, not(feature = \"v2_58\")))" = "not" ++ "(" ++ ("all" ++ "(" ++
      ", ".intercalate ["unix", "not" ++ "(" ++ ("feature = \"" ++ "v2_58" ++ "\"") ++ ")"] ++
        ")") ++ ")" := by decide
  rw [htext]
  exact parse_operator (by simp) (by simp) hparses

theorem evaluate_twiceNegated (s : Settings) :
    evaluate s twiceNegated = .ok (!(s.flag "unix" && !s.feature "v2_58")) := by
  simp only [twiceNegated, evaluate, evaluateNot, evaluateAll, Except.map, if_pos]
  cases s.flag "unix" <;> cases s.feature "v2_58" <;> rfl

/-- The switches in it are the flag under one negation and the feature under two. -/
theorem occurs_twiceNegated {w : Switch} {n : Nat} (h : Occurs w n twiceNegated) :
    w = .flag "unix" ∧ n = 1 ∨ w = .feature "v2_58" ∧ n = 2 := by
  have hcases : ∃ m, n = m + 1 ∧
      (w = .flag "unix" ∧ m = 0 ∨ m = 1 ∧ w = .feature "v2_58") := by
    simpa [twiceNegated, occurs_call, occurs_name, occurs_keyValue] using h
  obtain ⟨m, rfl, ⟨hw, rfl⟩ | ⟨rfl, hw⟩⟩ := hcases
  · exact .inl ⟨hw, rfl⟩
  · exact .inr ⟨hw, rfl⟩

/-- Some features and flags. -/
def settingsOf (features flags : List String) : Settings := ⟨features.contains, flags.contains⟩

section SettingsOf

variable {fs fs' gs gs' : List String}

theorem has_feature_settingsOf {f : String} : (settingsOf fs gs).Has (.feature f) ↔ f ∈ fs :=
  List.contains_iff_mem

theorem has_flag_settingsOf {g : String} : (settingsOf fs gs).Has (.flag g) ↔ g ∈ gs :=
  List.contains_iff_mem

/-- More features and flags enable more. -/
theorem within_settingsOf (hfs : fs ⊆ fs') (hgs : gs ⊆ gs') :
    (settingsOf fs gs).Within (settingsOf fs' gs') := by
  rintro (f | g) h
  · exact has_feature_settingsOf.2 (hfs (has_feature_settingsOf.1 h))
  · exact has_flag_settingsOf.2 (hgs (has_flag_settingsOf.1 h))

/-- What is gained that occurs in the predicate is the flag or the feature. -/
theorem gains_twiceNegated {w : Switch} {n : Nat}
    (hw : (settingsOf fs gs).Gains (settingsOf fs' gs') w) (hn : Occurs w n twiceNegated) :
    ("unix" ∈ gs' ∧ "unix" ∉ gs ∧ n = 1) ∨ ("v2_58" ∈ fs' ∧ "v2_58" ∉ fs ∧ n = 2) := by
  obtain ⟨hon, hoff⟩ := hw
  rcases occurs_twiceNegated hn with ⟨rfl, rfl⟩ | ⟨rfl, rfl⟩
  · rw [has_flag_settingsOf] at hon hoff
    exact .inl ⟨hon, hoff, rfl⟩
  · rw [has_feature_settingsOf] at hon hoff
    exact .inr ⟨hon, hoff, rfl⟩

end SettingsOf

/-- With its feature the predicate stays true, without its flag too, and a flag that is not in it
changes nothing; and the guard of two flags stays on with more features. -/
theorem polarity_respected_twiceNegated :
    parse "not(all(unix, not(feature = \"v2_58\")))" = .ok twiceNegated ∧
    evaluate (settingsOf [] ["windows"]) twiceNegated = .ok true ∧
    evaluate (settingsOf ["v2_58"] ["windows"]) twiceNegated = .ok true ∧
    evaluate (settingsOf ["v2_58"] ["unix"]) twiceNegated = .ok true ∧
    evaluate (settingsOf ["v2_58"] []) twiceNegated = .ok true ∧
    evaluate (settingsOf [] ["unix"]) twiceNegated = .ok false ∧
    evaluate (settingsOf [] ["unix", "windows"]) twiceNegated = .ok false ∧
    ∃ c d b b' e e', ofAttribute? ((Guard.mk "unix, windows").compileAttribute {}) = some c ∧
      ofAttribute? ((Guard.mk "unix, windows").complementAttribute {}) = some d ∧
      isActive (settingsOf [] ["unix"]) c = .ok b ∧
      isActive (settingsOf ["v2_58"] ["unix"]) c = .ok b' ∧ (b = true → b' = true) ∧
      isActive (settingsOf [] ["unix"]) d = .ok e ∧
      isActive (settingsOf ["v2_58"] ["unix"]) d = .ok e' ∧ (e' = true → e = true) := by
  obtain ⟨htrees, hguards, hread⟩ := polarity_respected
  have hother : evaluate (settingsOf [] ["windows"]) twiceNegated = .ok true :=
    evaluate_twiceNegated _
  have hboth : evaluate (settingsOf ["v2_58"] ["unix"]) twiceNegated = .ok true :=
    evaluate_twiceNegated _
  have hflag : evaluate (settingsOf [] ["unix"]) twiceNegated = .ok false :=
    evaluate_twiceNegated _
  refine ⟨parse_twiceNegated, hother, ?_, hboth, ?_, hflag, ?_, ?_⟩
  · obtain ⟨b, b', h⟩ := htrees _ _ _ (settingsOf ["v2_58"] ["windows"])
      parse_twiceNegated (within_settingsOf (List.nil_subset _) (List.Subset.refl ["windows"]))
    rw [h.after, h.even ?_ (Except.ok.inj (hother.symm.trans h.before)).symm]
    intro w hw n hn
    rcases gains_twiceNegated hw hn with ⟨hon, -⟩ | ⟨-, -, rfl⟩
    · exact absurd hon (by decide)
    · exact even_two
  · obtain ⟨b, b', h⟩ := htrees _ _ (settingsOf ["v2_58"] []) _
      parse_twiceNegated (within_settingsOf (List.Subset.refl ["v2_58"]) (List.nil_subset ["unix"]))
    rw [h.before, h.odd ?_ (Except.ok.inj (hboth.symm.trans h.after)).symm]
    intro w hw n hn
    rcases gains_twiceNegated hw hn with ⟨-, -, rfl⟩ | ⟨hon, hoff, -⟩
    · exact odd_one
    · exact absurd hon hoff
  · obtain ⟨b, b', h⟩ := htrees _ _ _ (settingsOf [] ["unix", "windows"])
      parse_twiceNegated
      (within_settingsOf (List.nil_subset []) (List.subset_append_left ["unix"] ["windows"]))
    rw [h.after, ← h.same ?_, ← h.before, hflag]
    intro w hw n hn
    rcases gains_twiceNegated hw hn with ⟨-, hoff, -⟩ | ⟨hon, hoff, -⟩
    · exact absurd (by decide) hoff
    · exact absurd hon hoff
  · have hparse : List.Forall₂ (fun text t => parse text = .ok t) ["unix", "windows"]
        [.name "unix", .name "windows"] :=
      .cons (parse_name (by decide)) (.cons (parse_name (by decide)) .nil)
    obtain ⟨c, t, hc, ht, hneg⟩ := hread _ _ (by simp) hparse (by simp [not_negates_name]) 0
    have hmore : (settingsOf [] ["unix"]).Within (settingsOf ["v2_58"] ["unix"]) :=
      within_settingsOf (List.nil_subset _) (List.Subset.refl ["unix"])
    obtain ⟨d, b, b', e, e', h⟩ := hguards _ _ c t hc ht hneg _ _ hmore
    exact ⟨c, d, b, b', e, e', hc, h.complement, h.before, h.after, h.stays_on,
      h.complement_before, h.complement_after, h.stays_off⟩

end Bindery
