import Bindery.Proofs.Predicate.Meaning
import Bindery.Proofs.Text.Parts
import Bindery.Version

/-!
# The order of versions, and their features

Versions are in a linear order, which their numbers decide one after the other. The feature of a
version is spelled with digits, minus signs and underscores, so its predicate is read back as it
was written.
-/

namespace Bindery.Version

open Std Predicate Text

/-! ## Order -/

instance : TransCmp compare := inferInstanceAs
  (TransCmp (compareLex (compareOn major) (compareLex (compareOn minor) (compareOn patch))))

instance : TransOrd Version := inferInstanceAs (TransCmp compare)

instance : LawfulEqOrd Version where
  eq_of_compare {v w} h := by
    obtain ⟨hmajor, hrest⟩ := Ordering.then_eq_eq.1 (show v.compare w = .eq from h)
    obtain ⟨hminor, hpatch⟩ := Ordering.then_eq_eq.1 hrest
    obtain ⟨major, minor, patch⟩ := v
    obtain ⟨major', minor', patch'⟩ := w
    rw [mk.injEq]
    exact ⟨LawfulEqOrd.eq_of_compare hmajor, LawfulEqOrd.eq_of_compare hminor,
      LawfulEqOrd.eq_of_compare hpatch⟩

theorem not_le {v w : Version} : ¬v ≤ w ↔ w < v := by
  have hswap : v.compare w = (w.compare v).swap := OrientedCmp.eq_swap
  show ¬v.compare w ≠ .gt ↔ w.compare v = .lt
  rw [hswap, not_not, Ordering.swap_eq_gt]

theorem le_of_not_lt {v w : Version} (h : ¬v < w) : w ≤ v := not_not.1 (mt not_le.1 h)

theorem le_refl (v : Version) : v ≤ v := by
  have hself : v.compare v = .eq := ReflCmp.compare_self
  show v.compare v ≠ .gt
  rw [hself]
  decide

theorem le_of_lt {v w : Version} (h : v < w) : v ≤ w := by
  show v.compare w ≠ .gt
  rw [show v.compare w = .lt from h]
  decide

/-- What comes no later than a version that a baseline has, the baseline has too. -/
theorem le_trans {u v w : Version} (huv : u ≤ v) (hvw : v ≤ w) : u ≤ w :=
  Ordering.ne_gt_iff_isLE.2
    (TransCmp.isLE_trans (Ordering.ne_gt_iff_isLE.1 huv) (Ordering.ne_gt_iff_isLE.1 hvw))

theorem le_antisymm {v w : Version} (hvw : v ≤ w) (hwv : w ≤ v) : v = w := by
  cases hcompare : v.compare w with
  | lt => exact absurd hcompare fun hlt => not_le.2 hlt hwv
  | eq => exact LawfulEqOrd.eq_of_compare hcompare
  | gt => exact absurd hcompare hvw

/-- The numbers decide one after the other. -/
theorem lt_iff {v w : Version} : v < w ↔ v.major < w.major ∨ v.major = w.major ∧
    (v.minor < w.minor ∨ v.minor = w.minor ∧ v.patch < w.patch) := by
  have hcompare : v < w ↔ v.compare w = .lt := Iff.rfl
  rw [hcompare, compare, Ordering.then_eq_lt, Ordering.then_eq_lt, Int.compare_eq_lt,
    Int.compare_eq_lt, Int.compare_eq_lt, Std.compare_eq_iff_eq, Std.compare_eq_iff_eq]

/-! ## Numbers in a row -/

/-- The numbers that a version is printed with; a patch of zero is left out. -/
def numbers (v : Version) : List Int :=
  if v.patch = 0 then [v.major, v.minor] else [v.major, v.minor, v.patch]

theorem toList_joined {sep : String} {c : Char} (h : sep.toList = [c]) (v : Version) :
    (v.joined sep).toList = [c].intercalate (v.numbers.map fun n => (toString n).toList) := by
  unfold joined numbers
  split_ifs
  · simp [h, List.intercalate_cons_cons]
  · simp [h, List.intercalate_cons_cons]

/-- The numbers of a version as they stand in its feature. -/
def row (v : Version) : List Char :=
  ['_'].intercalate (v.numbers.map fun n => (toString n).toList)

theorem mem_toString {n : Int} {c : Char} (h : c ∈ (toString n).toList) :
    c.isDigit = true ∨ c = '-' := by
  have hdigits : ∀ {m : Nat}, c ∈ m.repr.toList → c.isDigit = true := by
    intro m hm
    rw [Nat.toList_repr] at hm
    exact Nat.isDigit_of_mem_toDigits (by decide) (by decide) hm
  rw [Int.toString_eq_repr, Int.repr_eq_if] at h
  split_ifs at h
  · exact .inl (hdigits h)
  · rw [String.toList_append, List.mem_append] at h
    rcases h with h | h
    · exact .inr (List.mem_singleton.1 h)
    · exact .inl (hdigits h)

/-! ## Features -/

/-- The characters of numbers and features. -/
def IsNumeral (c : Char) : Prop := c.isDigit = true ∨ c = '-' ∨ c = '_' ∨ c = 'v'

/-- A feature is the letter in front of the numbers of its version. -/
theorem toList_feature (v : Version) : v.feature.toList = 'v' :: v.row := by
  unfold feature row
  rw [String.toList_append, toList_joined (c := '_') rfl]
  rfl

theorem isNumeral_of_mem_feature {v : Version} : ∀ c ∈ v.feature.toList, IsNumeral c := by
  intro c hc
  rw [toList_feature, List.mem_cons] at hc
  rcases hc with hc | hc
  · exact .inr (.inr (.inr hc))
  · rcases mem_intercalate hc with hc | ⟨digits, hdigits, hc⟩
    · exact .inr (.inr (.inl hc))
    · obtain ⟨n, -, rfl⟩ := List.mem_map.1 hdigits
      exact (mem_toString hc).imp id .inl

/-- No character of a feature needs an escape. -/
theorem ne_quote_of_mem_feature {v : Version} : ∀ c ∈ v.feature.toList, c ≠ '"' ∧ c ≠ '\\' := by
  intro c hc
  have hnumeral := isNumeral_of_mem_feature c hc
  constructor <;> rintro rfl <;> simp [IsNumeral] at hnumeral

/-- A feature in a crate is spelled with the characters of its tag besides its own. -/
theorem mem_featureIn {tag : Option String} {v : Version} {c : Char}
    (h : c ∈ (v.featureIn tag).toList) :
    (∃ t ∈ tag, c ∈ t.toList) ∨ c = '_' ∨ c ∈ v.feature.toList := by
  unfold featureIn tagged at h
  cases tag with
  | none => exact .inr (.inr h)
  | some t =>
    simp only at h
    split_ifs at h
    · exact .inr (.inr h)
    · simp only [String.toList_append, List.mem_append] at h
      rcases h with (h | h) | h
      · exact .inl ⟨t, rfl, h⟩
      · exact .inr (.inl (by simpa using h))
      · exact .inr (.inr h)

/-- The predicate of a version is on one line. -/
theorem newline_notMem_predicate {tag : Option String} (h : ∀ t ∈ tag, '\n' ∉ t.toList)
    (v : Version) : '\n' ∉ (v.predicate tag).toList := by
  have hopening : '\n' ∉ "feature = \"".toList := by decide
  have hclosing : '\n' ∉ "\"".toList := by decide
  have hfeature : '\n' ∉ (v.featureIn tag).toList := fun hmem => by
    rcases mem_featureIn hmem with ⟨t, ht, hc⟩ | hc | hc
    · exact h t ht hc
    · exact absurd hc (by decide)
    · have hnumeral := isNumeral_of_mem_feature _ hc
      simp [IsNumeral] at hnumeral
  unfold predicate requires
  simp only [String.toList_append, List.mem_append, not_or]
  exact ⟨⟨hopening, hfeature⟩, hclosing⟩

/-- A tag that can stand between double quotes as it is; without one there is nothing to ask. -/
def IsPlainTag (tag : Option String) : Prop := ∀ t ∈ tag, ∀ c ∈ t.toList, c ≠ '"' ∧ c ≠ '\\'

theorem isPlainTag_none : IsPlainTag none := nofun

theorem ne_quote_of_mem_featureIn {tag : Option String} (h : IsPlainTag tag) (v : Version) :
    ∀ c ∈ (v.featureIn tag).toList, c ≠ '"' ∧ c ≠ '\\' := by
  intro c hc
  rcases mem_featureIn hc with ⟨t, ht, hc⟩ | rfl | hc
  · exact h t ht c hc
  · decide
  · exact ne_quote_of_mem_feature c hc

theorem parse_predicate {tag : Option String} (h : IsPlainTag tag) (v : Version) :
    Predicate.parse (v.predicate tag) = .ok (.keyValue "feature" (v.featureIn tag)) :=
  parse_feature (ne_quote_of_mem_featureIn h v)

end Bindery.Version
