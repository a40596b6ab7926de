import Bindery.Proofs.Version.Written

/-!
# Versions as they are printed

A version is printed in its written form, unless one of its numbers has too many digits. What has
been read has no such number, so it can be printed again.
-/

namespace Bindery.Version

open Text

/-- Whether the numbers of a version have no more digits than are printed. -/
def IsPrintable (v : Version) : Prop :=
  ∀ n ∈ [v.major, v.minor, v.patch], n.natAbs < 10 ^ digitLimit

/-! ## Numbers -/

theorem length_repr_le_iff {n : Nat} : n.repr.length ≤ digitLimit ↔ n < 10 ^ digitLimit := by
  rw [← String.length_toList, Nat.toList_repr]
  exact Nat.length_toDigits_le_iff (by decide) (by decide)

theorem printNumber_eq_ok_iff {n : Int} {s : String} :
    printNumber n = .ok s ↔ n.natAbs < 10 ^ digitLimit ∧ toString n = s := by
  unfold printNumber
  rw [← length_repr_le_iff]
  split_ifs with hlong
  · exact iff_of_false nofun fun h => Nat.not_lt.2 h.1 hlong
  · rw [Except.ok.injEq]
    exact (and_iff_right (Nat.not_lt.1 hlong)).symm

/-! ## Versions -/

section Print

variable {v : Version} {sep s : String} {tag : Option String}

/-- All numbers are printed but a patch of zero, which would have been short enough. -/
theorem print_eq_ok_iff : v.print sep = .ok s ↔ v.IsPrintable ∧ v.joined sep = s := by
  have hzero : (0 : Int).natAbs < 10 ^ digitLimit := Nat.pow_pos (by decide)
  unfold print joined IsPrintable
  rw [List.forall_mem_cons, List.forall_mem_cons, List.forall_mem_singleton]
  by_cases hpatch : v.patch = 0
  · simp only [hpatch, if_true, bind_eq_ok_iff, printNumber_eq_ok_iff, hzero, and_true]
    constructor
    · rintro ⟨_, ⟨hmajor, rfl⟩, _, ⟨hminor, rfl⟩, h⟩
      exact ⟨⟨hmajor, hminor⟩, Except.ok.inj h⟩
    · rintro ⟨⟨hmajor, hminor⟩, rfl⟩
      exact ⟨_, ⟨hmajor, rfl⟩, _, ⟨hminor, rfl⟩, rfl⟩
  · simp only [hpatch, if_false, bind_eq_ok_iff, printNumber_eq_ok_iff]
    constructor
    · rintro ⟨_, ⟨hmajor, rfl⟩, _, ⟨hminor, rfl⟩, _, ⟨hshort, rfl⟩, h⟩
      exact ⟨⟨hmajor, hminor, hshort⟩, Except.ok.inj h⟩
    · rintro ⟨⟨hmajor, hminor, hshort⟩, rfl⟩
      exact ⟨_, ⟨hmajor, rfl⟩, _, ⟨hminor, rfl⟩, _, ⟨hshort, rfl⟩, rfl⟩

theorem toFeature_eq_ok_iff : v.toFeature = .ok s ↔ v.IsPrintable ∧ v.feature = s := by
  unfold toFeature feature
  rw [map_eq_ok_iff]
  simp only [print_eq_ok_iff, and_assoc, exists_and_left, exists_eq_left']

theorem toPredicate_eq_ok_iff :
    v.toPredicate tag = .ok s ↔ v.IsPrintable ∧ v.predicate tag = s := by
  unfold toPredicate predicate featureIn
  rw [map_eq_ok_iff]
  simp only [toFeature_eq_ok_iff, and_assoc, exists_and_left, exists_eq_left']

/-- Of a version with a number that is too long nothing is printed. -/
theorem toFeature_eq_error (h : ¬v.IsPrintable) : v.toFeature = .error .tooLong := by
  cases hprint : v.toFeature with
  | ok s => exact absurd (toFeature_eq_ok_iff.1 hprint).1 h
  | error e =>
    cases e
    rfl

theorem toPredicate_eq_error (h : ¬v.IsPrintable) : v.toPredicate tag = .error .tooLong := by
  rw [toPredicate, map_eq_error_iff]
  exact toFeature_eq_error h

end Print

/-! ## What has been read -/

theorem IsWritable.isPrintable {v : Version} (h : v.IsWritable) : v.IsPrintable := by
  intro n hn
  obtain ⟨hpos, hlt⟩ := h n hn
  apply Int.ofNat_lt.1
  rw [Int.natAbs_of_nonneg hpos]
  exact_mod_cast hlt

theorem isPrintable_of_parse {text : String} {v : Version} (h : parse text = .ok v) :
    v.IsPrintable :=
  (isWritable_of_written (written_of_parse h)).isPrintable

/-- What has been read is printed in its written form, and the feature and the predicates of the
version are as well. -/
theorem printed_of_parse {text : String} {v : Version} (h : parse text = .ok v) :
    v.toText = .ok v.text ∧ v.toFeature = .ok v.feature ∧
      ∀ tag, v.toPredicate tag = .ok (v.predicate tag) := by
  have hprint := isPrintable_of_parse h
  exact ⟨print_eq_ok_iff.2 ⟨hprint, rfl⟩, toFeature_eq_ok_iff.2 ⟨hprint, rfl⟩,
    fun tag => toPredicate_eq_ok_iff.2 ⟨hprint, rfl⟩⟩

end Bindery.Version
