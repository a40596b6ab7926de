import Bindery.Proofs.Predicate.Lexing
import Bindery.Version
import Mathlib.Data.List.Induction
import Mathlib.Data.Nat.Digits.Defs

/-!
# How numbers are written

A number is written with decimal digits of any scripts, and read as what these stand for at their
places. The digits that the number itself is printed with are one way to write it.
-/

namespace Bindery

open Predicate Text

/-! ## Digits -/

namespace Text

/-- A decimal digit is less than ten. -/
theorem decimalValue?_lt {c : Char} {d : Nat} (h : decimalValue? c = some d) : d < 10 := by
  obtain ⟨z, hz, rfl⟩ := Option.map_eq_some_iff.1 h
  unfold zeroOf? at hz
  split_ifs at hz with hc
  · obtain rfl := Option.some.inj hz
    have hle : c.toNat ≤ 57 := (Char.isDigit_iff_toNat.1 hc).2
    omega
  · have hrun := List.find?_some hz
    simp only [Bool.and_eq_true, decide_eq_true_eq] at hrun
    omega

theorem decimalValue?_of_isDigit {c : Char} (h : c.isDigit = true) :
    decimalValue? c = some (c.toNat - '0'.toNat) := by
  unfold decimalValue? zeroOf?
  rw [if_pos h]
  rfl

theorem isDigit_of_decimalValue? {c : Char} (h : (decimalValue? c).isSome = true) :
    isDigit c = true := by
  unfold decimalValue? at h
  rw [Option.isSome_map] at h
  unfold isDigit
  rw [h, Bool.true_or]

/-- No blank is a digit. -/
theorem isDigit_of_isBlank {c : Char} (h : isBlank c = true) : isDigit c = false := by
  have hmem := mem_blankCodes h
  have hascii : ∀ n ∈ blankCodes, ¬(48 ≤ n ∧ n ≤ 57) := by decide
  have hzero : ∀ n ∈ blankCodes, (zeroTable.find? fun z => z ≤ n && n < z + 10) = none := by
    decide +kernel
  have hbare : ∀ n ∈ blankCodes, (bareDigitTable.any fun r => r.1 ≤ n && n ≤ r.2) = false := by
    decide +kernel
  have hc : ¬c.isDigit = true := fun hc => hascii _ hmem (Char.isDigit_iff_toNat.1 hc)
  unfold isDigit zeroOf? Ranges.has
  rw [if_neg hc, hzero _ hmem, hbare _ hmem]
  rfl

theorem isBlank_of_isDigit {c : Char} (h : isDigit c = true) : isBlank c = false := by
  by_contra hb
  rw [isDigit_of_isBlank (by simpa using hb)] at h
  cases h

/-- Digits read from the left have the value of their places. -/
theorem foldl_digits (ds : List Nat) :
    ds.foldl (fun n d => 10 * n + d) 0 = Nat.ofDigits 10 ds.reverse := by
  induction ds using List.reverseRecOn with
  | nil => rfl
  | append_singleton ds d ih =>
    rw [List.foldl_append, ih, List.reverse_append, List.reverse_singleton, List.singleton_append,
      Nat.ofDigits_cons, Nat.add_comm]
    rfl

theorem decimalNumber_eq {cs : List Char} {ds : List Nat}
    (h : List.Forall₂ (fun c d => decimalValue? c = some d) cs ds) :
    decimalNumber cs = Nat.ofDigits 10 ds.reverse := by
  have hvalues : ds = cs.map fun c => (decimalValue? c).getD 0 := by
    induction h with
    | nil => rfl
    | cons hd _ ih => rw [List.map_cons, hd, ih, Option.getD_some]
  rw [← foldl_digits, hvalues, List.foldl_map]
  rfl

end Text

/-! ## Numerals -/

namespace Version

/-- The ways to write a number: decimal digits of any scripts, at least one and no more than the
limit, the leftmost the most significant. -/
structure Numeral (cs : List Char) (n : Nat) : Prop where
  ne_nil : cs ≠ []
  length_le : cs.length ≤ digitLimit
  value : ∃ ds, List.Forall₂ (fun c d => decimalValue? c = some d) cs ds ∧
    n = Nat.ofDigits 10 ds.reverse

theorem Numeral.isDigit {cs : List Char} {n : Nat} (h : Numeral cs n) :
    ∀ c ∈ cs, isDigit c = true := by
  obtain ⟨ds, hds, -⟩ := h.value
  intro c hc
  obtain ⟨d, -, hd⟩ := (exists_of_forall₂ hds).2 c hc
  exact isDigit_of_decimalValue? (by rw [hd]; rfl)

theorem Numeral.lt {cs : List Char} {n : Nat} (h : Numeral cs n) : n < 10 ^ digitLimit := by
  obtain ⟨ds, hds, rfl⟩ := h.value
  have hdigits : ∀ d ∈ ds.reverse, d < 10 := by
    intro d hd
    obtain ⟨c, -, hc⟩ := (exists_of_forall₂ hds).1 d (List.mem_reverse.1 hd)
    exact decimalValue?_lt hc
  have hlength : ds.reverse.length ≤ digitLimit := by
    rw [List.length_reverse, ← hds.length_eq]
    exact h.length_le
  calc Nat.ofDigits 10 ds.reverse < 10 ^ ds.reverse.length :=
        Nat.ofDigits_lt_base_pow_length (by decide) hdigits
    _ ≤ 10 ^ digitLimit := Nat.pow_le_pow_right (by decide) hlength

/-- The digits that a number is printed with. -/
theorem numeral_repr {n : Nat} (h : n < 10 ^ digitLimit) : Numeral n.repr.toList n where
  ne_nil := by
    rw [Nat.toList_repr]
    exact Nat.toDigits_ne_nil
  length_le := by
    rw [Nat.toList_repr]
    exact (Nat.length_toDigits_le_iff (by decide) (by decide)).2 h
  value := by
    rw [Nat.toList_repr]
    have hdigits : ∀ c ∈ Nat.toDigits 10 n, c.isDigit = true := fun c hc =>
      Nat.isDigit_of_mem_toDigits (by decide) (by decide) hc
    refine ⟨(Nat.toDigits 10 n).map fun c => c.toNat - '0'.toNat, ?_, ?_⟩
    · rw [List.forall₂_map_right_iff, List.forall₂_same]
      exact fun c hc => decimalValue?_of_isDigit (hdigits c hc)
    · rw [← foldl_digits, List.foldl_map]
      exact (Nat.ofDigitChars_toDigits (by decide) (by decide)).symm

/-! ## Reading -/

/-- The run of decimal digits that begins a text takes it up whole when there is nothing else. -/
theorem takeWhile_length_eq_iff {α : Type} {p : α → Bool} {as : List α} :
    (as.takeWhile p).length = as.length ↔ ∀ a ∈ as, p a = true := by
  rw [← List.takeWhile_eq_self_iff]
  constructor
  · exact fun h => (List.takeWhile_prefix p).eq_of_length h
  · intro h
    rw [h]

/-- A number is read from the texts that it may be written as. -/
theorem numberOf_eq_ok_iff {cs : List Char} (hne : cs ≠ []) {n : Int} :
    numberOf cs = .ok n ↔ ∃ m : Nat, Numeral cs m ∧ n = m := by
  constructor
  · intro h
    unfold numberOf at h
    simp only at h
    split_ifs at h with hlimit hrun
    have hsome := takeWhile_length_eq_iff.1 hrun
    obtain ⟨ds, hds⟩ : ∃ ds, List.Forall₂ (fun c d => decimalValue? c = some d) cs ds :=
      exists_forall₂ fun c hc => Option.isSome_iff_exists.1 (hsome c hc)
    refine ⟨decimalNumber cs, ⟨hne, ?_, ds, hds, decimalNumber_eq hds⟩, (Except.ok.inj h).symm⟩
    rw [hrun] at hlimit
    exact Nat.not_lt.1 hlimit
  · rintro ⟨m, hm, rfl⟩
    obtain ⟨ds, hds, hvalue⟩ := hm.value
    have hrun : (cs.takeWhile fun c => (decimalValue? c).isSome).length = cs.length := by
      rw [takeWhile_length_eq_iff]
      intro c hc
      obtain ⟨d, -, hd⟩ := (exists_of_forall₂ hds).2 c hc
      rw [hd]
      rfl
    have hlimit : ¬digitLimit < cs.length := Nat.not_lt.2 hm.length_le
    unfold numberOf
    simp only [hrun]
    rw [if_neg hlimit, if_pos trivial, decimalNumber_eq hds, hvalue]

/-- What is not read has too many digits, or one without a place value. -/
theorem numberOf_eq_error {cs : List Char} {e : ParseError} (h : numberOf cs = .error e) :
    e = .placeless (String.ofList cs) ∨ ∃ k, e = .tooLong k := by
  unfold numberOf at h
  simp only at h
  split_ifs at h
  · exact .inr ⟨_, (Except.error.inj h).symm⟩
  · exact .inl (Except.error.inj h).symm

end Version

end Bindery
