import Bindery.Proofs.Predicate.Exactness
import Bindery.Proofs.Text.Parts
import Bindery.Proofs.Version
import Bindery.Proofs.Version.Numeral
import Mathlib.Data.List.GetD

/-!
# Versions as they are written

A version is written as one to three numbers with dots between them, and blanks around the whole.
`parse` takes just the texts of this form, and gives the version that is written. What a version is
printed as is one of them, so it is read back.
-/

namespace Bindery.Version

open Predicate Text

/-! ## The form -/

/-- A text of one to three fields, with dots between them and blanks around. -/
structure Dotted (text : String) (runs : List (List Char)) : Prop where
  padded : ∃ ws us, IsGap ws ∧ IsGap us ∧ text.toList = ws ++ (['.'].intercalate runs ++ us)
  pos : 1 ≤ runs.length
  le_three : runs.length ≤ 3

/-- The ways to write a version: one to three numbers, of which a missing one is zero. -/
def Written (text : String) (v : Version) : Prop :=
  ∃ (runs : List (List Char)) (ns : List Nat), Dotted text runs ∧ List.Forall₂ Numeral runs ns ∧
    v = ⟨ns.getD 0 0, ns.getD 1 0, ns.getD 2 0⟩

theorem Dotted.ne_nil {text : String} {runs : List (List Char)} (h : Dotted text runs) :
    runs ≠ [] :=
  List.ne_nil_of_length_pos h.pos

theorem isField_iff {cs : List Char} :
    isField cs = true ↔ cs ≠ [] ∧ ∀ c ∈ cs, Text.isDigit c = true := by
  unfold isField
  rw [Bool.and_eq_true, List.all_eq_true, Bool.not_eq_true', List.isEmpty_eq_false_iff]

theorem Numeral.isField {cs : List Char} {n : Nat} (h : Numeral cs n) :
    Version.isField cs = true :=
  isField_iff.2 ⟨h.ne_nil, h.isDigit⟩

/-- Fields of digits are found in their text. -/
theorem Dotted.fields_eq {text : String} {runs : List (List Char)} (h : Dotted text runs)
    (hruns : ∀ r ∈ runs, isField r = true) : fields '.' (strip text.toList) = runs := by
  obtain ⟨ws, us, hws, hus, htext⟩ := h.padded
  have hdigit : ∀ r ∈ runs, ∀ c ∈ r, Text.isDigit c = true := fun r hr =>
    (isField_iff.1 (hruns r hr)).2
  have hdot : ∀ r ∈ runs, '.' ∉ r := fun r hr hmem => absurd (hdigit r hr _ hmem) (by decide)
  have hblank : ∀ c ∈ ['.'].intercalate runs, isBlank c = false := by
    intro c hc
    rcases mem_intercalate hc with rfl | ⟨r, hr, hc⟩
    · decide
    · exact isBlank_of_isDigit (hdigit r hr c hc)
  have hstrip : strip text.toList = ['.'].intercalate runs := by
    rw [htext]
    apply strip_gaps hws hus
    · exact fun c hc => hblank c (List.mem_of_mem_head? hc)
    · exact fun c hc => hblank c (List.mem_of_mem_getLast? hc)
  rw [hstrip, fields_intercalate h.ne_nil hdot]

/-! ## Reading -/

/-- A text of such fields is read number by number. -/
theorem Dotted.parse_eq {text : String} {runs : List (List Char)} (h : Dotted text runs)
    (hruns : ∀ r ∈ runs, isField r = true) :
    parse text = runs.mapM numberOf >>= fun ns =>
      .ok ⟨ns.getD 0 0, ns.getD 1 0, ns.getD 2 0⟩ := by
  have hfields : (decide (runs.length ≤ 3) && runs.all isField) = true := by
    rw [Bool.and_eq_true, decide_eq_true_eq, List.all_eq_true]
    exact ⟨h.le_three, hruns⟩
  unfold parse
  simp only [h.fields_eq hruns]
  rw [if_pos hfields]
  rfl

/-- Fields of digits that are all read are numbers. -/
theorem forall₂_numberOf {runs : List (List Char)} {ns : List Int} :
    List.Forall₂ (fun r n => isField r = true ∧ numberOf r = .ok n) runs ns ↔
      ∃ ms : List Nat, List.Forall₂ Numeral runs ms ∧ ms.map (↑) = ns := by
  have hnumber : ∀ (r : List Char) (n : Int),
      (isField r = true ∧ numberOf r = .ok n) ↔ ∃ m : Nat, Numeral r m ∧ ↑m = n := by
    intro r n
    constructor
    · rintro ⟨hr, hn⟩
      obtain ⟨m, hm, rfl⟩ := (numberOf_eq_ok_iff (isField_iff.1 hr).1).1 hn
      exact ⟨m, hm, rfl⟩
    · rintro ⟨m, hm, rfl⟩
      exact ⟨hm.isField, (numberOf_eq_ok_iff hm.ne_nil).2 ⟨m, hm, rfl⟩⟩
  simp only [hnumber, ← forall₂_comp_iff, ← List.forall₂_eq_eq_eq, List.forall₂_map_left_iff]

theorem getD_map_cast (ms : List Nat) (i : Nat) :
    (ms.map ((↑) : Nat → Int)).getD i 0 = ms.getD i 0 :=
  List.getD_map ms 0 ((↑) : Nat → Int)

theorem parse_of_written {text : String} {v : Version} (h : Written text v) :
    parse text = .ok v := by
  obtain ⟨runs, ms, hruns, hms, rfl⟩ := h
  have hread := mapM_eq_ok_iff.2 ((forall₂_numberOf.2 ⟨ms, hms, rfl⟩).imp fun _ _ h => h.2)
  have hfields : ∀ r ∈ runs, isField r = true := by
    intro r hr
    obtain ⟨m, -, hm⟩ := (exists_of_forall₂ hms).2 r hr
    exact hm.isField
  rw [hruns.parse_eq hfields, hread, ok_bind]
  simp only [getD_map_cast]

/-- A text that is read has the form. -/
theorem written_of_parse {text : String} {v : Version} (h : parse text = .ok v) :
    Written text v := by
  unfold parse at h
  simp only at h
  split_ifs at h with hfields
  rw [Bool.and_eq_true, decide_eq_true_eq, List.all_eq_true] at hfields
  obtain ⟨ns, hns, hv⟩ := bind_eq_ok_iff.1 h
  obtain ⟨ms, hms, rfl⟩ := forall₂_numberOf.1 (forall₂_of_mapM hfields.2 hns)
  obtain rfl := Except.ok.inj hv
  obtain ⟨ws, us, hws, hus, hsplit⟩ := exists_gaps text.toList
  refine ⟨_, ms, ⟨⟨ws, us, hws, hus, ?_⟩, ?_, hfields.1⟩, hms, ?_⟩
  · rw [intercalate_fields]
    exact hsplit
  · exact List.length_pos_of_ne_nil (fields_ne_nil _ _)
  · simp only [getD_map_cast]

/-- Fields of digits, one of which has no place value, are refused for such a field or for a number
of digits over the limit. -/
theorem Dotted.refused {text : String} {runs : List (List Char)} (h : Dotted text runs)
    (hruns : ∀ r ∈ runs, isField r = true)
    (hbare : ∃ r ∈ runs, ∃ c ∈ r, decimalValue? c = none) :
    ∃ e, parse text = .error e ∧
      ((∃ r ∈ runs, e = .placeless (String.ofList r)) ∨ ∃ k, e = .tooLong k) := by
  rw [h.parse_eq hruns]
  rcases mapM_ok_or_error numberOf runs with
    ⟨ns, -, hall⟩ | ⟨front, r, back, e, rfl, -, hr, hread⟩
  · obtain ⟨r, hr, c, hc, hnone⟩ := hbare
    obtain ⟨n, hn⟩ := hall r hr
    obtain ⟨m, hm, -⟩ := (numberOf_eq_ok_iff (List.ne_nil_of_mem hc)).1 hn
    obtain ⟨ds, hds, -⟩ := hm.value
    obtain ⟨d, -, hd⟩ := (exists_of_forall₂ hds).2 c hc
    rw [hnone] at hd
    cases hd
  · refine ⟨e, by rw [hread]; rfl, ?_⟩
    rcases numberOf_eq_error hr with rfl | htoo
    · exact .inl ⟨r, by simp, rfl⟩
    · exact .inr htoo

/-! ## Printing -/

/-- Whether a version has numbers that can be written. -/
def IsWritable (v : Version) : Prop :=
  ∀ n ∈ [v.major, v.minor, v.patch], 0 ≤ n ∧ n < 10 ^ digitLimit

theorem numeral_toString {n : Int} (hpos : 0 ≤ n) (hlt : n < 10 ^ digitLimit) :
    Numeral (toString n).toList n.toNat := by
  have hdigits : toString n = n.toNat.repr := by
    rw [Int.toString_eq_repr, Int.repr_eq_if, if_pos hpos]
  have hnat : n.toNat < 10 ^ digitLimit := by
    apply (Int.toNat_lt hpos).2
    exact_mod_cast hlt
  rw [hdigits]
  exact numeral_repr hnat

/-- The printed form of a version is one of the ways to write it, with any blanks around. -/
theorem written_text {v : Version} (h : v.IsWritable) {ws us : List Char} (hws : IsGap ws)
    (hus : IsGap us) : Written (String.ofList (ws ++ (v.text.toList ++ us))) v := by
  have hmem : ∀ n ∈ v.numbers, n ∈ [v.major, v.minor, v.patch] := by
    unfold numbers
    split_ifs
    · simp
    · exact fun n hn => hn
  have hlength : v.numbers.length = 2 ∨ v.numbers.length = 3 := by
    unfold numbers
    split_ifs
    · exact .inl rfl
    · exact .inr rfl
  refine ⟨v.numbers.map fun n => (toString n).toList, v.numbers.map Int.toNat,
    ⟨⟨ws, us, hws, hus, ?_⟩, ?_, ?_⟩, ?_, ?_⟩
  · unfold text
    rw [String.toList_ofList, toList_joined (c := '.') rfl]
  · rw [List.length_map]
    omega
  · rw [List.length_map]
    omega
  · rw [List.forall₂_map_left_iff, List.forall₂_map_right_iff, List.forall₂_same]
    intro n hn
    obtain ⟨hpos, hlt⟩ := h n (hmem n hn)
    exact numeral_toString hpos hlt
  · obtain ⟨hmajor, hminor, hpatch⟩ : 0 ≤ v.major ∧ 0 ≤ v.minor ∧ 0 ≤ v.patch :=
      ⟨(h _ (by simp)).1, (h _ (by simp)).1, (h _ (by simp)).1⟩
    obtain ⟨major, minor, patch⟩ := v
    unfold numbers
    split_ifs with hzero
    · simp only at hzero
      simp [hmajor, hminor, hzero]
    · simp [hmajor, hminor, hpatch]

/-- What is read can be written. -/
theorem isWritable_of_written {text : String} {v : Version} (h : Written text v) :
    v.IsWritable := by
  obtain ⟨runs, ms, -, hms, rfl⟩ := h
  have hlt : ∀ i, ms.getD i 0 < 10 ^ digitLimit := by
    intro i
    rw [List.getD_eq_getElem?_getD]
    cases hi : ms[i]? with
    | none => exact Nat.pow_pos (by decide)
    | some m =>
      obtain ⟨r, -, hm⟩ := (exists_of_forall₂ hms).1 m (List.mem_of_getElem? hi)
      exact hm.lt
  have hcast : ∀ i, 0 ≤ (ms.getD i 0 : Int) ∧ (ms.getD i 0 : Int) < 10 ^ digitLimit := by
    intro i
    exact ⟨Int.natCast_nonneg _, by exact_mod_cast hlt i⟩
  intro n hn
  simp only [List.mem_cons, List.not_mem_nil, or_false] at hn
  obtain rfl | rfl | rfl := hn
  exacts [hcast 0, hcast 1, hcast 2]

/-! ## The form and its reading -/

/-- A reader of texts reads the versions that they write. -/
structure ReadsWritten (read : String → Except ParseError Version) : Prop where
  /-- The texts that are read are those of one to three numbers with dots between them and blanks
  around, and they give the version of these numbers. -/
  ok_iff : ∀ text v, read text = .ok v ↔ Written text v
  refused : ∀ text, (¬∃ v, Written text v) → ∃ e, read text = .error e
  /-- Of fields that hold digits without a place value one is named, unless a number before has too
  many digits. -/
  placeless : ∀ text runs, Dotted text runs →
    (∀ r ∈ runs, r ≠ [] ∧ ∀ c ∈ r, Text.isDigit c = true) →
    (∃ r ∈ runs, ∃ c ∈ r, decimalValue? c = none) → ∃ e, read text = .error e ∧
      ((∃ r ∈ runs, e = .placeless (String.ofList r)) ∨ ∃ k, e = .tooLong k)
  /-- A version with numbers that can be written is read back from its printed form behind and
  before any blanks. -/
  read_back : ∀ (v : Version) (ws us : List Char),
    (∀ n ∈ [v.major, v.minor, v.patch], 0 ≤ n ∧ n < 10 ^ digitLimit) → IsGap ws → IsGap us →
    read (String.ofList (ws ++ (v.text.toList ++ us))) = .ok v
  /-- Printing what was read and reading it again changes nothing. -/
  again : ∀ text v, read text = .ok v → read v.text = .ok v

/-- `parse` reads exactly the texts that write a version, and refuses every other text. -/
theorem written_forms_read : ReadsWritten parse where
  ok_iff _ _ := ⟨written_of_parse, parse_of_written⟩
  refused text hnot := by
    cases h : parse text with
    | ok v => exact absurd ⟨v, written_of_parse h⟩ hnot
    | error e => exact ⟨e, rfl⟩
  placeless _ _ hd hruns hbare := hd.refused (fun r hr => isField_iff.2 (hruns r hr)) hbare
  read_back _ _ _ hv hws hus := parse_of_written (written_text hv hws hus)
  again text v h := by
    have hnone : IsGap [] := fun c hc => absurd hc (by simp)
    have hv := isWritable_of_written (written_of_parse h)
    have hread := parse_of_written (written_text hv hnone hnone)
    rwa [List.nil_append, List.append_nil, String.ofList_toList] at hread

/-- A version in digits of two scripts, with a leading zero, a patch of zero and blanks. -/
theorem written_twoScripts : Written " ٢.058.0 " ⟨2, 58, 0⟩ := by
  have hblank : IsGap [' '] := fun c hc => by rw [List.mem_singleton.1 hc]; decide
  have htwo : Numeral ['٢'] 2 := ⟨by simp, by decide, [2], .cons (by decide) .nil, by decide⟩
  have hminor : Numeral ['0', '5', '8'] 58 := ⟨by simp, by decide, [0, 5, 8],
    .cons (by decide) (.cons (by decide) (.cons (by decide) .nil)), by decide⟩
  have hzero : Numeral ['0'] 0 := ⟨by simp, by decide, [0], .cons (by decide) .nil, by decide⟩
  exact ⟨_, _, ⟨⟨[' '], [' '], hblank, hblank, by decide⟩, by decide, by decide⟩,
    .cons htwo (.cons hminor (.cons hzero .nil)), rfl⟩

theorem written_forms_read_twoScripts :
    parse " ٢.058.0 " = .ok ⟨2, 58, 0⟩ ∧ parse (Version.text ⟨2, 58, 0⟩) = .ok ⟨2, 58, 0⟩ ∧
      parse " 2.58\t" = .ok ⟨2, 58, 0⟩ ∧ (∃ e, parse "2." = .error e) ∧
      ∃ e, parse "2.5²" = .error e := by
  have hreads := written_forms_read
  have hscripts := (hreads.ok_iff _ _).2 written_twoScripts
  have hempty : parse "2." = .error (.malformed "2.") := by decide
  have hsmall : ∀ n ∈ [(2 : Int), 58, 0], 0 ≤ n ∧ n < 10 ^ 2 := by decide
  have hlimit : (10 : Int) ^ 2 ≤ 10 ^ digitLimit := pow_le_pow_right₀ (by decide) (by decide)
  have hnumbers : ∀ n ∈ [(2 : Int), 58, 0], 0 ≤ n ∧ n < 10 ^ digitLimit := fun n hn =>
    ⟨(hsmall n hn).1, lt_of_lt_of_le (hsmall n hn).2 hlimit⟩
  have hblank : IsGap [' '] := fun c hc => by rw [List.mem_singleton.1 hc]; decide
  have htab : IsGap ['\t'] := fun c hc => by rw [List.mem_singleton.1 hc]; decide
  refine ⟨hscripts, hreads.again _ _ hscripts,
    hreads.read_back ⟨2, 58, 0⟩ [' '] ['\t'] hnumbers hblank htab,
    hreads.refused _ fun ⟨v, hv⟩ => ?_, ?_⟩
  · rw [(hreads.ok_iff _ _).2 hv] at hempty
    cases hempty
  · have hdotted : Dotted "2.5²" [['2'], ['5', '²']] :=
      ⟨⟨[], [], by simp [IsGap], by simp [IsGap], by decide⟩, by decide, by decide⟩
    have hfields : ∀ r ∈ [['2'], ['5', '²']], isField r = true :=
      List.forall_mem_cons.2 ⟨by decide, List.forall_mem_singleton.2 (by decide)⟩
    obtain ⟨e, he, -⟩ := hreads.placeless _ _ hdotted (fun r hr => isField_iff.1 (hfields r hr))
      ⟨['5', '²'], by simp, '²', by simp, by decide⟩
    exact ⟨e, he⟩

end Bindery.Version
