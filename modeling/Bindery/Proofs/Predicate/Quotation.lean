import Bindery.Proofs.Predicate.Literal

/-!
# Inside and outside of literals

A text is read from left to right. A double quote opens a literal, and the next one closes it that
does not stand behind a backslash that escapes it. So each character is read as outside of all
literals, as inside one, or as escaped, whether or not the text is a row of tokens.

1. Of a spelling between quotes no character is read as outside, none closes the literal, and
   without the escaping backslashes it is the value (`Spells.inside`).
2. The scan refuses a text exactly when a character outside of literals begins no token, or a
   literal is not closed (`tokensFrom_eq_error_iff`).
-/

namespace Bindery.Predicate

open Text

/-! ## How characters are read -/

/-- How a character is read: outside of all literals, inside one, or as it stands behind a backslash
that escapes it. -/
inductive Reading
  | outside
  | inside
  | escaped
deriving DecidableEq

/-- How the character behind another is read. -/
def Reading.next : Reading → Char → Reading
  | outside, c => if c = '"' then inside else outside
  | inside, c => if c = '"' then outside else if c = '\\' then escaped else inside
  | escaped, _ => inside

/-- The characters of a text, each with how it is read, given how the first is. -/
def markFrom (r : Reading) : List Char → List (Reading × Char)
  | [] => []
  | c :: cs => (r, c) :: markFrom (r.next c) cs

/-- The characters of a text, each with how it is read. -/
def marks (cs : List Char) : List (Reading × Char) := markFrom .outside cs

/-- A quote that opens a literal. -/
def opening : Reading × Char := (.outside, '"')

/-- A quote that closes a literal. -/
def closing : Reading × Char := (.inside, '"')

/-- A backslash that escapes the character behind it. -/
def escaping : Reading × Char := (.inside, '\\')

theorem length_markFrom (r : Reading) (cs : List Char) : (markFrom r cs).length = cs.length := by
  induction cs generalizing r with
  | nil => rfl
  | cons c cs ih => rw [markFrom, List.length_cons, ih, List.length_cons]

theorem markFrom_append (r : Reading) (cs ds : List Char) :
    markFrom r (cs ++ ds) = markFrom r cs ++ markFrom (cs.foldl Reading.next r) ds := by
  induction cs generalizing r with
  | nil => rfl
  | cons c cs ih => rw [List.cons_append, markFrom, ih, markFrom, List.cons_append, List.foldl_cons]

/-! ### Outside of literals -/

theorem foldl_next_outside {cs : List Char} (h : ∀ c ∈ cs, c ≠ '"') :
    cs.foldl Reading.next .outside = .outside := by
  induction cs with
  | nil => rfl
  | cons c cs ih =>
    obtain ⟨hc, hcs⟩ := List.forall_mem_cons.1 h
    rw [List.foldl_cons, Reading.next, if_neg hc, ih hcs]

theorem markFrom_outside {cs : List Char} (h : ∀ c ∈ cs, c ≠ '"') :
    markFrom .outside cs = cs.map fun c => (.outside, c) := by
  induction cs with
  | nil => rfl
  | cons c cs ih =>
    obtain ⟨hc, hcs⟩ := List.forall_mem_cons.1 h
    rw [markFrom, Reading.next, if_neg hc, ih hcs, List.map_cons]

/-! ### Inside of them -/

/-- What a spelling of a value is read as: all of it lies inside the literal, and the characters
that are not escaping backslashes make up the value. -/
structure Inside (v : List Char) (ms : List (Reading × Char)) : Prop where
  not_outside : ∀ m ∈ ms, m.1 ≠ .outside
  not_closing : closing ∉ ms
  value : (ms.filter (· ≠ escaping)).map Prod.snd = v

theorem closing_notMem_cons {c : Char} {ms : List (Reading × Char)} (hq : c ≠ '"')
    (h : closing ∉ ms) (r : Reading) : closing ∉ (r, c) :: ms := by
  have hclosing : closing ≠ (r, c) := by
    intro heq
    exact hq (congrArg Prod.snd heq).symm
  exact List.not_mem_cons_of_ne_of_not_mem hclosing h

/-- An escaped character closes nothing, even if it is a quote. -/
theorem closing_notMem_escaped {ms : List (Reading × Char)} (h : closing ∉ ms) (c : Char) :
    closing ∉ escaping :: (.escaped, c) :: ms := by
  have hescaped : closing ≠ (.escaped, c) := by simp [closing]
  exact List.not_mem_cons_of_ne_of_not_mem (by decide)
    (List.not_mem_cons_of_ne_of_not_mem hescaped h)

theorem Spells.foldl_next {v s : List Char} (h : Spells v s) :
    s.foldl Reading.next .inside = .inside := by
  induction h with
  | nil => rfl
  | plain hq hb _ ih => rwa [List.foldl_cons, Reading.next, if_neg hq, if_neg hb]
  | escaped _ ih => exact ih

theorem Inside.plain {c : Char} {v : List Char} {ms : List (Reading × Char)} (h : Inside v ms)
    (hq : c ≠ '"') (hb : c ≠ '\\') : Inside (c :: v) ((.inside, c) :: ms) := by
  refine ⟨List.forall_mem_cons.2 ⟨nofun, h.not_outside⟩,
    closing_notMem_cons hq h.not_closing .inside, ?_⟩
  rw [List.filter_cons_of_pos (by simp [escaping, hb]), List.map_cons, h.value]

theorem Inside.escaped {v : List Char} {ms : List (Reading × Char)} (h : Inside v ms) (c : Char) :
    Inside (c :: v) (escaping :: (.escaped, c) :: ms) := by
  refine ⟨List.forall_mem_cons.2 ⟨nofun, List.forall_mem_cons.2 ⟨nofun, h.not_outside⟩⟩,
    closing_notMem_escaped h.not_closing c, ?_⟩
  rw [List.filter_cons_of_neg (by simp), List.filter_cons_of_pos (by simp [escaping]),
    List.map_cons, h.value]

theorem Spells.inside {v s : List Char} (h : Spells v s) : Inside v (markFrom .inside s) := by
  induction h with
  | nil => exact ⟨by simp [markFrom], by simp [markFrom], rfl⟩
  | plain hq hb _ ih =>
    rw [markFrom, Reading.next, if_neg hq, if_neg hb]
    exact ih.plain hq hb
  | @escaped c v s _ ih => exact ih.escaped c

/-- A literal begins with the quote that opens it and ends with the one that closes it, and what
follows is outside again. -/
theorem Spells.marks_append {v s : List Char} (h : Spells v s) (cs : List Char) :
    marks ('"' :: (s ++ '"' :: cs)) =
      opening :: (markFrom .inside s ++ closing :: marks cs) := by
  unfold marks
  rw [markFrom, Reading.next, if_pos rfl, markFrom_append, h.foldl_next, markFrom, Reading.next,
    if_pos rfl]
  rfl

theorem marks_cons {c : Char} (h : c ≠ '"') (cs : List Char) :
    marks (c :: cs) = (.outside, c) :: marks cs := by
  unfold marks
  rw [markFrom, Reading.next, if_neg h]

/-- Nothing closes a literal whose closing quote is not found. -/
theorem closing_notMem_of_literal? {cs : List Char} (h : literal? cs = none) :
    closing ∉ markFrom .inside cs := by
  fun_induction literal? cs with
  | case1 => simp [markFrom]
  | case2 rest => cases h
  | case3 c rest ih => exact closing_notMem_escaped (ih (Option.map_eq_none_iff.1 h)) c
  | case4 c rest hq hb ih =>
    have hrest := ih (Option.map_eq_none_iff.1 h)
    apply closing_notMem_cons hq
    rw [Reading.next, if_neg hq]
    by_cases hc : c = '\\'
    · -- a backslash with something after it is the case before
      cases rest with
      | nil => simp [markFrom]
      | cons d rest => exact absurd rfl (hb d rest hc)
    · rwa [if_neg hc]

/-! ## What is refused -/

/-- A character that may stand outside of literals: a blank, a mark, a quote, or one that words are
made of. -/
def IsLegible (c : Char) : Prop :=
  isBlank c = true ∨ c ∈ ['=', '(', ')', ','] ∨ c = '"' ∨ isAlnum c = true ∨ c = '_'

/-- A literal is opened and not closed. -/
def LeavesOpen (ms : List (Reading × Char)) : Prop :=
  ∃ as bs, ms = as ++ opening :: bs ∧ closing ∉ bs

/-- Some character outside of literals begins no token, or a literal is not closed. -/
def IsIllegible (cs : List Char) : Prop :=
  (∃ c, (.outside, c) ∈ marks cs ∧ ¬IsLegible c) ∨ LeavesOpen (marks cs)

theorem punctuation?_isSome_iff {c : Char} :
    (punctuation? c).isSome = true ↔ c ∈ ['=', '(', ')', ','] := by
  unfold punctuation?
  split_ifs with heq hopen hclose hcomma <;> simp_all

theorem isLegible_of_punctuation? {c : Char} {k : TokenKind} (h : punctuation? c = some k) :
    IsLegible c :=
  .inr (.inl (punctuation?_isSome_iff.1 (by rw [h]; rfl)))

theorem isLegible_of_isWordChar {c : Char} (h : isWordChar c = true) : IsLegible c := by
  have hword : isAlnum c = true ∨ c = '_' := by simpa [isWordChar] using h
  exact .inr (.inr (.inr hword))

theorem not_isLegible {c : Char} (hb : isBlank c = false) (hk : punctuation? c = none)
    (hq : c ≠ '"') (hw : isWordChar c = false) : ¬IsLegible c := by
  rintro (hblank | hmark | hquote | hword)
  · rw [hb] at hblank
    cases hblank
  · rw [← punctuation?_isSome_iff, hk] at hmark
    cases hmark
  · exact hq hquote
  · have hsome : isWordChar c = true := by simpa [isWordChar] using hword
    rw [hw] at hsome
    cases hsome

/-! ### What a step leaves illegible -/

theorem leavesOpen_cons {m : Reading × Char} {ms : List (Reading × Char)} :
    LeavesOpen (m :: ms) ↔ (m = opening ∧ closing ∉ ms) ∨ LeavesOpen ms := by
  constructor
  · rintro ⟨as, bs, heq, hbs⟩
    cases as with
    | nil =>
      obtain ⟨rfl, rfl⟩ := List.cons.inj heq
      exact .inl ⟨rfl, hbs⟩
    | cons a as =>
      obtain ⟨rfl, rfl⟩ := List.cons.inj heq
      exact .inr ⟨as, bs, rfl, hbs⟩
  · rintro (⟨rfl, hms⟩ | ⟨as, bs, rfl, hbs⟩)
    · exact ⟨[], ms, rfl, hms⟩
    · exact ⟨m :: as, bs, rfl, hbs⟩

theorem leavesOpen_append {as ms : List (Reading × Char)} (h : ∀ m ∈ as, m.1 ≠ .outside) :
    LeavesOpen (as ++ ms) ↔ LeavesOpen ms := by
  induction as with
  | nil => rfl
  | cons m as ih =>
    obtain ⟨hm, has⟩ := List.forall_mem_cons.1 h
    rw [List.cons_append, leavesOpen_cons, ih has]
    exact or_iff_right fun hopening => hm (by rw [hopening.1]; rfl)

theorem not_isIllegible_nil : ¬IsIllegible [] := by
  rintro (⟨c, hc, -⟩ | ⟨as, bs, heq, -⟩)
  · simp [marks, markFrom] at hc
  · simp [marks, markFrom] at heq

/-- A character that may stand outside of literals leaves the rest to be told. -/
theorem isIllegible_cons {c : Char} (h : IsLegible c) (hq : c ≠ '"') (cs : List Char) :
    IsIllegible (c :: cs) ↔ IsIllegible cs := by
  have hopening : ((.outside, c) : Reading × Char) ≠ opening := by
    intro heq
    exact hq (congrArg Prod.snd heq)
  unfold IsIllegible
  rw [marks_cons hq, leavesOpen_cons]
  apply or_congr
  · constructor
    · rintro ⟨d, hd, hnot⟩
      rcases List.mem_cons.1 hd with heq | hd
      · obtain rfl : d = c := congrArg Prod.snd heq
        exact absurd h hnot
      · exact ⟨d, hd, hnot⟩
    · rintro ⟨d, hd, hnot⟩
      exact ⟨d, List.mem_cons_of_mem _ hd, hnot⟩
  · exact or_iff_right fun hleft => hopening hleft.1

theorem isIllegible_word {w : List Char} (h : ∀ c ∈ w, isWordChar c = true) (cs : List Char) :
    IsIllegible (w ++ cs) ↔ IsIllegible cs := by
  induction w with
  | nil => rfl
  | cons c w ih =>
    obtain ⟨hc, hw⟩ := List.forall_mem_cons.1 h
    have hq : c ≠ '"' := ne_of_isWordChar hc (by decide)
    rw [List.cons_append, isIllegible_cons (isLegible_of_isWordChar hc) hq, ih hw]

/-- So does a whole literal. -/
theorem isIllegible_literal {v s : List Char} (h : Spells v s) (cs : List Char) :
    IsIllegible ('"' :: (s ++ '"' :: cs)) ↔ IsIllegible cs := by
  have hclosed : closing ∈ markFrom .inside s ++ closing :: marks cs := by simp
  unfold IsIllegible
  rw [h.marks_append, leavesOpen_cons, leavesOpen_append h.inside.not_outside, leavesOpen_cons]
  apply or_congr
  · constructor
    · rintro ⟨c, hc, hnot⟩
      simp only [List.mem_cons, List.mem_append] at hc
      rcases hc with heq | hc | heq | hc
      · obtain rfl : c = '"' := congrArg Prod.snd heq
        exact absurd (.inr (.inr (.inl rfl))) hnot
      · exact absurd rfl (h.inside.not_outside _ hc)
      · cases heq
      · exact ⟨c, hc, hnot⟩
    · rintro ⟨c, hc, hnot⟩
      exact ⟨c, by simp [hc], hnot⟩
  · simp only [hclosed, not_true, and_false, false_or]
    exact or_iff_right fun hleft => absurd hleft.1 (by decide)

/-- The scan refuses exactly the illegible texts. -/
theorem tokensFrom_eq_error_iff {pos : Nat} {cs : List Char} :
    (∃ e, tokensFrom pos cs = .error e) ↔ IsIllegible cs := by
  have hmap : ∀ (t : Token) (x : Except Located (List Token)),
      (∃ e, x.map (t :: ·) = .error e) ↔ ∃ e, x = .error e := fun t x =>
    exists_congr fun e => map_eq_error_iff
  fun_induction tokensFrom pos cs with
  | case1 pos => exact iff_of_false (by simp) not_isIllegible_nil
  | case2 pos c rest hb ih =>
    have hq : c ≠ '"' := by
      rintro rfl
      exact absurd hb (by decide)
    exact ih.trans (isIllegible_cons (.inl hb) hq rest).symm
  | case3 pos c rest hb k hk ih =>
    have hq := ne_quote_of_punctuation? hk
    have hlegible := isLegible_of_punctuation? hk
    exact (hmap _ _).trans (ih.trans (isIllegible_cons hlegible hq rest).symm)
  | case4 pos rest hl =>
    refine iff_of_true ⟨_, rfl⟩ (.inr ?_)
    unfold marks
    rw [markFrom, leavesOpen_cons]
    exact .inl ⟨rfl, closing_notMem_of_literal? hl⟩
  | case5 pos rest l hl _ _ _ ih =>
    obtain ⟨s, hs, rfl⟩ := spells_of_literal? hl
    exact (hmap _ _).trans (ih.trans (isIllegible_literal hs l.rest).symm)
  | case6 pos c rest _ _ _ hc word _ =>
    rename_i ih
    have hword := (isWord_takeWhile hc rest).2
    rw [cons_eq_word_append]
    exact (hmap _ _).trans (ih.trans (isIllegible_word hword _).symm)
  | case7 pos c rest hb hk hq hc =>
    refine iff_of_true ⟨_, rfl⟩ (.inl ⟨c, ?_, ?_⟩)
    · rw [marks_cons hq]
      exact List.mem_cons_self
    · exact not_isLegible (by simpa using hb) hk hq (by simpa using hc)

end Bindery.Predicate
