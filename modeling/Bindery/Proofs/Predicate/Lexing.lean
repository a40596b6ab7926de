import Bindery.Predicate.Token
import Bindery.Proofs.Result
import Bindery.Text.Escape
import Mathlib.Data.List.TakeWhile

/-!
# What a predicate is written with

A text is read as a row of lexemes with blanks around them. `Lexes` says which rows a text may be
read as without saying how the scan goes, and `tokenize` finds exactly that row.

1. A literal is spelled by any text whose quotes stand behind a backslash (`Spells`); the scan ends
   at the first quote that does not.
2. A word is as long as it can be, so texts may be put side by side unless a word would grow
   (`Lexes.append`).
3. Offsets play no part in this, so a row is kept when its text is moved.
-/

namespace Bindery.Predicate

open Text

/-! ## Literals -/

/-- The texts that stand for a value between double quotes. -/
inductive Spells : List Char → List Char → Prop
  | nil : Spells [] []
  | plain {c : Char} {v s : List Char} : c ≠ '"' → c ≠ '\\' → Spells v s → Spells (c :: v) (c :: s)
  | escaped {c : Char} {v s : List Char} : Spells v s → Spells (c :: v) ('\\' :: c :: s)

/-- An escaped value is one of its spellings. -/
theorem spells_escapeChars (v : List Char) : Spells v (escapeChars v) := by
  induction v with
  | nil => exact .nil
  | cons c v ih =>
    unfold escapeChars
    split_ifs with h
    · exact .escaped ih
    · simp only [Bool.or_eq_true, decide_eq_true_eq, not_or] at h
      exact .plain h.1 h.2 ih

theorem spells_escape (v : String) : Spells v.toList (escape v).toList := by
  unfold escape
  rw [String.toList_ofList]
  exact spells_escapeChars v.toList

/-- A value that needs no escape is one of its spellings too. -/
theorem spells_self {v : List Char} (h : ∀ c ∈ v, c ≠ '"' ∧ c ≠ '\\') : Spells v v := by
  induction v with
  | nil => exact .nil
  | cons c v ih =>
    obtain ⟨hq, hb⟩ := h c (by simp)
    exact .plain hq hb (ih fun d hd => h d (by simp [hd]))

/-- Whatever follows the closing quote, the scan stops there. -/
theorem literal?_of_spells {v s : List Char} (h : Spells v s) (rest : List Char) :
    literal? (s ++ '"' :: rest) = some ⟨v, s.length + 1, rest⟩ := by
  induction h with
  | nil => rfl
  | @plain c v s hq hb _ ih =>
    rw [List.cons_append, literal?]
    · rw [ih]; simp [Literal.cons, Nat.add_comm, Nat.add_left_comm]
    · exact hq
    · exact fun _ _ hc _ => hb hc
  | escaped _ ih =>
    rw [List.cons_append, List.cons_append, literal?, ih]
    simp [Literal.cons, Nat.add_comm, Nat.add_left_comm]

/-- What the scan takes is a spelling of the value it gives. -/
theorem spells_of_literal? {cs : List Char} {l : Literal} (h : literal? cs = some l) :
    ∃ s, Spells l.value s ∧ cs = s ++ '"' :: l.rest := by
  fun_induction literal? cs generalizing l with
  | case1 => simp at h
  | case2 rest => cases h; exact ⟨[], .nil, rfl⟩
  | case3 c rest ih =>
    obtain ⟨m, hm, rfl⟩ := Option.map_eq_some_iff.1 h
    obtain ⟨s, hs, rfl⟩ := ih hm
    exact ⟨'\\' :: c :: s, .escaped hs, rfl⟩
  | case4 c rest hq hb ih =>
    obtain ⟨m, hm, rfl⟩ := Option.map_eq_some_iff.1 h
    obtain ⟨s, hs, rfl⟩ := ih hm
    -- a backslash with something after it is the case before
    refine ⟨c :: s, .plain hq (fun hc => ?_) hs, rfl⟩
    cases s with
    | nil => exact hb '"' m.rest hc rfl
    | cons d s => exact hb d _ hc rfl

/-! ## Classes of characters -/

/-- The code points of the blanks. -/
def blankCodes : List Nat :=
  List.range' 0x09 5 ++ List.range' 0x1c 5 ++ [0x85, 0xa0, 0x1680] ++ List.range' 0x2000 11 ++
    [0x2028, 0x2029, 0x202f, 0x205f, 0x3000]

theorem mem_blankCodes {c : Char} (h : isBlank c = true) : c.toNat ∈ blankCodes := by
  simp only [isBlank, Bool.or_eq_true, Bool.and_eq_true, decide_eq_true_eq, beq_iff_eq] at h
  simp only [blankCodes, List.mem_append, List.mem_range'_1, List.mem_cons, List.not_mem_nil]
  omega

/-- A blank ends a word. -/
theorem isWordChar_of_isBlank {c : Char} (h : isBlank c = true) : isWordChar c = false := by
  have hmem := mem_blankCodes h
  have hascii : ∀ n ∈ blankCodes, n < 0x80 →
      (Char.ofNat n).isAlphanum = false := by decide
  have htable : ∀ n ∈ blankCodes, 0x80 ≤ n →
      (alnumTable.any fun r => r.1 ≤ n && n ≤ r.2) = false := by decide +kernel
  have hline : c ≠ '_' := by
    rintro rfl
    exact absurd h (by decide)
  have halnum : isAlnum c = false := by
    unfold isAlnum
    split_ifs with hc
    · simpa using hascii c.toNat hmem hc
    · exact htable c.toNat hmem (Nat.le_of_not_lt hc)
  simp [isWordChar, halnum, hline]

theorem isBlank_of_isWordChar {c : Char} (h : isWordChar c = true) : isBlank c = false := by
  by_contra hb
  have := isWordChar_of_isBlank (by simpa using hb)
  simp [h] at this

theorem ne_of_isWordChar {c d : Char} (h : isWordChar c = true) (hd : isWordChar d = false) :
    c ≠ d := by
  rintro rfl
  simp [h] at hd

theorem punctuation?_of_isWordChar {c : Char} (h : isWordChar c = true) :
    punctuation? c = none := by
  have heq := ne_of_isWordChar h (d := '=') (by decide)
  have hopen := ne_of_isWordChar h (d := '(') (by decide)
  have hclose := ne_of_isWordChar h (d := ')') (by decide)
  have hcomma := ne_of_isWordChar h (d := ',') (by decide)
  simp [punctuation?, heq, hopen, hclose, hcomma]

/-! ## Lexemes -/

/-- A token without its offset. -/
inductive Lexeme
  | word (name : String)
  | literal (value : String)
  | equals
  | opening
  | closing
  | comma
  | ending
deriving DecidableEq

namespace Lexeme

/-- The character that a mark is written as. -/
def sign? : Lexeme → Option Char
  | equals => some '='
  | opening => some '('
  | closing => some ')'
  | comma => some ','
  | _ => none

end Lexeme

/-- What a token is, wherever it stands. -/
def Token.lexeme (t : Token) : Lexeme :=
  match t.kind with
  | .ident => .word t.text
  | .string => .literal t.text
  | .eq => .equals
  | .lparen => .opening
  | .rparen => .closing
  | .comma => .comma
  | .eof => .ending

/-- Punctuation is a mark, and the only one of its sign. -/
theorem sign?_of_punctuation? {c : Char} {k : TokenKind} (h : punctuation? c = some k)
    (text : String) (pos : Nat) : (Token.mk k text pos).lexeme.sign? = some c := by
  unfold punctuation? at h
  split_ifs at h with h1 h2 h3 h4 <;> cases h
  · rw [h1]; rfl
  · rw [h2]; rfl
  · rw [h3]; rfl
  · rw [h4]; rfl

theorem punctuation?_of_sign? {l : Lexeme} {c : Char} (h : l.sign? = some c) :
    isBlank c = false ∧
      ∃ k, punctuation? c = some k ∧ ∀ text pos, (Token.mk k text pos).lexeme = l := by
  cases l with
  | equals => cases h; exact ⟨by decide, .eq, by decide, fun _ _ => rfl⟩
  | opening => cases h; exact ⟨by decide, .lparen, by decide, fun _ _ => rfl⟩
  | closing => cases h; exact ⟨by decide, .rparen, by decide, fun _ _ => rfl⟩
  | comma => cases h; exact ⟨by decide, .comma, by decide, fun _ _ => rfl⟩
  | word name => cases h
  | literal value => cases h
  | ending => cases h

/-! ### Marks -/

theorem kind_of_punctuation? {c : Char} {k : TokenKind} (h : punctuation? c = some k) :
    k ≠ .string ∧ k ≠ .ident ∧ k ≠ .eof := by
  unfold punctuation? at h
  split_ifs at h <;> cases h <;> decide

theorem ne_quote_of_punctuation? {c : Char} {k : TokenKind} (h : punctuation? c = some k) :
    c ≠ '"' := by
  rintro rfl
  cases h

theorem isWordChar_of_punctuation? {c : Char} {k : TokenKind} (h : punctuation? c = some k) :
    isWordChar c = false := by
  rw [Bool.eq_false_iff]
  intro hc
  rw [punctuation?_of_isWordChar hc] at h
  cases h

theorem isBlank_of_punctuation? {c : Char} {k : TokenKind} (h : punctuation? c = some k) :
    isBlank c = false := (punctuation?_of_sign? (sign?_of_punctuation? h "" 0)).1

/-! ### Words -/

/-- A run of characters that a word is made of. -/
def IsWord (w : List Char) : Prop := w ≠ [] ∧ ∀ c ∈ w, isWordChar c = true

instance (w : List Char) : Decidable (IsWord w) :=
  decidable_of_iff (w ≠ [] ∧ w.all isWordChar = true) (and_congr_right' List.all_eq_true)

/-- No word goes on here. -/
def EndsWord (cs : List Char) : Prop := ∀ c ∈ cs.head?, isWordChar c = false

@[simp] theorem endsWord_nil : EndsWord [] := by
  intro c hc
  simp at hc

@[simp] theorem endsWord_cons {c : Char} {cs : List Char} :
    EndsWord (c :: cs) ↔ isWordChar c = false := by
  simp [EndsWord]

/-- A word that is as long as it can be, and what follows it. -/
theorem cons_eq_word_append (c : Char) (cs : List Char) :
    c :: cs = (c :: cs.takeWhile isWordChar) ++ cs.dropWhile isWordChar := by
  rw [List.cons_append, List.takeWhile_append_dropWhile]

theorem isWord_takeWhile {c : Char} (h : isWordChar c = true) (cs : List Char) :
    IsWord (c :: cs.takeWhile isWordChar) :=
  ⟨by simp, List.forall_mem_cons.2 ⟨h, fun _ hd => List.mem_takeWhile_imp hd⟩⟩

theorem endsWord_dropWhile (cs : List Char) : EndsWord (cs.dropWhile isWordChar) := by
  intro d hd
  have hnot := List.head?_dropWhile_not isWordChar cs
  rwa [Option.mem_def.1 hd] at hnot

/-- The rows of lexemes that a text may be read as. -/
inductive Lexes : List Char → List Lexeme → Prop
  | nil : Lexes [] []
  | blank {c : Char} {cs : List Char} {ls : List Lexeme} :
      isBlank c = true → Lexes cs ls → Lexes (c :: cs) ls
  | mark {l : Lexeme} {c : Char} {cs : List Char} {ls : List Lexeme} :
      l.sign? = some c → Lexes cs ls → Lexes (c :: cs) (l :: ls)
  | literal {v s cs : List Char} {ls : List Lexeme} :
      Spells v s → Lexes cs ls → Lexes ('"' :: (s ++ '"' :: cs)) (.literal (String.ofList v) :: ls)
  | word {w cs : List Char} {ls : List Lexeme} :
      IsWord w → EndsWord cs → Lexes cs ls → Lexes (w ++ cs) (.word (String.ofList w) :: ls)

/-- Texts side by side are read one after the other, unless a word goes on in the second. -/
theorem Lexes.append {cs ds : List Char} {ls ms : List Lexeme} (h : Lexes cs ls)
    (h' : Lexes ds ms) (hd : EndsWord ds) : Lexes (cs ++ ds) (ls ++ ms) := by
  induction h with
  | nil => exact h'
  | blank hb _ ih => exact .blank hb ih
  | mark hs _ ih => exact .mark hs ih
  | @literal v s cs ls hs _ ih =>
    rw [List.cons_append, List.append_assoc, List.cons_append]
    exact .literal hs ih
  | @word w cs ls hw he _ ih =>
    rw [List.append_assoc]
    refine .word hw ?_ ih
    cases cs with
    | nil => exact hd
    | cons c cs => simpa using he

theorem lexes_blanks {ws cs : List Char} {ls : List Lexeme} (hw : ∀ c ∈ ws, isBlank c = true)
    (h : Lexes cs ls) : Lexes (ws ++ cs) ls := by
  induction ws with
  | nil => exact h
  | cons c ws ih =>
    exact .blank (hw c (by simp)) (ih fun d hd => hw d (by simp [hd]))

/-! ## The scan -/

theorem tokensFrom_blank {c : Char} (h : isBlank c = true) (pos : Nat) (cs : List Char) :
    tokensFrom pos (c :: cs) = tokensFrom (pos + 1) cs := by
  rw [tokensFrom, if_pos h]

theorem tokensFrom_mark {c : Char} {k : TokenKind} (hb : isBlank c = false)
    (hk : punctuation? c = some k) (pos : Nat) (cs : List Char) :
    tokensFrom pos (c :: cs) =
      (tokensFrom (pos + 1) cs).map (⟨k, String.singleton c, pos⟩ :: ·) := by
  rw [tokensFrom, if_neg (by simp [hb])]
  simp only [hk]

theorem tokensFrom_literal {cs : List Char} {l : Literal} (h : literal? cs = some l) (pos : Nat) :
    tokensFrom pos ('"' :: cs) =
      (tokensFrom (pos + 1 + l.width) l.rest).map (⟨.string, String.ofList l.value, pos⟩ :: ·) := by
  have hblank : isBlank '"' = false := by decide
  have hmark : punctuation? '"' = none := by decide
  rw [tokensFrom, if_neg (by simp [hblank])]
  simp only [hmark, if_true]
  split
  · simp_all
  · simp_all

theorem tokensFrom_word {c : Char} (h : isWordChar c = true) (pos : Nat) (cs : List Char) :
    tokensFrom pos (c :: cs) =
      (tokensFrom (pos + (c :: cs.takeWhile isWordChar).length) (cs.dropWhile isWordChar)).map
        (⟨.ident, String.ofList (c :: cs.takeWhile isWordChar), pos⟩ :: ·) := by
  have hquote : c ≠ '"' := ne_of_isWordChar h (by decide)
  rw [tokensFrom, if_neg (by simp [isBlank_of_isWordChar h])]
  simp only [punctuation?_of_isWordChar h]
  rw [if_neg hquote, if_pos h]

/-- A word and what ends it are told apart by the scan. -/
theorem tokensFrom_isWord {w cs : List Char} (hw : IsWord w) (he : EndsWord cs) (pos : Nat) :
    tokensFrom pos (w ++ cs) =
      (tokensFrom (pos + w.length) cs).map (⟨.ident, String.ofList w, pos⟩ :: ·) := by
  obtain ⟨hne, hall⟩ := hw
  cases w with
  | nil => exact absurd rfl hne
  | cons c w =>
    have hw : ∀ d ∈ w, isWordChar d = true := fun d hd => hall d (by simp [hd])
    have htake : (w ++ cs).takeWhile isWordChar = w := by
      rw [List.takeWhile_append_of_pos hw]
      cases cs with
      | nil => simp
      | cons d cs => simp [endsWord_cons.1 he]
    have hdrop : (w ++ cs).dropWhile isWordChar = cs := by
      rw [List.dropWhile_append_of_pos hw]
      cases cs with
      | nil => simp
      | cons d cs => simp [endsWord_cons.1 he]
    rw [List.cons_append, tokensFrom_word (hall c (by simp)), htake, hdrop]

/-- A row that a text may be read as is read from it, wherever the text stands. -/
theorem tokensFrom_of_lexes {cs : List Char} {ls : List Lexeme} (h : Lexes cs ls) (pos : Nat) :
    ∃ ts, tokensFrom pos cs = .ok ts ∧ ts.map Token.lexeme = ls ++ [.ending] := by
  induction h generalizing pos with
  | nil => exact ⟨[⟨.eof, "", pos⟩], by rw [tokensFrom], rfl⟩
  | blank hb _ ih =>
    rw [tokensFrom_blank hb]
    exact ih (pos + 1)
  | @mark l c cs ls hs _ ih =>
    obtain ⟨hb, k, hk, hl⟩ := punctuation?_of_sign? hs
    obtain ⟨ts, hts, hmap⟩ := ih (pos + 1)
    refine ⟨⟨k, String.singleton c, pos⟩ :: ts, ?_, ?_⟩
    · rw [tokensFrom_mark hb hk, hts]; rfl
    · rw [List.map_cons, hl, hmap]; rfl
  | @literal v s cs ls hs _ ih =>
    obtain ⟨ts, hts, hmap⟩ := ih (pos + 1 + (s.length + 1))
    refine ⟨⟨.string, String.ofList v, pos⟩ :: ts, ?_, ?_⟩
    · rw [tokensFrom_literal (literal?_of_spells hs cs), hts]; rfl
    · rw [List.map_cons, hmap]; rfl
  | @word w cs ls hw he _ ih =>
    obtain ⟨ts, hts, hmap⟩ := ih (pos + w.length)
    refine ⟨⟨.ident, String.ofList w, pos⟩ :: ts, ?_, ?_⟩
    · rw [tokensFrom_isWord hw he, hts]; rfl
    · rw [List.map_cons, hmap]; rfl

/-- What is read from a text is a row that it may be read as, with the end after it. -/
theorem lexes_of_tokensFrom {pos : Nat} {cs : List Char} {ts : List Token}
    (h : tokensFrom pos cs = .ok ts) :
    ∃ ls, Lexes cs ls ∧ ts.map Token.lexeme = ls ++ [.ending] := by
  fun_induction tokensFrom pos cs generalizing ts with
  | case1 pos => cases h; exact ⟨[], .nil, rfl⟩
  | case2 pos c rest hb ih =>
    obtain ⟨ls, hls, hmap⟩ := ih h
    exact ⟨ls, .blank hb hls, hmap⟩
  | case3 pos c rest hb k hk ih =>
    obtain ⟨us, hus, rfl⟩ := map_eq_ok_iff.1 h
    obtain ⟨ls, hls, hmap⟩ := ih hus
    exact ⟨_, .mark (sign?_of_punctuation? hk _ _) hls, by rw [List.map_cons, hmap]; rfl⟩
  | case4 => cases h
  | case5 pos rest l hl _ _ _ ih =>
    obtain ⟨us, hus, rfl⟩ := map_eq_ok_iff.1 h
    obtain ⟨ls, hls, hmap⟩ := ih hus
    obtain ⟨s, hs, rfl⟩ := spells_of_literal? hl
    exact ⟨_, .literal hs hls, by rw [List.map_cons, hmap]; rfl⟩
  | case6 pos c rest _ _ _ hc word _ =>
    rename_i ih
    obtain ⟨us, hus, rfl⟩ := map_eq_ok_iff.1 h
    obtain ⟨ls, hls, hmap⟩ := ih hus
    rw [cons_eq_word_append]
    exact ⟨_, .word (isWord_takeWhile hc rest) (endsWord_dropWhile rest) hls,
      by rw [List.map_cons, hmap]; rfl⟩
  | case7 => cases h

end Bindery.Predicate
