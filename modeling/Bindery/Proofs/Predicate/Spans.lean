import Bindery.Proofs.Predicate.Offsets
import Bindery.Proofs.Predicate.Quotation

/-!
# What tokens cover

A token stands at its offset and covers the characters that it is written with, so nothing of a text
is lost: what no token covers is blank.

1. Where a token is placed in a text, its span is what it is written with (`Placed.stop_eq`), and
   the token is read off that span (`Placed.slice`, `Placed.literal`).
2. The scan cuts a text into blanks and tokens that are placed in it (`cut_of_tokensFrom`). It
   begins each step outside of all literals and with no word going on (`Between`).
3. So spans do not overlap (`Cut.apart`), and only blanks are between them (`Cut.isBlank_of_gap`).
-/

namespace Bindery.Predicate

open Text

/-! ## Writings -/

/-- The characters that a token is written with. -/
inductive Written : Token → List Char → Prop
  | mark {c : Char} {k : TokenKind} (pos : Nat) : punctuation? c = some k →
    Written ⟨k, String.singleton c, pos⟩ [c]
  | literal {v s : List Char} (pos : Nat) : Spells v s →
    Written ⟨.string, String.ofList v, pos⟩ ('"' :: (s ++ ['"']))
  | word {w : List Char} (pos : Nat) : IsWord w → Written ⟨.ident, String.ofList w, pos⟩ w

/-- No word goes on from here to the left. -/
def StartsWord (cs : List Char) : Prop := ∀ c ∈ cs.getLast?, isWordChar c = false

theorem startsWord_concat {cs : List Char} {c : Char} (h : isWordChar c = false) :
    StartsWord (cs ++ [c]) := by
  intro d hd
  rw [List.getLast?_concat, Option.mem_def, Option.some.injEq] at hd
  rwa [← hd]

/-! ### How writings are read -/

section Written

variable {t : Token} {w : List Char}

theorem Written.length_pos (h : Written t w) : 0 < w.length := by
  cases h with
  | mark => exact Nat.one_pos
  | literal => exact Nat.zero_lt_succ _
  | word _ hw => exact List.length_pos_of_ne_nil hw.1

theorem ne_quote_of_isWord (h : IsWord w) : ∀ c ∈ w, c ≠ '"' :=
  fun c hc => ne_of_isWordChar (h.2 c hc) (by decide)

/-- Behind a token the text is outside of literals again. -/
theorem Written.foldl_next (h : Written t w) : w.foldl Reading.next .outside = .outside := by
  cases h with
  | mark _ hk => exact foldl_next_outside (by simpa using ne_quote_of_punctuation? hk)
  | @literal v s _ hs =>
    rw [List.foldl_cons, Reading.next, if_pos rfl, List.foldl_append, hs.foldl_next]
    rfl
  | word _ hw => exact foldl_next_outside (ne_quote_of_isWord hw)

theorem Written.marks_append (h : Written t w) (cs : List Char) :
    marks (w ++ cs) = marks w ++ marks cs := by
  unfold marks
  rw [markFrom_append, h.foldl_next]

/-- A token that is no literal is written as its text. -/
theorem Written.eq_text (h : Written t w) (hk : t.kind ≠ .string) : w = t.text.toList := by
  cases h with
  | mark => simp
  | literal => exact absurd rfl hk
  | word => simp

theorem Written.isWord (h : Written t w) (hk : t.kind = .ident) : IsWord t.text.toList := by
  cases h with
  | mark _ hmark => exact absurd hk (kind_of_punctuation? hmark).2.1
  | literal => cases hk
  | word _ hw => rwa [String.toList_ofList]

theorem Written.exists_mark (h : Written t w) (hstring : t.kind ≠ .string)
    (hident : t.kind ≠ .ident) :
    ∃ c, punctuation? c = some t.kind ∧ t.text = String.singleton c := by
  cases h with
  | mark _ hmark => exact ⟨_, hmark, rfl⟩
  | literal => exact absurd rfl hstring
  | word => exact absurd rfl hident

/-- No character of a token that is read as outside of literals is a blank. -/
theorem Written.not_isBlank (h : Written t w) {c : Char} (hc : (.outside, c) ∈ marks w) :
    isBlank c = false := by
  cases h with
  | mark _ hk =>
    rw [marks, markFrom_outside (by simpa using ne_quote_of_punctuation? hk)] at hc
    obtain rfl : c = _ := by simpa using hc
    exact isBlank_of_punctuation? hk
  | @literal v s _ hs =>
    rw [hs.marks_append []] at hc
    simp only [List.mem_cons, List.mem_append] at hc
    rcases hc with heq | hc | heq | hc
    · obtain rfl : c = '"' := congrArg Prod.snd heq
      decide
    · exact absurd rfl (hs.inside.not_outside _ hc)
    · cases heq
    · cases hc
  | word _ hw =>
    rw [marks, markFrom_outside (ne_quote_of_isWord hw)] at hc
    obtain ⟨d, hd, heq⟩ := List.mem_map.1 hc
    obtain rfl : d = c := congrArg Prod.snd heq
    exact isBlank_of_isWordChar (hw.2 d hd)

end Written

/-! ## Spans -/

/-- The offset behind the last character of a token. A literal ends with the first quote behind the
one that opens it that closes it. -/
def Token.stop (cs : List Char) (t : Token) : Nat :=
  if t.kind = .string then
    t.pos + 1 + ((marks cs).drop (t.pos + 1)).idxOf closing + 1
  else t.pos + t.text.length

/-- Whether a token of a text covers an offset. -/
def Token.Covers (cs : List Char) (t : Token) (i : Nat) : Prop := t.pos ≤ i ∧ i < t.stop cs

/-- A token stands in a text behind some characters and before others, outside of all literals, and
with no word going on at its ends if it is one. -/
structure Placed (cs : List Char) (t : Token) (front w back : List Char) : Prop where
  text : cs = front ++ (w ++ back)
  pos : t.pos = front.length
  written : Written t w
  word : t.kind = .ident → StartsWord front ∧ EndsWord back
  outside : front.foldl Reading.next .outside = .outside

namespace Placed

variable {cs front w back : List Char} {t : Token} (h : Placed cs t front w back)

include h

theorem drop : cs.drop t.pos = w ++ back := by
  rw [h.text, h.pos, List.drop_left]

theorem drop_marks : (marks cs).drop t.pos = marks w ++ marks back := by
  have hlength : (markFrom .outside front).length = t.pos := by rw [length_markFrom, h.pos]
  unfold marks
  rw [h.text, markFrom_append, h.outside, List.drop_left' hlength]
  exact h.written.marks_append back

theorem getElem?_marks (k : Nat) : (marks cs)[t.pos + k]? = (marks w ++ marks back)[k]? := by
  rw [← List.getElem?_drop, h.drop_marks]

/-- A literal is written with a spelling of its text between quotes. -/
theorem spelled (hk : t.kind = .string) : ∃ s, Spells t.text.toList s ∧ w = '"' :: (s ++ ['"']) ∧
    (marks cs).drop (t.pos + 1) = markFrom .inside s ++ closing :: marks back := by
  have hdrop := h.drop_marks
  cases h.written with
  | mark _ hmark => exact absurd hk (kind_of_punctuation? hmark).1
  | word => cases hk
  | @literal v s _ hs =>
    refine ⟨s, by rwa [String.toList_ofList], rfl, ?_⟩
    rw [hs.marks_append []] at hdrop
    rw [← List.drop_drop, hdrop]
    simp [marks, markFrom]

/-- The span of a token is what it is written with. -/
theorem stop_eq : t.stop cs = t.pos + w.length := by
  unfold Token.stop
  by_cases hk : t.kind = .string
  · obtain ⟨s, hs, rfl, hdrop⟩ := h.spelled hk
    rw [if_pos hk, hdrop, List.idxOf_append_of_notMem hs.inside.not_closing, List.idxOf_cons_self,
      length_markFrom]
    simp only [List.length_cons, List.length_append, List.length_nil]
    omega
  · rw [if_neg hk, h.written.eq_text hk, String.length_toList]

/-- A token that is no literal is read off its span. -/
theorem slice (hk : t.kind ≠ .string) : cs.extract t.pos (t.stop cs) = t.text.toList := by
  rw [h.stop_eq, List.extract_eq_take_drop, h.drop, Nat.add_sub_cancel_left, List.take_left,
    h.written.eq_text hk]

/-- Blanks within a token are in its literal. -/
theorem not_covers {i : Nat} {c : Char} (hi : (marks cs)[i]? = some (.outside, c))
    (hc : isBlank c = true) : ¬t.Covers cs i := by
  rintro ⟨hpos, hstop⟩
  obtain ⟨k, rfl⟩ := Nat.exists_eq_add_of_le hpos
  have hk : k < (marks w).length := by
    rw [marks, length_markFrom]
    have hstop := h.stop_eq ▸ hstop
    omega
  rw [h.getElem?_marks, List.getElem?_append_left hk] at hi
  rw [h.written.not_isBlank (List.mem_of_getElem? hi)] at hc
  cases hc

/-- A word goes on neither to the right nor to the left of its span. -/
theorem maximal (hk : t.kind = .ident) : (∀ c, cs[t.stop cs]? = some c → isWordChar c = false) ∧
    ∀ i c, i + 1 = t.pos → cs[i]? = some c → isWordChar c = false := by
  obtain ⟨hfront, hback⟩ := h.word hk
  constructor
  · intro c hc
    rw [h.stop_eq, ← List.getElem?_drop, h.drop,
      List.getElem?_append_right (Nat.le_refl _), Nat.sub_self, ← List.head?_eq_getElem?] at hc
    exact hback c hc
  · intro i c hi hc
    have hlast : i = front.length - 1 ∧ i < front.length := by
      rw [h.pos] at hi
      omega
    rw [h.text, List.getElem?_append_left hlast.2, hlast.1, ← List.getLast?_eq_getElem?] at hc
    exact hfront c hc

/-- A literal is read off the quotes that open and close it and what is between them. -/
theorem literal (hk : t.kind = .string) : ∃ q, t.pos < q ∧ t.stop cs = q + 1 ∧
    (marks cs)[t.pos]? = some opening ∧ (marks cs)[q]? = some closing ∧
    (∀ i, t.pos < i → i < q → (marks cs)[i]? ≠ some closing) ∧
    t.text.toList = (((marks cs).extract (t.pos + 1) q).filter (· ≠ escaping)).map Prod.snd := by
  obtain ⟨s, hs, rfl, hdrop⟩ := h.spelled hk
  have hinner : ∀ k, (marks cs)[t.pos + 1 + k]? =
      (markFrom .inside s ++ closing :: marks back)[k]? := by
    intro k
    rw [← List.getElem?_drop, hdrop]
  have hlength : (markFrom .inside s).length = s.length := length_markFrom .inside s
  refine ⟨t.pos + 1 + s.length, by omega, ?_, ?_, ?_, ?_, ?_⟩
  · rw [h.stop_eq]
    simp only [List.length_cons, List.length_append, List.length_nil]
    omega
  · have hfirst := h.getElem?_marks 0
    rw [hs.marks_append []] at hfirst
    simpa using hfirst
  · rw [hinner, List.getElem?_append_right (by omega), hlength, Nat.sub_self]
    rfl
  · intro i hpos hi hclosing
    obtain ⟨k, rfl⟩ := Nat.exists_eq_add_of_le (Nat.succ_le_of_lt hpos)
    rw [Nat.succ_eq_add_one, hinner, List.getElem?_append_left (by omega)] at hclosing
    exact hs.inside.not_closing (List.mem_of_getElem? hclosing)
  · rw [List.extract_eq_take_drop, hdrop, Nat.add_sub_cancel_left, ← hlength, List.take_left]
    exact hs.inside.value.symm

end Placed

/-! ## All tokens of a text -/

/-- Cuts a text into blanks and tokens, given what stands before it. -/
inductive Cut : List Char → List Char → List Token → Prop
  | ending {front : List Char} : Cut front [] [⟨.eof, "", front.length⟩]
  | blank {front cs : List Char} {c : Char} {ts : List Token} : isBlank c = true →
    Cut (front ++ [c]) cs ts → Cut front (c :: cs) ts
  | token {front w cs : List Char} {t : Token} {ts : List Token} :
    Placed (front ++ (w ++ cs)) t front w cs → Cut (front ++ w) cs ts →
    Cut front (w ++ cs) (t :: ts)

/-- A place outside of all literals in which no word goes on. -/
structure Between (front back : List Char) : Prop where
  outside : front.foldl Reading.next .outside = .outside
  word : StartsWord front ∨ EndsWord back

theorem Between.blank {front back : List Char} {c : Char} (h : Between front (c :: back))
    (hc : isBlank c = true) : Between (front ++ [c]) back := by
  have hq : c ≠ '"' := by
    rintro rfl
    exact absurd hc (by decide)
  refine ⟨?_, .inl (startsWord_concat (isWordChar_of_isBlank hc))⟩
  rw [List.foldl_append, h.outside]
  exact foldl_next_outside (by simpa using hq)

theorem Between.written {front cs back w : List Char} {t : Token} (h : Between front cs)
    (hw : Written t w) (hword : StartsWord (front ++ w) ∨ EndsWord back) :
    Between (front ++ w) back := by
  refine ⟨?_, hword⟩
  rw [List.foldl_append, h.outside, hw.foldl_next]

/-- What is read from a text cuts it. -/
theorem cut_of_tokensFrom {pos : Nat} {cs : List Char} {ts : List Token}
    (h : tokensFrom pos cs = .ok ts) (front : List Char) (hpos : pos = front.length)
    (hfront : Between front cs) : Cut front cs ts := by
  fun_induction tokensFrom pos cs generalizing ts front with
  | case1 pos =>
    cases h
    rw [hpos]
    exact .ending
  | case2 pos c rest hb ih => exact .blank hb (ih h _ (by simp [hpos]) (hfront.blank hb))
  | case3 pos c rest hb k hk ih =>
    obtain ⟨us, hus, rfl⟩ := map_eq_ok_iff.1 h
    have hw : Written ⟨k, String.singleton c, pos⟩ [c] := .mark pos hk
    have hnext : Between (front ++ [c]) rest :=
      hfront.written hw (.inl (startsWord_concat (isWordChar_of_punctuation? hk)))
    refine .token (w := [c]) ⟨rfl, hpos, hw, fun hident => ?_, hfront.outside⟩
      (ih hus _ (by simp [hpos]) hnext)
    exact absurd hident (kind_of_punctuation? hk).2.1
  | case4 => cases h
  | case5 pos rest l hl _ _ _ ih =>
    obtain ⟨us, hus, rfl⟩ := map_eq_ok_iff.1 h
    obtain ⟨s, hs, rfl⟩ := spells_of_literal? hl
    have hwidth : l.width = s.length + 1 :=
      congrArg Literal.width (Option.some.inj (hl.symm.trans (literal?_of_spells hs l.rest)))
    have hw : Written ⟨.string, String.ofList l.value, pos⟩ ('"' :: (s ++ ['"'])) :=
      .literal pos hs
    have hnext : Between (front ++ '"' :: (s ++ ['"'])) l.rest := by
      refine hfront.written hw (.inl ?_)
      rw [← List.cons_append, ← List.append_assoc]
      exact startsWord_concat (by decide)
    have hsplit : '"' :: (s ++ '"' :: l.rest) = '"' :: (s ++ ['"']) ++ l.rest := by simp
    rw [hsplit]
    refine .token ⟨rfl, hpos, hw, fun hident => ?_, hfront.outside⟩ (ih hus _ ?_ hnext)
    · cases hident
    simp only [List.length_append, List.length_cons, List.length_nil]
    omega
  | case6 pos c rest _ _ _ hc word _ =>
    rename_i ih
    obtain ⟨us, hus, rfl⟩ := map_eq_ok_iff.1 h
    have hw : Written ⟨.ident, String.ofList word, pos⟩ word := .word pos (isWord_takeWhile hc rest)
    have hends : EndsWord (rest.dropWhile isWordChar) := endsWord_dropWhile rest
    have hstarts : StartsWord front := hfront.word.resolve_right fun hback => by
      rw [endsWord_cons.1 hback] at hc
      cases hc
    rw [cons_eq_word_append]
    refine .token ⟨rfl, hpos, hw, fun _ => ⟨hstarts, hends⟩, hfront.outside⟩
      (ih hus _ ?_ (hfront.written hw (.inr hends)))
    rw [hpos, List.length_append]
  | case7 => cases h

namespace Cut

variable {front cs : List Char} {ts : List Token} (h : Cut front cs ts)

include h

theorem pos_le : ∀ t ∈ ts, front.length ≤ t.pos := by
  induction h with
  | ending => simp
  | blank _ _ ih =>
    intro t ht
    have hle := ih t ht
    rw [List.length_append] at hle
    omega
  | token hplaced _ ih =>
    refine List.forall_mem_cons.2 ⟨hplaced.pos.ge, fun t ht => ?_⟩
    have hle := ih t ht
    rw [List.length_append] at hle
    omega

/-- Each token but the last stands in the text. -/
theorem exists_placed : ∀ t ∈ ts, t.kind ≠ .eof →
    ∃ before w after, Placed (front ++ cs) t before w after := by
  induction h with
  | ending => simp
  | blank _ _ ih =>
    rw [List.append_cons]
    exact ih
  | @token front w cs t ts hplaced _ ih =>
    refine List.forall_mem_cons.2 ⟨fun _ => ⟨front, w, cs, hplaced⟩, ?_⟩
    rw [← List.append_assoc]
    exact ih

/-- Spans are not empty, and do not overlap. -/
theorem apart : ts.Pairwise fun t u =>
    t.pos < t.stop (front ++ cs) ∧ t.stop (front ++ cs) ≤ u.pos := by
  induction h with
  | ending => simp
  | blank _ _ ih =>
    rw [List.append_cons]
    exact ih
  | @token front w cs t ts hplaced hcut ih =>
    refine List.pairwise_cons.2 ⟨fun u hu => ?_, ?_⟩
    · have hle := hcut.pos_le u hu
      have hwritten := hplaced.written.length_pos
      rw [hplaced.stop_eq, hplaced.pos]
      rw [List.length_append] at hle
      omega
    · rw [← List.append_assoc]
      exact ih

/-- What no token covers is blank. -/
theorem isBlank_of_gap {i : Nat} {c : Char} (hi : front.length ≤ i)
    (hc : (front ++ cs)[i]? = some c) (hgap : ∀ t ∈ ts, ¬t.Covers (front ++ cs) i) :
    isBlank c = true := by
  induction h with
  | ending =>
    rw [List.append_nil, List.getElem?_eq_none hi] at hc
    cases hc
  | @blank front cs d ts hb _ ih =>
    by_cases hfirst : i = front.length
    · rw [hfirst, List.getElem?_append_right (Nat.le_refl _), Nat.sub_self] at hc
      obtain rfl := Option.some.inj hc
      exact hb
    · rw [List.append_cons] at hc hgap
      refine ih ?_ hc hgap
      rw [List.length_append, List.length_singleton]
      omega
  | @token front w cs t ts hplaced _ ih =>
    obtain ⟨hhead, htail⟩ := List.forall_mem_cons.1 hgap
    have hbehind : front.length + w.length ≤ i := by
      by_contra hlt
      refine hhead ⟨?_, ?_⟩
      · rw [hplaced.pos]
        exact hi
      · rw [hplaced.stop_eq, hplaced.pos]
        omega
    rw [← List.append_assoc] at hc htail
    exact ih (by rwa [List.length_append]) hc htail

end Cut

/-- How the tokens of a text account for all of its characters. -/
structure Accounts (cs : List Char) (ts : List Token) : Prop where
  ascending : ts.Pairwise fun t u => t.pos < u.pos
  apart : ts.Pairwise fun t u => t.stop cs ≤ u.pos
  /-- The last token is the only end, and stands behind the last character. -/
  ending : ∃ us, ts = us ++ [⟨.eof, "", cs.length⟩] ∧ ∀ u ∈ us, u.kind ≠ .eof
  /-- What no token covers is blank. -/
  gaps : ∀ i c, cs[i]? = some c → (∀ t ∈ ts, ¬t.Covers cs i) → isBlank c = true
  /-- No token covers a blank outside of literals. -/
  blanks : ∀ i c, (marks cs)[i]? = some (.outside, c) → isBlank c = true →
    ∀ t ∈ ts, ¬t.Covers cs i
  mark : ∀ t ∈ ts, t.kind ∈ [.eq, .lparen, .rparen, .comma] →
    cs.extract t.pos (t.stop cs) = t.text.toList ∧
      ∃ c, punctuation? c = some t.kind ∧ t.text = String.singleton c
  word : ∀ t ∈ ts, t.kind = .ident →
    cs.extract t.pos (t.stop cs) = t.text.toList ∧ IsWord t.text.toList ∧
      (∀ c, cs[t.stop cs]? = some c → isWordChar c = false) ∧
      ∀ i c, i + 1 = t.pos → cs[i]? = some c → isWordChar c = false
  /-- A literal ends at the first quote that closes it. Its text is what stands between the quotes,
  without the escaping backslashes. -/
  literal : ∀ t ∈ ts, t.kind = .string → ∃ q, t.pos < q ∧ t.stop cs = q + 1 ∧
    (marks cs)[t.pos]? = some opening ∧ (marks cs)[q]? = some closing ∧
    (∀ i, t.pos < i → i < q → (marks cs)[i]? ≠ some closing) ∧
    t.text.toList = (((marks cs).extract (t.pos + 1) q).filter (· ≠ escaping)).map Prod.snd

theorem not_covers_ending {stop i : Nat} (cs : List Char) :
    ¬Token.Covers cs ⟨.eof, "", stop⟩ i := by
  rintro ⟨hpos, hstop⟩
  have hempty : Token.stop cs ⟨.eof, "", stop⟩ = stop := rfl
  rw [hempty] at hstop
  exact absurd hpos (Nat.not_le_of_lt hstop)

theorem accounts_of_cut {cs : List Char} {ts : List Token} (h : Cut [] cs ts)
    (hends : EndsAt cs.length ts) : Accounts cs ts := by
  obtain ⟨us, rfl, hus⟩ := hends
  have hplaced : ∀ t ∈ us ++ [⟨.eof, "", cs.length⟩], t.kind ≠ .eof →
      ∃ before w after, Placed cs t before w after := h.exists_placed
  refine ⟨h.apart.imp fun hboth => hboth.1.trans_le hboth.2, h.apart.imp And.right,
    ⟨us, rfl, fun u hu => (hus u hu).1⟩, ?_, ?_, ?_, ?_, ?_⟩
  · intro i c hc hgap
    exact h.isBlank_of_gap (Nat.zero_le i) hc hgap
  · intro i c hi hc t ht
    rcases List.mem_append.1 ht with hmem | hlast
    · obtain ⟨before, w, after, hat⟩ := hplaced t ht (hus t hmem).1
      exact hat.not_covers hi hc
    · obtain rfl := List.mem_singleton.1 hlast
      exact not_covers_ending cs
  · intro t ht hk
    have hkind : t.kind ≠ .string ∧ t.kind ≠ .ident ∧ t.kind ≠ .eof := by
      refine ⟨?_, ?_, ?_⟩
      all_goals
        intro heq
        rw [heq] at hk
        exact absurd hk (by decide)
    obtain ⟨hstring, hident, heof⟩ := hkind
    obtain ⟨before, w, after, hat⟩ := hplaced t ht heof
    exact ⟨hat.slice hstring, hat.written.exists_mark hstring hident⟩
  · intro t ht hk
    obtain ⟨before, w, after, hat⟩ := hplaced t ht (by simp [hk])
    exact ⟨hat.slice (by simp [hk]), hat.written.isWord hk, hat.maximal hk⟩
  · intro t ht hk
    obtain ⟨before, w, after, hat⟩ := hplaced t ht (by simp [hk])
    exact hat.literal hk

/-- Whatever the text, its scan ends: with tokens that account for all of its characters, or with a
refusal. It is refused exactly when some character outside of literals is neither a blank, a mark or
a quote nor part of a word, or when a literal is not closed. -/
theorem tokens_account (text : String) :
    ((∃ ts, tokenize text = .ok ts ∧ Accounts text.toList ts) ∨
      ∃ e, tokenize text = .error e) ∧
    ((∃ e, tokenize text = .error e) ↔
      (∃ c, (.outside, c) ∈ marks text.toList ∧ ¬IsLegible c) ∨
        LeavesOpen (marks text.toList)) := by
  refine ⟨?_, tokensFrom_eq_error_iff⟩
  cases h : tokenize text with
  | error e => exact .inr ⟨e, rfl⟩
  | ok ts =>
    have hends := endsAt_of_tokensFrom h
    rw [Nat.zero_add] at hends
    have hstart : Between [] text.toList := ⟨rfl, .inl (by simp [StartsWord])⟩
    exact .inl ⟨ts, rfl, accounts_of_cut (cut_of_tokensFrom h [] rfl hstart) hends⟩

end Bindery.Predicate
