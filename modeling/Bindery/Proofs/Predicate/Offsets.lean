import Bindery.Proofs.Predicate.Lexing

/-!
# Where tokens stand

Each token of a text begins inside it, except for the end token, which stands behind the last
character. What the scan refuses, it refuses inside the text.
-/

namespace Bindery.Predicate

open Text

/-- The last token is the end, at `stop`, and all others come before it. -/
def EndsAt (stop : Nat) (ts : List Token) : Prop :=
  ∃ us, ts = us ++ [⟨.eof, "", stop⟩] ∧ ∀ u ∈ us, u.kind ≠ .eof ∧ u.pos < stop

theorem EndsAt.cons {stop : Nat} {t : Token} {ts : List Token} (h : EndsAt stop ts)
    (hkind : t.kind ≠ .eof) (hpos : t.pos < stop) : EndsAt stop (t :: ts) := by
  obtain ⟨us, rfl, hus⟩ := h
  exact ⟨t :: us, rfl, by simpa using ⟨⟨hkind, hpos⟩, hus⟩⟩

theorem EndsAt.pos_le {stop : Nat} {ts : List Token} (h : EndsAt stop ts) :
    ∀ t ∈ ts, t.pos ≤ stop := by
  obtain ⟨us, rfl, hus⟩ := h
  intro t ht
  rcases List.mem_append.1 ht with ht | ht
  · exact Nat.le_of_lt (hus t ht).2
  · obtain rfl := List.mem_singleton.1 ht
    exact Nat.le_refl stop

/-- A word and what follows it make up the text that it begins. -/
theorem length_word (c : Char) (cs : List Char) :
    (c :: cs.takeWhile isWordChar).length + (cs.dropWhile isWordChar).length =
      (c :: cs).length := by
  rw [← List.length_append, ← cons_eq_word_append]

theorem endsAt_of_tokensFrom {pos : Nat} {cs : List Char} {ts : List Token}
    (h : tokensFrom pos cs = .ok ts) : EndsAt (pos + cs.length) ts := by
  fun_induction tokensFrom pos cs generalizing ts with
  | case1 pos => cases h; exact ⟨[], rfl, by simp⟩
  | case2 pos c rest hb ih =>
    rw [List.length_cons, show pos + (rest.length + 1) = pos + 1 + rest.length by omega]
    exact ih h
  | case3 pos c rest hb k hk ih =>
    obtain ⟨us, hus, rfl⟩ := map_eq_ok_iff.1 h
    rw [List.length_cons, show pos + (rest.length + 1) = pos + 1 + rest.length by omega]
    refine (ih hus).cons (kind_of_punctuation? hk).2.2 ?_
    show pos < pos + 1 + rest.length
    omega
  | case4 => cases h
  | case5 pos rest l hl _ _ _ ih =>
    obtain ⟨us, hus, rfl⟩ := map_eq_ok_iff.1 h
    have hlength := literal?_length hl
    rw [List.length_cons,
      show pos + (rest.length + 1) = pos + 1 + l.width + l.rest.length by omega]
    refine (ih hus).cons (by simp) ?_
    show pos < pos + 1 + l.width + l.rest.length
    omega
  | case6 pos c rest _ _ _ hc word _ =>
    rename_i ih
    obtain ⟨us, hus, rfl⟩ := map_eq_ok_iff.1 h
    have hword : 0 < word.length := Nat.zero_lt_succ _
    rw [← length_word, ← Nat.add_assoc]
    refine (ih hus).cons (by simp) ?_
    show pos < pos + word.length + _
    omega
  | case7 => cases h

theorem pos_lt_of_tokensFrom {pos : Nat} {cs : List Char} {e : Located}
    (h : tokensFrom pos cs = .error e) : e.pos < pos + cs.length := by
  fun_induction tokensFrom pos cs with
  | case1 pos => cases h
  | case2 pos c rest hb ih =>
    have hrest := ih h
    rw [List.length_cons]
    omega
  | case3 pos c rest hb k hk ih =>
    have hrest := ih (map_eq_error_iff.1 h)
    rw [List.length_cons]
    omega
  | case4 pos rest =>
    cases h
    show pos < pos + _
    rw [List.length_cons]
    omega
  | case5 pos rest l hl _ _ _ ih =>
    have hrest := ih (map_eq_error_iff.1 h)
    have hlength := literal?_length hl
    rw [List.length_cons]
    omega
  | case6 pos c rest _ _ _ hc word _ =>
    rename_i ih
    have hrest := ih (map_eq_error_iff.1 h)
    rwa [← length_word, ← Nat.add_assoc]
  | case7 pos c rest =>
    cases h
    show pos < pos + _
    rw [List.length_cons]
    omega

/-- A text is cut into tokens that end behind its last character, or refused at one of its
characters. -/
theorem tokenize_located (text : String) :
    (∃ ts, tokenize text = .ok ts ∧ EndsAt text.length ts) ∨
      ∃ e, tokenize text = .error e ∧ e.pos < text.length := by
  have hlength : 0 + text.toList.length = text.length := by
    rw [Nat.zero_add, String.length_toList]
  cases h : tokenize text with
  | ok ts => exact .inl ⟨ts, rfl, hlength ▸ endsAt_of_tokensFrom h⟩
  | error e => exact .inr ⟨e, rfl, hlength ▸ pos_lt_of_tokensFrom h⟩

end Bindery.Predicate
