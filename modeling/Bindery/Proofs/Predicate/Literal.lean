import Bindery.Attribute
import Bindery.Proofs.Emit
import Bindery.Proofs.Predicate.Meaning

/-!
# Literals in a text

What stands behind a literal is read as if it stood alone, further on.

1. An escaped value is read back from between its quotes, whatever it holds and whatever follows
   (`tokenize_escape`).
2. A value can stand between quotes as it is exactly when it holds neither a double quote nor a
   backslash (`parse_keyValue_iff`).
-/

namespace Bindery.Predicate

open Emit Text

/-! ## Texts further on -/

/-- The token of a text that stands `n` characters further on. -/
def Token.moved (n : Nat) (t : Token) : Token := { t with pos := t.pos + n }

/-- The refusal of a text that stands `n` characters further on. -/
def Located.moved (n : Nat) (e : Located) : Located := { e with pos := e.pos + n }

/-- What is read from a text that stands `n` characters further on. -/
def moved (n : Nat) : Except Located (List Token) → Except Located (List Token)
  | .ok ts => .ok (ts.map (Token.moved n))
  | .error e => .error (e.moved n)

theorem moved_map (n : Nat) (t : Token) (x : Except Located (List Token)) :
    moved n (x.map (t :: ·)) = (moved n x).map (t.moved n :: ·) := by
  cases x with
  | ok ts => rfl
  | error e => rfl

theorem tokensFrom_unterminated {cs : List Char} (h : literal? cs = none) (pos : Nat) :
    tokensFrom pos ('"' :: cs) = .error ⟨.unterminated, pos⟩ := by
  have hblank : isBlank '"' = false := by decide
  have hmark : punctuation? '"' = none := by decide
  rw [tokensFrom, if_neg (by simp [hblank])]
  simp only [hmark, if_true]
  split
  · rfl
  · simp_all

theorem tokensFrom_unexpected {c : Char} (hb : isBlank c = false) (hk : punctuation? c = none)
    (hq : c ≠ '"') (hw : isWordChar c = false) (pos : Nat) (cs : List Char) :
    tokensFrom pos (c :: cs) = .error ⟨.unexpected c, pos⟩ := by
  rw [tokensFrom, if_neg (by simp [hb])]
  simp only [hk]
  rw [if_neg hq, if_neg (by simp [hw])]

/-- A text is read alike wherever it stands. -/
theorem tokensFrom_add (n pos : Nat) (cs : List Char) :
    tokensFrom (pos + n) cs = moved n (tokensFrom pos cs) := by
  fun_induction tokensFrom pos cs with
  | case1 pos =>
    rw [tokensFrom]
    rfl
  | case2 pos c rest hb ih => rw [tokensFrom_blank hb, Nat.add_right_comm, ih]
  | case3 pos c rest hb k hk ih =>
    rw [tokensFrom_mark (by simpa using hb) hk, moved_map, ← ih, Nat.add_right_comm]
    rfl
  | case4 pos rest hl =>
    rw [tokensFrom_unterminated hl]
    rfl
  | case5 pos rest l hl _ _ _ ih =>
    rw [tokensFrom_literal hl, moved_map, ← ih]
    rw [show pos + n + 1 + l.width = pos + 1 + l.width + n by omega]
    rfl
  | case6 pos c rest _ _ _ hc word _ =>
    rename_i ih
    rw [tokensFrom_word hc, moved_map, ← ih]
    rw [show pos + n + (c :: rest.takeWhile isWordChar).length = pos + word.length + n from
      Nat.add_right_comm _ _ _]
    rfl
  | case7 pos c rest hb hk hq hc =>
    rw [tokensFrom_unexpected (by simpa using hb) hk hq (by simpa using hc)]
    rfl

/-! ## Escaped values -/

/-- The literal of an escaped value ends at its own closing quote. -/
theorem literal?_escape (s : String) (rest : List Char) :
    literal? ((escape s).toList ++ '"' :: rest) =
      some ⟨s.toList, (escape s).length + 1, rest⟩ := by
  rw [literal?_of_spells (spells_escape s), String.length_toList]

theorem tokenize_escape (s rest : String) :
    tokenize ("\"" ++ escape s ++ "\"" ++ rest) =
      (moved ((escape s).length + 2) (tokenize rest)).map (⟨.string, s, 0⟩ :: ·) := by
  have htext : ("\"" ++ escape s ++ "\"" ++ rest).toList =
      '"' :: ((escape s).toList ++ '"' :: rest.toList) := by simp
  have hwidth : 0 + 1 + ((escape s).length + 1) = 0 + ((escape s).length + 2) := by omega
  unfold tokenize
  rw [htext, tokensFrom_literal (literal?_escape s rest.toList), String.ofList_toList, hwidth,
    tokensFrom_add]

/-- A value can be told from the text that it is escaped to. -/
theorem escape_injective : Function.Injective escape := by
  intro s t h
  have hs := literal?_escape s []
  rw [h, literal?_escape t []] at hs
  obtain ⟨heq, -, -⟩ := Literal.mk.inj (Option.some.inj hs)
  exact (String.toList_inj.1 heq).symm

/-- The alias that documentation also finds a declaration under is the key of a predicate. -/
theorem parse_alias (name : String) :
    parse ("alias = \"" ++ escape name ++ "\"") = .ok (.keyValue "alias" name) := by
  have hsplit : "alias = \"" = "alias" ++ " = \"" := by decide
  have hword : IsWord "alias".toList := by decide
  rw [hsplit]
  exact parse_spelled hword (spells_escape name)

theorem prints_docAlias_string (name : String) (m : Margin) :
    Prints (docAlias (.string name) m) ()
      [m.text ++ "#[doc(" ++ ("alias = \"" ++ escape name ++ "\"") ++ ")]"] := by
  have hline : m.text ++ "#[doc(" ++ ("alias = \"" ++ escape name ++ "\"") ++ ")]" =
      m.text ++ "#[doc(alias = \"" ++ escape name ++ "\")]" := by
    rw [← String.toList_inj]
    simp
  rw [hline]
  exact .lift_bind rfl (prints_line _)

/-- What values are turned into is read back between double quotes. -/
structure ReadsBack (escape : String → String) : Prop where
  /-- It is one literal, and what follows is read as if it stood alone. -/
  tokens : ∀ s rest, tokenize ("\"" ++ escape s ++ "\"" ++ rest) =
    (moved ((escape s).length + 2) (tokenize rest)).map (⟨.string, s, 0⟩ :: ·)
  /-- The literal ends at its own quote. -/
  literal : ∀ s rest, literal? ((escape s).toList ++ '"' :: rest) =
    some ⟨s.toList, (escape s).length + 1, rest⟩
  injective : Function.Injective escape
  /-- The text of an alias is a predicate that holds the alias. -/
  alias_text : ∀ name m, Prints (docAlias (.string name) m) ()
      [m.text ++ "#[doc(" ++ ("alias = \"" ++ escape name ++ "\"") ++ ")]"] ∧
    parse ("alias = \"" ++ escape name ++ "\"") = .ok (.keyValue "alias" name)

/-- Values that are escaped are read back. -/
theorem escaped_read_back : ReadsBack escape where
  tokens := tokenize_escape
  literal := literal?_escape
  injective := escape_injective
  alias_text name m := ⟨prints_docAlias_string name m, parse_alias name⟩

/-! ## Values that are not escaped -/

/-- A spelling is as long as its value only where nothing is escaped. -/
theorem Spells.length_le {v s : List Char} (h : Spells v s) : v.length ≤ s.length := by
  induction h with
  | nil => exact Nat.le_refl 0
  | plain _ _ _ ih => exact Nat.succ_le_succ ih
  | escaped _ ih => exact Nat.le_succ_of_le (Nat.succ_le_succ ih)

theorem Spells.plain_of_length {v s : List Char} (h : Spells v s) (hlen : s.length ≤ v.length) :
    ∀ c ∈ s, c ≠ '"' ∧ c ≠ '\\' := by
  induction h with
  | nil => simp
  | plain hq hb _ ih =>
    have hrest := ih (Nat.le_of_succ_le_succ hlen)
    simpa using ⟨⟨hq, hb⟩, hrest⟩
  | escaped h _ =>
    have hle := h.length_le
    simp only [List.length_cons] at hlen
    omega

/-- A value that is read back from between double quotes as it stands needs no escape. -/
theorem plain_of_literal? {v rest : List Char} {n : Nat}
    (h : literal? (v ++ ['"']) = some ⟨v, n, rest⟩) : ∀ c ∈ v, c ≠ '"' ∧ c ≠ '\\' := by
  obtain ⟨s, hs, heq⟩ := spells_of_literal? h
  have hlen := congrArg List.length heq
  have hle : v.length ≤ s.length := hs.length_le
  simp only [List.length_append, List.length_cons, List.length_nil] at hlen
  have hsame : v.length = s.length := by omega
  obtain ⟨hv, -⟩ := List.append_inj heq hsame
  have hplain := hs.plain_of_length hsame.ge
  rwa [← hv] at hplain

/-- The literal behind a key. -/
theorem literal?_of_parse {k v s : String} (hk : IsWord k.toList)
    (h : parse (k ++ " = \"" ++ s ++ "\"") = .ok (.keyValue k v)) :
    ∃ n rest, literal? (s.toList ++ ['"']) = some ⟨v.toList, n, rest⟩ := by
  obtain ⟨ls, hls, hd⟩ := lexes_of_parse h
  obtain ⟨ts, hts, hmap⟩ := tokensFrom_of_lexes hls 0
  have htext : (k ++ " = \"" ++ s ++ "\"").toList =
      k.toList ++ ' ' :: '=' :: ' ' :: '"' :: (s.toList ++ ['"']) := by simp
  have hends : EndsWord (' ' :: '=' :: ' ' :: '"' :: (s.toList ++ ['"'])) :=
    endsWord_cons.2 (by decide)
  rw [htext, tokensFrom_isWord hk hends, tokensFrom_blank (by decide),
    tokensFrom_mark (k := .eq) (by decide) (by decide), tokensFrom_blank (by decide)] at hts
  obtain ⟨us, hus, rfl⟩ := map_eq_ok_iff.1 hts
  obtain ⟨vs, hvs, rfl⟩ := map_eq_ok_iff.1 hus
  cases hl : literal? (s.toList ++ ['"']) with
  | none =>
    rw [tokensFrom_unterminated hl] at hvs
    cases hvs
  | some l =>
    rw [tokensFrom_literal hl] at hvs
    obtain ⟨ws, -, rfl⟩ := map_eq_ok_iff.1 hvs
    cases hd
    -- the third lexeme is the value
    obtain ⟨-, hrest⟩ := List.cons.inj hmap
    obtain ⟨-, hrest⟩ := List.cons.inj hrest
    obtain ⟨hvalue, -⟩ := List.cons.inj hrest
    obtain rfl := (lexeme_eq_literal.1 hvalue).2
    exact ⟨l.width, l.rest, by rw [String.toList_ofList]⟩

/-- A value can stand between double quotes as it is exactly when it needs no escape. -/
theorem parse_keyValue_iff {k v : String} (hk : IsWord k.toList) :
    parse (k ++ " = \"" ++ v ++ "\"") = .ok (.keyValue k v) ↔
      ∀ c ∈ v.toList, c ≠ '"' ∧ c ≠ '\\' := by
  constructor
  · intro h
    obtain ⟨n, rest, hl⟩ := literal?_of_parse hk h
    exact plain_of_literal? hl
  · exact parse_keyValue hk

end Bindery.Predicate
