import Bindery.Proofs.Predicate.Grammar
import Bindery.Proofs.Predicate.Offsets

/-!
# Which texts are predicates

`parse` gives a tree for exactly the texts whose tokens the grammar derives, and refuses every
other text. A tree is read back from each of its printed forms, however blanks and trailing commas
are set.
-/

namespace Bindery.Predicate

open Text

/-! ## Reading a text -/

/-- Rows of tokens that stand for a predicate: the end token comes last, and a derived row before
it. -/
def DerivesText (ts : List Token) (p : Predicate) : Prop :=
  ∃ us e, ts = us ++ [e] ∧ e.kind = .eof ∧ Derives (us.map Token.lexeme) p

theorem Lexes.ending_notMem {cs : List Char} {ls : List Lexeme} (h : Lexes cs ls) :
    .ending ∉ ls := by
  induction h with
  | nil => simp
  | blank _ _ ih => exact ih
  | @mark l c cs ls hs _ ih =>
    have hl : l ≠ .ending := by
      rintro rfl
      cases hs
    simp [ih, hl.symm]
  | literal _ _ ih => simp [ih]
  | word _ _ _ ih => simp [ih]

/-- The tokens of a text end in the end token and hold no other. -/
theorem tokenize_split {text : String} {ts : List Token} (h : tokenize text = .ok ts) :
    ∃ us e, ts = us ++ [e] ∧ e.kind = .eof ∧ Lexes text.toList (us.map Token.lexeme) := by
  obtain ⟨ls, hls, hmap⟩ := lexes_of_tokensFrom h
  obtain ⟨us, es, rfl, hus, hes⟩ := List.map_eq_append_iff.1 hmap
  obtain ⟨e, es, rfl, he, hnil⟩ := List.map_eq_cons_iff.1 hes
  obtain rfl := List.map_eq_nil_iff.1 hnil
  exact ⟨us, e, rfl, lexeme_eq_ending.1 he, hus ▸ hls⟩

/-- The first end token of a row parts it in one way only. -/
theorem append_ending_inj {us vs rest : List Token} {e t : Token}
    (hus : Lexeme.ending ∉ us.map Token.lexeme) (he : e.kind = .eof)
    (hvs : Lexeme.ending ∉ vs.map Token.lexeme) (ht : t.kind = .eof)
    (h : us ++ [e] = vs ++ t :: rest) : us = vs ∧ rest = [] := by
  induction us generalizing vs with
  | nil =>
    cases vs with
    | nil => exact ⟨rfl, (List.cons.inj h).2.symm⟩
    | cons v vs =>
      obtain ⟨rfl, -⟩ := List.cons.inj h
      exact absurd (by simp [lexeme_eq_ending.2 he]) hvs
  | cons u us ih =>
    cases vs with
    | nil =>
      obtain ⟨rfl, -⟩ := List.cons.inj h
      exact absurd (by simp [lexeme_eq_ending.2 ht]) hus
    | cons v vs =>
      obtain ⟨rfl, htail⟩ := List.cons.inj h
      simp only [List.map_cons, List.mem_cons, not_or] at hus hvs
      obtain ⟨rfl, hnil⟩ := ih hus.2 hvs.2 htail
      exact ⟨rfl, hnil⟩

/-- A text with a derived row is parsed. -/
theorem parse_of_lexes {text : String} {ls : List Lexeme} {p : Predicate}
    (h : Lexes text.toList ls) (hp : Derives ls p) : parse text = .ok p := by
  obtain ⟨ts, hts, hmap⟩ := tokensFrom_of_lexes h 0
  obtain ⟨us, e, rfl, he, hus⟩ := tokenize_split hts
  have hls : us.map Token.lexeme = ls := by
    rw [List.map_append, List.map_cons, List.map_nil, lexeme_eq_ending.2 he] at hmap
    exact List.append_cancel_right hmap
  have hends : EndsName [e] := endsName_cons.2 (by simp [he])
  obtain ⟨hlt, htake⟩ := parsePredicate_of_derives hp hls hends
  unfold parse tokenize
  simp only [hts, htake, he, if_true]

/-- A parsed text has a derived row. -/
theorem lexes_of_parse {text : String} {p : Predicate} (h : parse text = .ok p) :
    ∃ ls, Lexes text.toList ls ∧ Derives ls p := by
  unfold parse at h
  cases hts : tokenize text with
  | error e => simp only [hts] at h; cases h
  | ok ts =>
    obtain ⟨us, e, rfl, he, hlex⟩ := tokenize_split hts
    simp only [hts] at h
    cases hp : parsePredicate (us ++ [e]) with
    | error f => simp only [hp] at h; cases h
    | ok st =>
      obtain ⟨vs, hvs, hd⟩ := derives_of_parsePredicate hp
      obtain ⟨q, rest, hlt⟩ := st
      cases rest with
      | nil => simp only [hp] at h; cases h
      | cons t rest =>
        simp only [hp] at h
        by_cases ht : t.kind = .eof
        · simp only [if_pos ht] at h
          cases h
          obtain ⟨rfl, -⟩ := append_ending_inj hlex.ending_notMem he (ending_notMem hd) ht hvs
          exact ⟨_, hlex, hd⟩
        · simp only [if_neg ht] at h
          cases h

/-- A text is parsed or refused at one of its offsets, the end included. -/
theorem located_of_parse {text : String} {f : Failure} (h : parse text = .error f) :
    ∃ e, f = .refused e ∧ e.pos ≤ text.length := by
  unfold parse at h
  rcases tokenize_located text with ⟨ts, hts, hends⟩ | ⟨e, he, hlt⟩
  · have hat : ∀ {g : Failure}, RefusedAt ts g → ∃ e, g = .refused e ∧ e.pos ≤ text.length := by
      rintro g ⟨t, ht, r, rfl⟩
      exact ⟨_, rfl, hends.pos_le t ht⟩
    obtain ⟨us, rfl, -⟩ := hends
    have hclosed : Closed (us ++ [⟨.eof, "", text.length⟩]) := ⟨us, _, rfl, rfl⟩
    simp only [hts] at h
    cases hp : parsePredicate (us ++ [⟨.eof, "", text.length⟩]) with
    | error g =>
      simp only [hp] at h
      cases h
      exact hat (refused_of_parsePredicate hclosed hp)
    | ok st =>
      have hrest := hclosed.rest hp
      have hsub := subset_of_parsePredicate hp
      obtain ⟨q, rest, hlt⟩ := st
      cases rest with
      | nil => exact absurd hrest not_closed_nil
      | cons t rest =>
        simp only [hp] at h
        by_cases ht : t.kind = .eof
        · simp only [if_pos ht] at h
          cases h
        · simp only [if_neg ht] at h
          cases h
          exact hat ⟨t, hsub (by simp), _, rfl⟩
  · simp only [he] at h
    cases h
    exact ⟨e, rfl, Nat.le_of_lt hlt⟩

theorem refused_of_parse {text : String} {f : Failure} (h : parse text = .error f) :
    ∃ e, f = .refused e := by
  obtain ⟨e, he, -⟩ := located_of_parse h
  exact ⟨e, he⟩

/-! ## Printed trees -/

mutual

/-- Trees that a text can stand for: words for names and keys, one of the three operators, and a
single argument under a negation. -/
def WellFormed : Predicate → Prop
  | .name n => IsWord n.toList
  | .keyValue k _ => IsWord k.toList
  | .call op ps => op ∈ ["any", "all", "not"] ∧ (op = "not" → ps.length = 1) ∧ AllWellFormed ps
  | .unknown => False

/-- The same of each of several trees. -/
def AllWellFormed : List Predicate → Prop
  | [] => True
  | p :: ps => WellFormed p ∧ AllWellFormed ps

end

/-- Any number of blanks. -/
def IsGap (ws : List Char) : Prop := ∀ c ∈ ws, isBlank c = true

mutual

/-- The printed forms of a tree, with a gap before each of its tokens and values escaped. -/
inductive Printed : Predicate → List Char → Prop
  | name {n : String} {ws : List Char} : IsGap ws → Printed (.name n) (ws ++ n.toList)
  | keyValue {k v : String} {ws us vs : List Char} : IsGap ws → IsGap us → IsGap vs →
      Printed (.keyValue k v)
        (ws ++ (k.toList ++ (us ++ '=' :: (vs ++ '"' :: ((escape v).toList ++ ['"'])))))
  | call {op : String} {ps : List Predicate} {cs ws us vs : List Char} :
      IsGap ws → IsGap us → IsGap vs → PrintedAll ps cs →
        Printed (.call op ps) (ws ++ (op.toList ++ (us ++ '(' :: (cs ++ (vs ++ [')'])))))

/-- The printed forms of several trees, with commas between them and perhaps one behind the last. -/
inductive PrintedAll : List Predicate → List Char → Prop
  | nil : PrintedAll [] []
  | last {p : Predicate} {cs : List Char} : Printed p cs → PrintedAll [p] cs
  | cons {p : Predicate} {ps : List Predicate} {cs ds ws : List Char} :
      Printed p cs → IsGap ws → PrintedAll ps ds → PrintedAll (p :: ps) (cs ++ (ws ++ ',' :: ds))

end

theorem IsGap.endsWord {ws cs : List Char} (h : IsGap ws) (hcs : EndsWord cs) :
    EndsWord (ws ++ cs) := by
  cases ws with
  | nil => exact hcs
  | cons c ws => simpa using isWordChar_of_isBlank (h c (by simp))

theorem lexes_gap {ws : List Char} (h : IsGap ws) : Lexes ws [] := by
  simpa using lexes_blanks h .nil

/-- A mark behind a gap. -/
theorem IsGap.lexes_mark {ws cs : List Char} {ls : List Lexeme} {l : Lexeme} {c : Char}
    (h : IsGap ws) (hl : l.sign? = some c) (hcs : Lexes cs ls) :
    Lexes (ws ++ c :: cs) (l :: ls) :=
  lexes_blanks h (.mark hl hcs)

theorem IsGap.lexes_word {ws cs : List Char} {ls : List Lexeme} {n : String} (h : IsGap ws)
    (hn : IsWord n.toList) (hend : EndsWord cs) (hcs : Lexes cs ls) :
    Lexes (ws ++ (n.toList ++ cs)) (.word n :: ls) := by
  have := Lexes.word hn hend hcs
  rw [String.ofList_toList] at this
  exact lexes_blanks h this

theorem IsGap.lexes_literal {ws cs : List Char} {ls : List Lexeme} {v : String} (h : IsGap ws)
    (hcs : Lexes cs ls) :
    Lexes (ws ++ '"' :: ((escape v).toList ++ '"' :: cs)) (.literal v :: ls) := by
  have := Lexes.literal (spells_escape v) hcs
  rw [String.ofList_toList] at this
  exact lexes_blanks h this

theorem isWord_operator {op : String} (h : op ∈ ["any", "all", "not"]) : IsWord op.toList := by
  simp only [List.mem_cons, List.not_mem_nil, or_false] at h
  rcases h with rfl | rfl | rfl <;> decide

mutual

/-- Every printed form of a tree is read as a row that is derived. -/
theorem lexes_of_printed {p : Predicate} (hp : WellFormed p) : {cs : List Char} → Printed p cs →
    ∃ ls, Lexes cs ls ∧ Derives ls p
  | _, .name hws => by
    refine ⟨_, ?_, .name _⟩
    simpa using hws.lexes_word hp endsWord_nil .nil
  | _, .keyValue hws hus hvs =>
    ⟨_, hws.lexes_word hp (hus.endsWord (by simp; decide))
      (hus.lexes_mark (l := .equals) rfl (hvs.lexes_literal .nil)), .keyValue _ _⟩
  | _, .call hws hus hvs hargs => by
    obtain ⟨hop, hnot, hall⟩ := hp
    obtain ⟨ls, hls, hd⟩ := lexes_of_printedAll hall hargs
    refine ⟨_, ?_, .call hop hd hnot⟩
    refine hws.lexes_word (isWord_operator hop) (hus.endsWord (by simp; decide)) ?_
    refine hus.lexes_mark (l := .opening) rfl (hls.append ?_ (hvs.endsWord (by simp; decide)))
    exact hvs.lexes_mark (l := .closing) rfl .nil

theorem lexes_of_printedAll {ps : List Predicate} (hps : AllWellFormed ps) : {cs : List Char} →
    PrintedAll ps cs → ∃ ls, Lexes cs ls ∧ DerivesAll ls ps
  | _, .nil => ⟨[], .nil, .nil⟩
  | _, .last hp => by
    obtain ⟨ls, hls, hd⟩ := lexes_of_printed hps.1 hp
    exact ⟨ls, hls, .last hd⟩
  | _, .cons hp hws hrest => by
    obtain ⟨ls, hls, hd⟩ := lexes_of_printed hps.1 hp
    obtain ⟨ms, hms, hds⟩ := lexes_of_printedAll hps.2 hrest
    refine ⟨_, hls.append ?_ (hws.endsWord (by simp; decide)), .cons hd hds⟩
    exact hws.lexes_mark (l := .comma) rfl hms

end

/-! ## Exactness -/

theorem parse_eq_ok_iff {text : String} {p : Predicate} :
    parse text = .ok p ↔ ∃ ts, tokenize text = .ok ts ∧ DerivesText ts p := by
  constructor
  · intro h
    obtain ⟨ls, hls, hd⟩ := lexes_of_parse h
    obtain ⟨ts, hts, hmap⟩ := tokensFrom_of_lexes hls 0
    obtain ⟨us, e, rfl, he, -⟩ := tokenize_split hts
    rw [List.map_append, List.map_cons, List.map_nil, lexeme_eq_ending.2 he] at hmap
    exact ⟨_, hts, us, e, rfl, he, List.append_cancel_right hmap ▸ hd⟩
  · rintro ⟨ts, hts, us, e, rfl, he, hd⟩
    obtain ⟨vs, e', hsplit, -, hlex⟩ := tokenize_split hts
    obtain ⟨rfl, -⟩ := List.append_inj' hsplit rfl
    exact parse_of_lexes hlex hd

/-- A reader of texts is exact for the grammar. -/
structure IsExact (read : String → Except Failure Predicate) : Prop where
  /-- A text is read when its tokens are derived. -/
  ok_iff : ∀ text p, read text = .ok p ↔ ∃ ts, tokenize text = .ok ts ∧ DerivesText ts p
  /-- It is refused otherwise. -/
  refused : ∀ text, (¬∃ p ts, tokenize text = .ok ts ∧ DerivesText ts p) →
    ∃ e, read text = .error (.refused e)
  /-- A tree is read back from every printed form with any number of blanks behind it. -/
  read_back : ∀ p cs ws, WellFormed p → Printed p cs → IsGap ws →
    read (String.ofList (cs ++ ws)) = .ok p

/-- Texts are parsed exactly. -/
theorem parse_exact : IsExact parse where
  ok_iff _ _ := parse_eq_ok_iff
  refused text hnone := by
    cases h : parse text with
    | ok p =>
      obtain ⟨ts, hts, hd⟩ := parse_eq_ok_iff.1 h
      exact absurd ⟨p, ts, hts, hd⟩ hnone
    | error f =>
      obtain ⟨e, rfl⟩ := refused_of_parse h
      exact ⟨e, rfl⟩
  read_back p cs ws hp hcs hws := by
    obtain ⟨ls, hls, hd⟩ := lexes_of_printed hp hcs
    have hend : EndsWord ws := by simpa using hws.endsWord endsWord_nil
    have hlex := hls.append (lexes_gap hws) hend
    rw [List.append_nil] at hlex
    exact parse_of_lexes (by rwa [String.toList_ofList]) hd

/-- A negated flag with blanks and a trailing comma. -/
theorem parse_exact_negated_flag : parse " not( unix ,) " = .ok (.call "not" [.name "unix"]) := by
  have hblank : IsGap [' '] := fun c hc => by rw [List.mem_singleton.1 hc]; decide
  have hnone : IsGap [] := fun c hc => absurd hc (by simp)
  have hform : Printed (.call "not" [.name "unix"])
      ([' '] ++ ("not".toList ++ ([] ++ '(' ::
        (([' '] ++ "unix".toList) ++ ([' '] ++ ',' :: []) ++ ([] ++ [')']))))) :=
    .call hblank hnone hnone (.cons (.name hblank) hblank .nil)
  have hflag : IsWord "unix".toList := by decide
  have hwell : WellFormed (.call "not" [.name "unix"]) :=
    ⟨by decide, fun _ => rfl, hflag, trivial⟩
  have htext : " not( unix ,) " = String.ofList (([' '] ++ ("not".toList ++ ([] ++ '(' ::
      (([' '] ++ "unix".toList) ++ ([' '] ++ ',' :: []) ++ ([] ++ [')']))))) ++ [' ']) := by decide
  rw [htext]
  exact parse_exact.read_back _ _ _ hwell hform hblank

end Bindery.Predicate
