import Bindery.Predicate.Parser
import Bindery.Proofs.Predicate.Lexing
import Mathlib.Tactic.Common

/-!
# The grammar of predicates

    predicate := name
               | name '=' "string"
               | ('any' | 'all' | 'not') '(' [predicate (',' predicate)* [',']] ')'

`Derives` is this grammar over lexemes. The parser takes from the front of a row of tokens exactly
what the grammar derives.

1. What it takes is derived (`derives_of_parsePredicate`).
2. What is derived it takes, unless an equality sign or a parenthesis follows a bare name
   (`parsePredicate_of_derives`).
3. In front of the end token it never runs out of tokens, and what it refuses it refuses at one of
   them (`refused_of_parsePredicate`).
-/

namespace Bindery.Predicate

/-! ## Derivations -/

mutual

/-- The rows of lexemes that stand for a predicate. -/
inductive Derives : List Lexeme → Predicate → Prop
  | name (n : String) : Derives [.word n] (.name n)
  | keyValue (k v : String) : Derives [.word k, .equals, .literal v] (.keyValue k v)
  | call {op : String} {ls : List Lexeme} {ps : List Predicate} :
      op ∈ ["any", "all", "not"] → DerivesAll ls ps → (op = "not" → ps.length = 1) →
        Derives (.word op :: .opening :: (ls ++ [.closing])) (.call op ps)

/-- The rows that stand for several predicates, with commas between them and perhaps one behind the
last. -/
inductive DerivesAll : List Lexeme → List Predicate → Prop
  | nil : DerivesAll [] []
  | last {ls : List Lexeme} {p : Predicate} : Derives ls p → DerivesAll ls [p]
  | cons {ls ms : List Lexeme} {p : Predicate} {ps : List Predicate} :
      Derives ls p → DerivesAll ms ps → DerivesAll (ls ++ .comma :: ms) (p :: ps)

end

theorem isOperator_iff {op : String} : isOperator op = true ↔ op ∈ ["any", "all", "not"] := by
  simp [isOperator, or_assoc]

/-- A predicate begins with a word. -/
theorem Derives.head {ls : List Lexeme} {p : Predicate} (h : Derives ls p) :
    ∃ n ms, ls = .word n :: ms := by
  cases h with
  | name n => exact ⟨n, _, rfl⟩
  | keyValue k v => exact ⟨k, _, rfl⟩
  | @call op => exact ⟨op, _, rfl⟩

/-! ## Tokens and their lexemes -/

section Kinds

variable {t : Token}

theorem lexeme_eq_word {n : String} : t.lexeme = .word n ↔ t.kind = .ident ∧ t.text = n := by
  unfold Token.lexeme; split <;> simp_all

theorem lexeme_eq_literal {v : String} :
    t.lexeme = .literal v ↔ t.kind = .string ∧ t.text = v := by
  unfold Token.lexeme; split <;> simp_all

theorem lexeme_eq_equals : t.lexeme = .equals ↔ t.kind = .eq := by
  unfold Token.lexeme; split <;> simp_all

theorem lexeme_eq_opening : t.lexeme = .opening ↔ t.kind = .lparen := by
  unfold Token.lexeme; split <;> simp_all

theorem lexeme_eq_closing : t.lexeme = .closing ↔ t.kind = .rparen := by
  unfold Token.lexeme; split <;> simp_all

theorem lexeme_eq_comma : t.lexeme = .comma ↔ t.kind = .comma := by
  unfold Token.lexeme; split <;> simp_all

theorem lexeme_eq_ending : t.lexeme = .ending ↔ t.kind = .eof := by
  unfold Token.lexeme; split <;> simp_all

end Kinds

/-! ## What the parser takes is derived -/

mutual

theorem derives_of_parsePredicate {ts : List Token} {st : Step Predicate ts}
    (h : parsePredicate ts = .ok st) :
    ∃ us, ts = us ++ st.rest ∧ Derives (us.map Token.lexeme) st.value := by
  match ts, st, h with
  | [], st, h => simp [parsePredicate] at h
  | [t], st, h =>
    by_cases hident : t.kind = .ident <;> simp [parsePredicate, wanted, hident] at h
  | t :: next :: rest, st, h =>
    unfold parsePredicate at h
    by_cases hident : t.kind ≠ .ident
    · rw [if_pos hident] at h
      cases h
    rw [if_neg hident] at h
    have hword : t.lexeme = .word t.text := lexeme_eq_word.2 ⟨not_not.1 hident, rfl⟩
    by_cases heq : next.kind = .eq
    · simp only [if_pos heq] at h
      cases rest with
      | nil => cases h
      | cons v rest =>
        by_cases hv : v.kind = .string
        · simp only [if_pos hv] at h
          cases h
          refine ⟨[t, next, v], rfl, ?_⟩
          simp only [List.map_cons, List.map_nil, hword, lexeme_eq_equals.2 heq,
            lexeme_eq_literal.2 ⟨hv, rfl⟩]
          exact .keyValue t.text v.text
        · simp [wanted, hv] at h
    simp only [if_neg heq] at h
    by_cases hopen : next.kind = .lparen
    · simp only [if_pos hopen] at h
      by_cases hop : ¬isOperator t.text = true
      · simp only [if_neg hop] at h
        cases h
      simp only [if_pos (not_not.1 hop)] at h
      cases hargs : parseArguments rest with
      | error e => simp only [hargs] at h; cases h
      | ok args =>
        obtain ⟨us, u, hus, hu, hd⟩ := derivesAll_of_parseArguments hargs
        by_cases hnot : t.text = "not" ∧ args.value.length ≠ 1
        · simp only [hargs, if_pos hnot] at h
          cases h
        · simp only [hargs, if_neg hnot] at h
          cases h
          refine ⟨t :: next :: (us ++ [u]), by simp [hus], ?_⟩
          simp only [List.map_cons, List.map_append, List.map_nil, hword,
            lexeme_eq_opening.2 hopen, lexeme_eq_closing.2 hu]
          refine .call (isOperator_iff.1 (not_not.1 hop)) hd fun hname => ?_
          by_contra hlen
          exact hnot ⟨hname, hlen⟩
    · simp only [if_neg hopen] at h
      cases h
      refine ⟨[t], rfl, ?_⟩
      simp only [List.map_cons, List.map_nil, hword]
      exact .name t.text
termination_by 2 * ts.length

theorem derivesAll_of_parseArguments {ts : List Token} {st : Step (List Predicate) ts}
    (h : parseArguments ts = .ok st) :
    ∃ us u, ts = us ++ u :: st.rest ∧ u.kind = .rparen ∧
      DerivesAll (us.map Token.lexeme) st.value := by
  match ts, st, h with
  | [], st, h => simp [parseArguments] at h
  | t :: after, st, h =>
    unfold parseArguments at h
    by_cases hclose : t.kind = .rparen
    · simp only [if_pos hclose] at h
      cases h
      exact ⟨[], t, rfl, hclose, .nil⟩
    simp only [if_neg hclose] at h
    cases hp : parsePredicate (t :: after) with
    | error e => simp only [hp] at h; cases h
    | ok first =>
      obtain ⟨us, hus, hd⟩ := derives_of_parsePredicate hp
      obtain ⟨p, rest, hlt⟩ := first
      cases rest with
      | nil => simp only [hp] at h; cases h
      | cons next rest =>
        simp only [hp] at h
        by_cases hcomma : next.kind = .comma
        · simp only [if_pos hcomma] at h
          cases hargs : parseArguments rest with
          | error e => simp only [hargs] at h; cases h
          | ok more =>
            simp only [hargs] at h
            cases h
            have : rest.length + 1 < after.length + 1 := hlt
            obtain ⟨vs, v, hvs, hv, hds⟩ := derivesAll_of_parseArguments hargs
            refine ⟨us ++ next :: vs, v, by simp [hus, hvs], hv, ?_⟩
            rw [List.map_append, List.map_cons, lexeme_eq_comma.2 hcomma]
            exact .cons hd hds
        simp only [if_neg hcomma] at h
        by_cases hclose' : next.kind = .rparen
        · simp only [if_pos hclose'] at h
          cases h
          exact ⟨us, next, hus, hclose', .last hd⟩
        · simp [wanted, hclose'] at h
termination_by 2 * ts.length + 1

end

/-! ## What is derived is taken -/

/-- A token that leaves a bare name in front of it as it is. -/
def EndsName (ts : List Token) : Prop := ∃ t rest, ts = t :: rest ∧ t.kind ≠ .eq ∧ t.kind ≠ .lparen

theorem endsName_cons {t : Token} {ts : List Token} :
    EndsName (t :: ts) ↔ t.kind ≠ .eq ∧ t.kind ≠ .lparen := by
  simp [EndsName]

theorem parsePredicate_name {t next : Token} {rest : List Token} (ht : t.kind = .ident)
    (heq : next.kind ≠ .eq) (hopen : next.kind ≠ .lparen) :
    ∃ h, parsePredicate (t :: next :: rest) = .ok ⟨.name t.text, next :: rest, h⟩ := by
  refine ⟨by simp, ?_⟩
  unfold parsePredicate
  simp only [ht, heq, hopen, ne_eq, not_true_eq_false, if_false]

theorem parsePredicate_keyValue {t e v : Token} {rest : List Token} (ht : t.kind = .ident)
    (he : e.kind = .eq) (hv : v.kind = .string) :
    ∃ h, parsePredicate (t :: e :: v :: rest) = .ok ⟨.keyValue t.text v.text, rest, h⟩ := by
  refine ⟨by simp only [List.length_cons]; omega, ?_⟩
  unfold parsePredicate
  simp only [ht, he, hv, ne_eq, not_true_eq_false, if_false, if_true]

theorem parsePredicate_call {t o : Token} {ts rest : List Token} {ps : List Predicate}
    (ht : t.kind = .ident) (ho : o.kind = .lparen) (hop : isOperator t.text = true)
    (hargs : ∃ h, parseArguments ts = .ok ⟨ps, rest, h⟩) (hnot : t.text = "not" → ps.length = 1) :
    ∃ h, parsePredicate (t :: o :: ts) = .ok ⟨.call t.text ps, rest, h⟩ := by
  obtain ⟨hlt, hargs⟩ := hargs
  refine ⟨by simp only [List.length_cons]; omega, ?_⟩
  have harity : ¬(t.text = "not" ∧ ps.length ≠ 1) := fun h => h.2 (hnot h.1)
  unfold parsePredicate
  simp only [ht, ho, hop, hargs, harity, ne_eq, not_true_eq_false, if_false, if_true, reduceCtorEq]

theorem parseArguments_closing {t : Token} {rest : List Token} (ht : t.kind = .rparen) :
    ∃ h, parseArguments (t :: rest) = .ok ⟨[], rest, h⟩ := by
  refine ⟨by simp, ?_⟩
  unfold parseArguments
  simp only [ht, if_true]

theorem parseArguments_last {t c : Token} {ts rest : List Token} {p : Predicate}
    (ht : t.kind = .ident) (hp : ∃ h, parsePredicate (t :: ts) = .ok ⟨p, c :: rest, h⟩)
    (hc : c.kind = .rparen) : ∃ h, parseArguments (t :: ts) = .ok ⟨[p], rest, h⟩ := by
  obtain ⟨hlt, hp⟩ := hp
  refine ⟨by simp only [List.length_cons] at hlt ⊢; omega, ?_⟩
  unfold parseArguments
  simp only [ht, hp, hc, if_false, if_true, reduceCtorEq]

theorem parseArguments_comma {t c : Token} {ts us rest : List Token} {p : Predicate}
    {ps : List Predicate} (ht : t.kind = .ident)
    (hp : ∃ h, parsePredicate (t :: ts) = .ok ⟨p, c :: us, h⟩) (hc : c.kind = .comma)
    (hps : ∃ h, parseArguments us = .ok ⟨ps, rest, h⟩) :
    ∃ h, parseArguments (t :: ts) = .ok ⟨p :: ps, rest, h⟩ := by
  obtain ⟨hlt, hp⟩ := hp
  obtain ⟨hlt', hps⟩ := hps
  refine ⟨by simp only [List.length_cons] at hlt ⊢; omega, ?_⟩
  unfold parseArguments
  simp only [ht, hp, hc, hps, if_false, if_true, reduceCtorEq]

mutual

theorem parsePredicate_of_derives {p : Predicate} : {ls : List Lexeme} → Derives ls p →
    ∀ {us : List Token}, us.map Token.lexeme = ls → ∀ {rest : List Token}, EndsName rest →
      ∃ h, parsePredicate (us ++ rest) = .ok ⟨p, rest, h⟩
  | _, .name n, us, hus, rest, hrest => by
    obtain ⟨t, us, rfl, ht, hnil⟩ := List.map_eq_cons_iff.1 hus
    obtain rfl := List.map_eq_nil_iff.1 hnil
    obtain ⟨next, rest, rfl, heq, hopen⟩ := hrest
    obtain ⟨hkind, rfl⟩ := lexeme_eq_word.1 ht
    exact parsePredicate_name hkind heq hopen
  | _, .keyValue k v, us, hus, rest, hrest => by
    obtain ⟨t, us, rfl, ht, hus⟩ := List.map_eq_cons_iff.1 hus
    obtain ⟨e, us, rfl, he, hus⟩ := List.map_eq_cons_iff.1 hus
    obtain ⟨w, us, rfl, hw, hnil⟩ := List.map_eq_cons_iff.1 hus
    obtain rfl := List.map_eq_nil_iff.1 hnil
    obtain ⟨hkind, rfl⟩ := lexeme_eq_word.1 ht
    obtain ⟨hstring, rfl⟩ := lexeme_eq_literal.1 hw
    exact parsePredicate_keyValue hkind (lexeme_eq_equals.1 he) hstring
  | _, .call hop hargs hnot, us, hus, rest, hrest => by
    obtain ⟨t, us, rfl, ht, hus⟩ := List.map_eq_cons_iff.1 hus
    obtain ⟨o, us, rfl, ho, hus⟩ := List.map_eq_cons_iff.1 hus
    obtain ⟨vs, cs, rfl, hvs, hcs⟩ := List.map_eq_append_iff.1 hus
    obtain ⟨c, cs, rfl, hc, hnil⟩ := List.map_eq_cons_iff.1 hcs
    obtain rfl := List.map_eq_nil_iff.1 hnil
    obtain ⟨hkind, rfl⟩ := lexeme_eq_word.1 ht
    have htail := parseArguments_of_derivesAll hargs hvs (lexeme_eq_closing.1 hc) rest
    rw [show t :: o :: (vs ++ [c]) ++ rest = t :: o :: (vs ++ c :: rest) by simp]
    exact parsePredicate_call hkind (lexeme_eq_opening.1 ho) (isOperator_iff.2 hop) htail hnot

theorem parseArguments_of_derivesAll {ps : List Predicate} : {ls : List Lexeme} →
    DerivesAll ls ps → ∀ {us : List Token}, us.map Token.lexeme = ls → ∀ {c : Token},
      c.kind = .rparen → ∀ rest, ∃ h, parseArguments (us ++ c :: rest) = .ok ⟨ps, rest, h⟩
  | _, .nil, us, hus, c, hc, rest => by
    obtain rfl := List.map_eq_nil_iff.1 hus
    exact parseArguments_closing hc
  | _, .last hp, us, hus, c, hc, rest => by
    have hends : EndsName (c :: rest) := endsName_cons.2 (by simp [hc])
    have htake := parsePredicate_of_derives hp hus hends
    obtain ⟨n, ms, hls⟩ := hp.head
    obtain ⟨t, us, rfl, ht, -⟩ := List.map_eq_cons_iff.1 (hus.trans hls)
    exact parseArguments_last (lexeme_eq_word.1 ht).1 htake hc
  | _, .cons hp hps, us, hus, c, hc, rest => by
    obtain ⟨vs, ws, rfl, hvs, hws⟩ := List.map_eq_append_iff.1 hus
    obtain ⟨d, ws, rfl, hd, hws⟩ := List.map_eq_cons_iff.1 hws
    have hcomma := lexeme_eq_comma.1 hd
    have hends : EndsName (d :: (ws ++ c :: rest)) := endsName_cons.2 (by simp [hcomma])
    have htake := parsePredicate_of_derives hp hvs hends
    have htail := parseArguments_of_derivesAll hps hws hc rest
    obtain ⟨n, ms, hls⟩ := hp.head
    obtain ⟨t, vs, rfl, ht, -⟩ := List.map_eq_cons_iff.1 (hvs.trans hls)
    rw [show t :: vs ++ d :: ws ++ c :: rest = t :: (vs ++ d :: (ws ++ c :: rest)) by simp]
    exact parseArguments_comma (lexeme_eq_word.1 ht).1 htake hcomma htail

end

/-! ## Refusals -/

mutual

theorem ending_notMem {p : Predicate} : {ls : List Lexeme} → Derives ls p → .ending ∉ ls
  | _, .name n => by simp
  | _, .keyValue k v => by simp
  | _, .call _ hargs _ => by
    have := ending_notMem_all hargs
    simp [this]

theorem ending_notMem_all {ps : List Predicate} : {ls : List Lexeme} → DerivesAll ls ps →
    .ending ∉ ls
  | _, .nil => by simp
  | _, .last hp => ending_notMem hp
  | _, .cons hp hps => by
    have hfirst := ending_notMem hp
    have hrest := ending_notMem_all hps
    simp [hfirst, hrest]

end

/-- The last token is the end. -/
def Closed (ts : List Token) : Prop := ∃ us e, ts = us ++ [e] ∧ e.kind = .eof

theorem not_closed_nil : ¬Closed [] := by
  rintro ⟨us, e, h, -⟩
  simp at h

theorem Closed.tail {t : Token} {ts : List Token} (h : Closed (t :: ts)) (ht : t.kind ≠ .eof) :
    Closed ts := by
  obtain ⟨us, e, hts, he⟩ := h
  cases us with
  | nil =>
    obtain ⟨rfl, rfl⟩ := List.cons.inj hts
    exact absurd he ht
  | cons u us => exact ⟨us, e, (List.cons.inj hts).2, he⟩

theorem Closed.drop {us ts : List Token} (h : Closed (us ++ ts)) (hu : ∀ u ∈ us, u.kind ≠ .eof) :
    Closed ts := by
  induction us with
  | nil => exact h
  | cons u us ih => exact ih (h.tail (hu u (by simp))) fun v hv => hu v (by simp [hv])

/-- What the parser leaves still has the end at its end. -/
theorem Closed.rest {ts : List Token} {st : Step Predicate ts} (h : Closed ts)
    (hp : parsePredicate ts = .ok st) : Closed st.rest := by
  obtain ⟨us, hts, hd⟩ := derives_of_parsePredicate hp
  rw [hts] at h
  refine h.drop fun u hu hend => ending_notMem hd ?_
  rw [← lexeme_eq_ending.2 hend]
  exact List.mem_map_of_mem hu

/-- A refusal at one of some tokens. -/
def RefusedAt (ts : List Token) (f : Failure) : Prop := ∃ t ∈ ts, ∃ r, f = .refused ⟨r, t.pos⟩

theorem RefusedAt.mono {ts us : List Token} {f : Failure} (h : RefusedAt us f) (hsub : us ⊆ ts) :
    RefusedAt ts f := by
  obtain ⟨t, ht, r, rfl⟩ := h
  exact ⟨t, hsub ht, r, rfl⟩

theorem subset_of_parsePredicate {ts : List Token} {st : Step Predicate ts}
    (h : parsePredicate ts = .ok st) : st.rest ⊆ ts := by
  obtain ⟨us, hts, -⟩ := derives_of_parsePredicate h
  intro t ht
  rw [hts]
  exact List.mem_append_right us ht

mutual

/-- A row that ends in the end token is parsed or refused at one of its tokens. -/
theorem refused_of_parsePredicate {ts : List Token} (hts : Closed ts) {f : Failure}
    (h : parsePredicate ts = .error f) : RefusedAt ts f := by
  match ts, hts, h with
  | [], hts, h => exact absurd hts not_closed_nil
  | t :: after, hts, h =>
    unfold parsePredicate at h
    by_cases hident : t.kind ≠ .ident
    · rw [if_pos hident] at h
      cases h
      exact ⟨t, by simp, _, rfl⟩
    rw [if_neg hident] at h
    have hafter : Closed after := hts.tail (by simp [not_not.1 hident])
    cases after with
    | nil => exact absurd hafter not_closed_nil
    | cons next rest =>
      by_cases heq : next.kind = .eq
      · simp only [if_pos heq] at h
        have hrest : Closed rest := hafter.tail (by simp [heq])
        cases rest with
        | nil => exact absurd hrest not_closed_nil
        | cons v rest =>
          by_cases hv : v.kind = .string
          · simp only [if_pos hv] at h
            cases h
          · simp only [if_neg hv] at h
            cases h
            exact ⟨v, by simp, _, rfl⟩
      simp only [if_neg heq] at h
      by_cases hopen : next.kind = .lparen
      · simp only [if_pos hopen] at h
        have hrest : Closed rest := hafter.tail (by simp [hopen])
        by_cases hop : ¬isOperator t.text = true
        · simp only [if_neg hop] at h
          cases h
          exact ⟨t, by simp, _, rfl⟩
        simp only [if_pos (not_not.1 hop)] at h
        cases hargs : parseArguments rest with
        | error e =>
          simp only [hargs] at h
          cases h
          refine (refused_of_parseArguments hrest hargs).mono fun u hu => ?_
          exact List.mem_cons_of_mem t (List.mem_cons_of_mem next hu)
        | ok args =>
          by_cases hnot : t.text = "not" ∧ args.value.length ≠ 1
          · simp only [hargs, if_pos hnot] at h
            cases h
            exact ⟨t, by simp, _, rfl⟩
          · simp only [hargs, if_neg hnot] at h
            cases h
      · simp only [if_neg hopen] at h
        cases h
termination_by 2 * ts.length

theorem refused_of_parseArguments {ts : List Token} (hts : Closed ts) {f : Failure}
    (h : parseArguments ts = .error f) : RefusedAt ts f := by
  match ts, hts, h with
  | [], hts, h => exact absurd hts not_closed_nil
  | t :: after, hts, h =>
    unfold parseArguments at h
    by_cases hclose : t.kind = .rparen
    · simp only [if_pos hclose] at h
      cases h
    simp only [if_neg hclose] at h
    cases hp : parsePredicate (t :: after) with
    | error e =>
      simp only [hp] at h
      cases h
      exact refused_of_parsePredicate hts hp
    | ok first =>
      have hfirst := hts.rest hp
      have hsub := subset_of_parsePredicate hp
      obtain ⟨p, rest, hlt⟩ := first
      cases rest with
      | nil => exact absurd hfirst not_closed_nil
      | cons next rest =>
        simp only [hp] at h
        by_cases hcomma : next.kind = .comma
        · simp only [if_pos hcomma] at h
          have : rest.length + 1 < after.length + 1 := hlt
          cases hargs : parseArguments rest with
          | error e =>
            simp only [hargs] at h
            cases h
            refine (refused_of_parseArguments (hfirst.tail (by simp [hcomma])) hargs).mono ?_
            exact fun u hu => hsub (List.mem_cons_of_mem next hu)
          | ok more => simp only [hargs] at h; cases h
        simp only [if_neg hcomma] at h
        by_cases hclose' : next.kind = .rparen
        · simp only [if_pos hclose'] at h
          cases h
        · simp only [if_neg hclose'] at h
          cases h
          exact ⟨next, hsub (by simp), _, rfl⟩
termination_by 2 * ts.length + 1

end

end Bindery.Predicate
