import Bindery.CommandLine.Run
import Bindery.Proofs.Predicate.Meaning

/-!
# Evaluating a text

A text has a truth value or is refused at one of its offsets, and nothing else can happen: the
parser stops at the end token, and the trees that it gives have a value under all settings.

1. Trees that are read are well formed (`wellFormed_of_parse`).
2. A text is active, is not, or is refused (`isActive_located`), and the command that evaluates it
   exits with 0, 3 or 1 (`run_cfg_of_ok`, `run_cfg_of_refused`).
-/

namespace Bindery.Predicate

open CommandLine Text

/-! ## Tokens -/

/-- Tokens that end at an offset have one end token, the last. -/
theorem EndsAt.getLast? {stop : Nat} {ts : List Token} (h : EndsAt stop ts) :
    ts.getLast? = some ⟨.eof, "", stop⟩ := by
  obtain ⟨us, rfl, -⟩ := h
  exact List.getLast?_concat

theorem EndsAt.count_eof {stop : Nat} {ts : List Token} (h : EndsAt stop ts) :
    (ts.map Token.kind).count .eof = 1 := by
  obtain ⟨us, rfl, hus⟩ := h
  have hnone : (us.map Token.kind).count .eof = 0 := by
    refine List.count_eq_zero_of_not_mem fun hmem => ?_
    obtain ⟨u, hu, heof⟩ := List.mem_map.1 hmem
    exact (hus u hu).1 heof
  rw [List.map_append, List.count_append, hnone]
  rfl

/-! ## Trees -/

theorem Lexes.isWord {cs : List Char} {ls : List Lexeme} (h : Lexes cs ls) :
    ∀ n, .word n ∈ ls → IsWord n.toList := by
  induction h with
  | nil => simp
  | blank _ _ ih => exact ih
  | @mark l c cs ls hs _ ih =>
    intro n hn
    rcases List.mem_cons.1 hn with rfl | hn
    · cases hs
    · exact ih n hn
  | literal _ _ ih =>
    intro n hn
    exact ih n (by simpa using hn)
  | @word w cs ls hw _ _ ih =>
    intro n hn
    rcases List.mem_cons.1 hn with heq | hn
    · obtain rfl := Lexeme.word.inj heq
      rwa [String.toList_ofList]
    · exact ih n hn

mutual

/-- A derived tree is well formed, its names being words of the row. -/
theorem wellFormed_of_derives {p : Predicate} : {ls : List Lexeme} → Derives ls p →
    (∀ n, .word n ∈ ls → IsWord n.toList) → WellFormed p
  | _, .name n, hwords => hwords n (by simp)
  | _, .keyValue k v, hwords => hwords k (by simp)
  | _, .call hop hargs hnot, hwords =>
    ⟨hop, hnot, wellFormed_of_derivesAll hargs fun n hn => hwords n (by simp [hn])⟩

theorem wellFormed_of_derivesAll {ps : List Predicate} : {ls : List Lexeme} → DerivesAll ls ps →
    (∀ n, .word n ∈ ls → IsWord n.toList) → AllWellFormed ps
  | _, .nil, _ => trivial
  | _, .last hp, hwords => ⟨wellFormed_of_derives hp hwords, trivial⟩
  | _, .cons hp hps, hwords =>
    ⟨wellFormed_of_derives hp fun n hn => hwords n (by simp [hn]),
      wellFormed_of_derivesAll hps fun n hn => hwords n (by simp [hn])⟩

end

theorem wellFormed_of_parse {text : String} {p : Predicate} (h : parse text = .ok p) :
    WellFormed p := by
  obtain ⟨ls, hls, hd⟩ := lexes_of_parse h
  exact wellFormed_of_derives hd hls.isWord

/-- A text is read as a well-formed tree, which has a value under all settings, or it is refused at
one of its offsets. -/
theorem parse_located (text : String) :
    (∃ p, parse text = .ok p ∧ WellFormed p ∧ ∀ s, ∃ b, evaluate s p = .ok b) ∨
      ∃ e, parse text = .error (.refused e) ∧ e.pos ≤ text.length := by
  cases h : parse text with
  | ok p =>
    obtain ⟨ls, -, hd⟩ := lexes_of_parse h
    exact .inl ⟨p, rfl, wellFormed_of_parse h, fun s => ⟨_, evaluate_of_derives s hd⟩⟩
  | error f =>
    obtain ⟨e, rfl, hpos⟩ := located_of_parse h
    exact .inr ⟨e, rfl, hpos⟩

/-! ## Truth values -/

theorem isActive_located (text : String) (s : Settings) :
    (∃ b, isActive s text = .ok b) ∨
      ∃ e, isActive s text = .error (.refused e) ∧ e.pos ≤ text.length := by
  rcases parse_located text with ⟨p, hp, -, -⟩ | ⟨e, he, hpos⟩
  · exact .inl ⟨_, isActive_of_parse hp s⟩
  · refine .inr ⟨e, ?_, hpos⟩
    unfold isActive
    rw [he]

theorem mapM_id_some {α : Type} (as : List α) : (as.map some).mapM id = some as := by
  induction as with
  | nil => rfl
  | cons a as ih => rw [List.map_cons, List.mapM_cons, ih]; rfl

/-! ## The command -/

section Command

variable {text : String} {features flags : List String}

/-- With features and flags that all have names, the command evaluates the text under them. -/
theorem run_cfg (text : String) (features flags : List String) (files : FileTree) :
    (Command.cfg text (features.map some) (flags.map some)).run files =
      play (CommandLine.evaluate text features flags).ending files
        (CommandLine.evaluate text features flags).actions := by
  have hscript : cfgScript text (features.map some) (flags.map some) =
      CommandLine.evaluate text features flags := by
    unfold cfgScript
    rw [mapM_id_some, mapM_id_some]
  rw [← hscript]
  rfl

/-- It prints the value of a text that has one, which its exit code tells too. -/
theorem run_cfg_of_ok {b : Bool}
    (h : isActive ⟨features.contains, flags.contains⟩ text = .ok b) (files : FileTree) :
    (Command.cfg text (features.map some) (flags.map some)).run files =
      ⟨[if b then "active\n" else "inactive\n"], [], files, .exit (if b then 0 else 3)⟩ := by
  rw [run_cfg]
  unfold CommandLine.evaluate
  rw [h]
  cases b <;> rfl

/-- It logs why a text is refused. -/
theorem run_cfg_of_refused {e : Located}
    (h : isActive ⟨features.contains, flags.contains⟩ text = .error (.refused e))
    (files : FileTree) :
    (Command.cfg text (features.map some) (flags.map some)).run files =
      ⟨[], [⟨.error, "error: " ++ e.message⟩], files, .exit 1⟩ := by
  rw [run_cfg]
  unfold CommandLine.evaluate
  rw [h]
  rfl

end Command

/-- A text has a value, or is refused at one of its offsets. -/
structure IsLocated (text : String) : Prop where
  /-- Its tokens end in a single end token behind its last character, or a character is refused. -/
  tokens : (∃ ts, tokenize text = .ok ts ∧ ts.getLast? = some ⟨.eof, "", text.length⟩ ∧
      (ts.map Token.kind).count .eof = 1) ∨
    ∃ e, tokenize text = .error e ∧ e.pos < text.length
  /-- They are read as a well-formed tree, which has a value under all settings, or one of them is
  refused. -/
  tree : (∃ p, parse text = .ok p ∧ WellFormed p ∧ ∀ s, ∃ b, evaluate s p = .ok b) ∨
    ∃ e, parse text = .error (.refused e) ∧ e.pos ≤ text.length
  active : ∀ s, (∃ b, isActive s text = .ok b) ∨
    ∃ e, isActive s text = .error (.refused e) ∧ e.pos ≤ text.length
  /-- The command exits with 0, 3 or 1, as the text is active under some features and flags, is not,
  or is refused. -/
  command : ∀ (features flags : List String) (files : FileTree),
    (∃ b, isActive ⟨features.contains, flags.contains⟩ text = .ok b ∧
      (Command.cfg text (features.map some) (flags.map some)).run files =
        ⟨[if b then "active\n" else "inactive\n"], [], files, .exit (if b then 0 else 3)⟩) ∨
    ∃ e, isActive ⟨features.contains, flags.contains⟩ text = .error (.refused e) ∧
      (Command.cfg text (features.map some) (flags.map some)).run files =
        ⟨[], [⟨.error, "error: " ++ e.message⟩], files, .exit 1⟩

/-- Evaluating a text can only fail with a refusal at one of its offsets. -/
theorem evaluation_located (text : String) : IsLocated text where
  tokens := by
    refine (tokenize_located text).imp_left ?_
    rintro ⟨ts, hts, hends⟩
    exact ⟨ts, hts, hends.getLast?, hends.count_eof⟩
  tree := parse_located text
  active := isActive_located text
  command features flags files := by
    refine (isActive_located text ⟨features.contains, flags.contains⟩).imp ?_ ?_
    · rintro ⟨b, hb⟩
      exact ⟨b, hb, run_cfg_of_ok hb files⟩
    · rintro ⟨e, he, -⟩
      exact ⟨e, he, run_cfg_of_refused he files⟩

end Bindery.Predicate
