import Bindery.Proofs.Predicate.Exactness
import Mathlib.Data.List.Forall2

/-!
# What a predicate means

Every tree that a text stands for has a value, so a parsed text is active or not. Texts that stand
for trees may be set side by side and put under an operator, and the text so made stands for the
tree of that operator over them.
-/

namespace Bindery.Predicate

open Text

/-! ## Values -/

/-- Whether a tree is true; one without a value is not. -/
def holds (s : Settings) (p : Predicate) : Bool :=
  match evaluate s p with
  | .ok b => b
  | .error _ => false

theorem holds_eq_true {s : Settings} {p : Predicate} :
    holds s p = true ↔ evaluate s p = .ok true := by
  unfold holds
  split
  · next b hb => simp [hb]
  · next e he => simp [he]

theorem evaluateAny_eq {s : Settings} {ps : List Predicate}
    (h : ∀ p ∈ ps, evaluate s p = .ok (holds s p)) :
    evaluateAny s ps = .ok (ps.any (holds s)) := by
  induction ps with
  | nil => rw [evaluateAny, List.any_nil]
  | cons p ps ih =>
    have hp := h p (by simp)
    have hps := ih fun q hq => h q (by simp [hq])
    rw [evaluateAny, hp, List.any_cons]
    cases holds s p with
    | true => rfl
    | false => exact hps

theorem evaluateAll_eq {s : Settings} {ps : List Predicate}
    (h : ∀ p ∈ ps, evaluate s p = .ok (holds s p)) :
    evaluateAll s ps = .ok (ps.all (holds s)) := by
  induction ps with
  | nil => rw [evaluateAll, List.all_nil]
  | cons p ps ih =>
    have hp := h p (by simp)
    have hps := ih fun q hq => h q (by simp [hq])
    rw [evaluateAll, hp, List.all_cons]
    cases holds s p with
    | true => exact hps
    | false => rfl

/-- What evaluates to something evaluates to its value. -/
theorem evaluate_eq_holds {s : Settings} {p : Predicate} {b : Bool} (h : evaluate s p = .ok b) :
    evaluate s p = .ok (holds s p) := by
  unfold holds
  rw [h]

mutual

/-- A derived tree has a value under all settings. -/
theorem evaluate_of_derives {p : Predicate} (s : Settings) : {ls : List Lexeme} → Derives ls p →
    evaluate s p = .ok (holds s p)
  | _, .name n => evaluate_eq_holds (by rw [evaluate])
  | _, .keyValue k v => evaluate_eq_holds (by rw [evaluate])
  | _, @Derives.call _ _ ps hop hargs hnot => by
    have hall := evaluate_of_derivesAll s hargs
    simp only [List.mem_cons, List.not_mem_nil, or_false] at hop
    rcases hop with rfl | rfl | rfl
    · refine evaluate_eq_holds (b := ps.any (holds s)) ?_
      rw [evaluate, if_pos rfl, evaluateAny_eq hall]
    · refine evaluate_eq_holds (b := ps.all (holds s)) ?_
      rw [evaluate, if_neg (by decide), if_pos rfl, evaluateAll_eq hall]
    · obtain ⟨p, rfl⟩ := List.length_eq_one_iff.1 (hnot rfl)
      refine evaluate_eq_holds (b := !holds s p) ?_
      rw [evaluate, if_neg (by decide), if_neg (by decide), evaluateNot, hall p (by simp)]
      rfl

theorem evaluate_of_derivesAll {ps : List Predicate} (s : Settings) : {ls : List Lexeme} →
    DerivesAll ls ps → ∀ p ∈ ps, evaluate s p = .ok (holds s p)
  | _, .nil => by simp
  | _, .last hp => by simpa using evaluate_of_derives s hp
  | _, .cons hp hps => by
    simpa using ⟨evaluate_of_derives s hp, evaluate_of_derivesAll s hps⟩

end

/-- A parsed text is active where its tree is true. -/
theorem isActive_of_parse {text : String} {p : Predicate} (h : parse text = .ok p) (s : Settings) :
    isActive s text = .ok (holds s p) := by
  obtain ⟨ls, -, hd⟩ := lexes_of_parse h
  unfold isActive
  rw [h]
  simp only [evaluate_of_derives s hd]

/-- A disjunction of parsed texts is true where one of them is. -/
theorem holds_any {s : Settings} {ps : List Predicate}
    (h : ∀ p ∈ ps, evaluate s p = .ok (holds s p)) :
    holds s (.call "any" ps) = ps.any (holds s) := by
  unfold holds
  rw [evaluate, if_pos rfl, evaluateAny_eq h]
  rfl

/-- A conjunction of parsed texts is true where all of them are. -/
theorem holds_all {s : Settings} {ps : List Predicate}
    (h : ∀ p ∈ ps, evaluate s p = .ok (holds s p)) :
    holds s (.call "all" ps) = ps.all (holds s) := by
  unfold holds
  rw [evaluate, if_neg (by decide), if_pos rfl, evaluateAll_eq h]
  rfl

/-- A negation is true where its argument is not. -/
theorem holds_not {s : Settings} {p : Predicate} (h : evaluate s p = .ok (holds s p)) :
    holds s (.call "not" [p]) = !holds s p := by
  unfold holds at h ⊢
  rw [evaluate, if_neg (by decide), if_neg (by decide), evaluateNot, h]
  rfl

/-! ## Texts side by side -/

/-- A text that stands for several trees, one after the other. -/
def ParsesAll (text : String) (ps : List Predicate) : Prop :=
  ∃ ls, Lexes text.toList ls ∧ DerivesAll ls ps

/-- Parsed texts with commas between them stand for their trees. -/
theorem parsesAll_intercalate {texts : List String} {ps : List Predicate}
    (h : List.Forall₂ (fun text p => parse text = .ok p) texts ps) :
    ParsesAll (", ".intercalate texts) ps := by
  induction h with
  | nil => exact ⟨[], by simpa using Lexes.nil, .nil⟩
  | @cons text p texts ps htext hrest ih =>
    obtain ⟨ls, hls, hd⟩ := lexes_of_parse htext
    cases texts with
    | nil =>
      cases hrest
      exact ⟨ls, by simpa using hls, .last hd⟩
    | cons text' texts =>
      obtain ⟨ms, hms, hds⟩ := ih
      have hcomma : Lexes (", ".toList ++ (", ".intercalate (text' :: texts)).toList)
          (.comma :: ms) :=
        .mark rfl (.blank (by decide) hms)
      refine ⟨ls ++ .comma :: ms, ?_, .cons hd hds⟩
      rw [String.intercalate_cons_cons, String.toList_append, String.toList_append,
        List.append_assoc]
      exact hls.append hcomma (endsWord_cons.2 (by decide))

/-- An operator in front of such a text in parentheses stands for its tree over those. -/
theorem parse_operator {op text : String} {ps : List Predicate} (hop : op ∈ ["any", "all", "not"])
    (hnot : op = "not" → ps.length = 1) (h : ParsesAll text ps) :
    parse (op ++ "(" ++ text ++ ")") = .ok (.call op ps) := by
  obtain ⟨ls, hls, hd⟩ := h
  have hargs : Lexes (text.toList ++ [')']) (ls ++ [.closing]) :=
    hls.append (.mark rfl .nil) (endsWord_cons.2 (by decide))
  have hword := Lexes.word (isWord_operator hop) (endsWord_cons.2 (by decide))
    (.mark (l := .opening) rfl hargs)
  rw [String.ofList_toList] at hword
  refine parse_of_lexes ?_ (.call hop hd hnot)
  have htext : (op ++ "(" ++ text ++ ")").toList = op.toList ++ '(' :: (text.toList ++ [')']) := by
    simp
  rw [htext]
  exact hword

/-- A word stands for a flag. -/
theorem parse_name {n : String} (hn : IsWord n.toList) : parse n = .ok (.name n) := by
  have hword := Lexes.word hn endsWord_nil .nil
  rw [String.ofList_toList, List.append_nil] at hword
  exact parse_of_lexes hword (.name n)

/-- A key with a value that is spelled between double quotes. -/
theorem parse_spelled {k v s : String} (hk : IsWord k.toList) (hs : Spells v.toList s.toList) :
    parse (k ++ " = \"" ++ s ++ "\"") = .ok (.keyValue k v) := by
  have hvalue := Lexes.literal hs .nil
  have hword := Lexes.word hk (endsWord_cons.2 (by decide))
    (.blank (c := ' ') (by decide)
      (.mark (l := .equals) rfl (.blank (c := ' ') (by decide) hvalue)))
  rw [String.ofList_toList, String.ofList_toList] at hword
  refine parse_of_lexes ?_ (.keyValue k v)
  have htext : (k ++ " = \"" ++ s ++ "\"").toList =
      k.toList ++ ' ' :: '=' :: ' ' :: '"' :: (s.toList ++ ['"']) := by simp
  rw [htext]
  exact hword

/-- A key with a value that needs no escape. -/
theorem parse_keyValue {k v : String} (hk : IsWord k.toList)
    (hv : ∀ c ∈ v.toList, c ≠ '"' ∧ c ≠ '\\') :
    parse (k ++ " = \"" ++ v ++ "\"") = .ok (.keyValue k v) :=
  parse_spelled hk (spells_self hv)

/-- A feature whose name needs no escape. -/
theorem parse_feature {v : String} (hv : ∀ c ∈ v.toList, c ≠ '"' ∧ c ≠ '\\') :
    parse ("feature = \"" ++ v ++ "\"") = .ok (.keyValue "feature" v) := by
  have hsplit : "feature = \"" = "feature" ++ " = \"" := by decide
  have hword : IsWord "feature".toList := by decide
  rw [hsplit]
  exact parse_keyValue hword hv

end Bindery.Predicate
