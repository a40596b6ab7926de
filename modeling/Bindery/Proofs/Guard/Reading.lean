import Bindery.Guard
import Bindery.Import.Group
import Bindery.Predicate.Attribute
import Bindery.Proofs.Predicate.Meaning
import Bindery.Proofs.Text.Parts

/-!
# Guards read back

A guard is written as an attribute line and read back as a predicate.

1. The predicate of a compile attribute is `any` over the predicates of the guard and the
   documentation feature, and that of the complement is its negation (`parse_compilePredicate`,
   `parse_complementPredicate`).
2. A documentation attribute, or any attribute behind a comment sign, is no cfg attribute
   (`ofAttribute?_docAttribute`, `ofAttribute?_of_comment`).
-/

namespace Bindery

open Text Predicate

/-! ## Lines without their margin -/

/-- A text that begins and ends with other characters than blanks is kept whole. -/
theorem strip_framed {ws mid : List Char} {a z : Char} (hws : IsGap ws) (ha : isBlank a = false)
    (hz : isBlank z = false) : strip (ws ++ a :: (mid ++ [z])) = a :: (mid ++ [z]) := by
  have hlast : (a :: (mid ++ [z])).getLast? = some z := by
    rw [← List.cons_append, List.getLast?_concat]
  have hnone : ∀ c ∈ ([] : List Char), isBlank c = true := nofun
  have hstrip : strip (ws ++ (a :: (mid ++ [z]) ++ [])) = a :: (mid ++ [z]) :=
    strip_gaps hws hnone (by simpa using ha) (by simpa [hlast] using hz)
  rwa [List.append_nil] at hstrip

theorem isGap_tabs (indent : Int) : IsGap (tabs indent).toList := by
  intro c hc
  unfold tabs at hc
  rw [String.toList_ofList] at hc
  rw [List.eq_of_mem_replicate hc]
  decide

/-! ## Cfg attributes -/

/-- The predicate of a cfg attribute is what stands between its parentheses. -/
theorem ofAttribute?_cfg (indent : Int) (p : String) :
    ofAttribute? (tabs indent ++ "#[cfg(" ++ p ++ ")]") = some p := by
  have hline : (tabs indent ++ "#[cfg(" ++ p ++ ")]").toList =
      (tabs indent).toList ++ '#' :: (("[cfg(".toList ++ p.toList ++ [')']) ++ [']']) := by simp
  have hstrip : strip ((tabs indent).toList ++
      '#' :: (("[cfg(".toList ++ p.toList ++ [')']) ++ [']'])) =
        '#' :: (("[cfg(".toList ++ p.toList ++ [')']) ++ [']']) :=
    strip_framed (isGap_tabs indent) (by decide) (by decide)
  have hbody : '#' :: (("[cfg(".toList ++ p.toList ++ [')']) ++ [']']) =
      attributeOpening ++ (p.toList ++ attributeClosing) := by
    simp [attributeOpening, attributeClosing]
  unfold ofAttribute?
  rw [hline, hstrip, hbody]
  have hopen : attributeOpening.isPrefixOf (attributeOpening ++ (p.toList ++ attributeClosing)) :=
    List.isPrefixOf_iff_prefix.2 (List.prefix_append _ _)
  have hclose : attributeClosing.isSuffixOf
      (attributeOpening ++ (p.toList ++ attributeClosing)) := by
    rw [← List.append_assoc]
    exact List.isSuffixOf_iff_suffix.2 (List.suffix_append _ _)
  have hcut : (attributeOpening ++ (p.toList ++ attributeClosing)).take
      ((attributeOpening ++ (p.toList ++ attributeClosing)).length - attributeClosing.length) =
        attributeOpening ++ p.toList := by
    rw [← List.append_assoc, List.length_append, Nat.add_sub_cancel, List.take_left]
  rw [if_pos (by rw [hopen, hclose]; rfl), hcut, List.drop_left, String.ofList_toList]

/-- A line that begins otherwise is no cfg attribute. -/
theorem ofAttribute?_eq_none {line : String} {indent : Int} {a : Char} {body : List Char}
    (hline : line.toList = (tabs indent).toList ++ a :: (body ++ [']']))
    (ha : isBlank a = false) (hopen : ¬attributeOpening <+: a :: (body ++ [']'])) :
    ofAttribute? line = none := by
  unfold ofAttribute?
  rw [hline, strip_framed (isGap_tabs indent) ha (by decide)]
  simp [hopen]

namespace Guard

/-! ## The predicates of a guard -/

/-- The predicate under which a guarded symbol is compiled. -/
def compilePredicate (g : Guard) : String := "any" ++ "(" ++ (g.cfg ++ ", " ++ docsPredicate) ++ ")"

/-- The predicate under which it is not. -/
def complementPredicate (g : Guard) : String := "not" ++ "(" ++ g.compilePredicate ++ ")"

theorem ofAttribute?_compileAttribute (g : Guard) (indent : Int) :
    ofAttribute? (g.compileAttribute ⟨false, indent⟩) = some g.compilePredicate := by
  have hline : g.compileAttribute ⟨false, indent⟩ =
      tabs indent ++ "#[cfg(" ++ g.compilePredicate ++ ")]" := by
    apply String.toList_inj.1
    simp [compileAttribute, compilePredicate, Margin.text, commentSign]
  rw [hline, ofAttribute?_cfg]

theorem ofAttribute?_complementAttribute (g : Guard) (indent : Int) :
    ofAttribute? (g.complementAttribute ⟨false, indent⟩) = some g.complementPredicate := by
  have hline : g.complementAttribute ⟨false, indent⟩ =
      tabs indent ++ "#[cfg(" ++ g.complementPredicate ++ ")]" := by
    apply String.toList_inj.1
    simp [complementAttribute, complementPredicate, compilePredicate, Margin.text, commentSign]
  rw [hline, ofAttribute?_cfg]

end Guard

/-- The tree of the documentation feature. -/
def docsTree : Predicate := .keyValue "feature" docsFeature

theorem parse_docsPredicate : parse docsPredicate = .ok docsTree := by
  have hplain : ∀ c ∈ docsFeature.toList, c ≠ '"' ∧ c ≠ '\\' := by simp [docsFeature]
  exact parse_feature hplain

/-- The complement of a guard is its negation. -/
theorem parse_complement {g : Guard} {t : Predicate} (h : parse g.compilePredicate = .ok t) :
    parse g.complementPredicate = .ok (.call "not" [t]) := by
  have hparses := parsesAll_intercalate (.cons h .nil)
  rw [String.intercalate_singleton] at hparses
  exact parse_operator (by simp) (by simp) hparses

section Texts

variable {texts : List String} {ts : List Predicate}

/-- The guard of some predicates of which one must hold. -/
theorem parse_compilePredicate (hne : texts ≠ [])
    (h : List.Forall₂ (fun text t => parse text = .ok t) texts ts) :
    parse (Guard.mk (", ".intercalate texts)).compilePredicate =
      .ok (.call "any" (ts ++ [docsTree])) := by
  have hall : List.Forall₂ (fun text t => parse text = .ok t) (texts ++ [docsPredicate])
      (ts ++ [docsTree]) := List.rel_append h (.cons parse_docsPredicate .nil)
  have hparses := parsesAll_intercalate hall
  rw [String.intercalate_append_of_ne_nil hne (by simp), String.intercalate_singleton] at hparses
  exact parse_operator (by simp) (by simp) hparses

theorem parse_complementPredicate (hne : texts ≠ [])
    (h : List.Forall₂ (fun text t => parse text = .ok t) texts ts) :
    parse (Guard.mk (", ".intercalate texts)).complementPredicate =
      .ok (.call "not" [.call "any" (ts ++ [docsTree])]) :=
  parse_complement (parse_compilePredicate hne h)

/-- The predicate that documentation shows. -/
theorem parse_docsConstraint (hne : texts ≠ [])
    (h : List.Forall₂ (fun text t => parse text = .ok t) texts ts) :
    ∃ t, parse (docsConstraint texts) = .ok t ∧ (ts = [t] ∨ t = .call "any" ts) := by
  cases h with
  | nil => exact absurd rfl hne
  | @cons text t texts ts htext hrest =>
    cases hrest with
    | nil => exact ⟨t, htext, .inl rfl⟩
    | @cons text' _ texts _ htext' hrest =>
      have hparses := parsesAll_intercalate (.cons htext (.cons htext' hrest))
      have hsplit : docsConstraint (text :: text' :: texts) =
          "any" ++ "(" ++ ", ".intercalate (text :: text' :: texts) ++ ")" := by
        rw [docsConstraint, show "any(" = "any" ++ "(" by decide]
        simp
      rw [hsplit]
      exact ⟨_, parse_operator (by simp) (by simp) hparses, .inr rfl⟩

/-! ## When a guard is active -/

theorem evaluate_of_parses (h : List.Forall₂ (fun text t => parse text = .ok t) texts ts)
    (s : Settings) : ∀ t ∈ ts, evaluate s t = .ok (holds s t) := by
  induction h with
  | nil => simp
  | cons htext _ ih =>
    obtain ⟨ls, -, hd⟩ := lexes_of_parse htext
    simpa using ⟨evaluate_of_derives s hd, ih⟩

theorem evaluate_docsTree (s : Settings) : evaluate s docsTree = .ok (holds s docsTree) :=
  evaluate_eq_holds (by rw [docsTree, evaluate])

theorem holds_docsTree (s : Settings) : holds s docsTree = s.feature docsFeature := by
  unfold holds docsTree
  rw [evaluate]
  simp

/-- The value of a guard: one of its predicates holds, or documentation is built. -/
theorem holds_guard (h : List.Forall₂ (fun text t => parse text = .ok t) texts ts) (s : Settings) :
    holds s (.call "any" (ts ++ [docsTree])) = (ts.any (holds s) || s.feature docsFeature) := by
  have hall : ∀ t ∈ ts ++ [docsTree], evaluate s t = .ok (holds s t) := by
    intro t ht
    rcases List.mem_append.1 ht with ht | ht
    · exact evaluate_of_parses h s t ht
    · obtain rfl := List.mem_singleton.1 ht
      exact evaluate_docsTree s
  rw [holds_any hall, List.any_append, List.any_cons, List.any_nil, holds_docsTree, Bool.or_false]

theorem isActive_compilePredicate (hne : texts ≠ [])
    (h : List.Forall₂ (fun text t => parse text = .ok t) texts ts) (s : Settings) :
    isActive s (Guard.mk (", ".intercalate texts)).compilePredicate =
      .ok (ts.any (holds s) || s.feature docsFeature) := by
  rw [isActive_of_parse (parse_compilePredicate hne h), holds_guard h]

/-- The complement is active where the guard is not. -/
theorem isActive_complementPredicate (hne : texts ≠ [])
    (h : List.Forall₂ (fun text t => parse text = .ok t) texts ts) (s : Settings) :
    isActive s (Guard.mk (", ".intercalate texts)).complementPredicate =
      .ok (!(ts.any (holds s) || s.feature docsFeature)) := by
  obtain ⟨ls, -, hd⟩ := lexes_of_parse (parse_compilePredicate hne h)
  rw [isActive_of_parse (parse_complementPredicate hne h), holds_not (evaluate_of_derives s hd),
    holds_guard h]

theorem isActive_docsConstraint (hne : texts ≠ [])
    (h : List.Forall₂ (fun text t => parse text = .ok t) texts ts) (s : Settings) :
    isActive s (docsConstraint texts) = .ok (ts.any (holds s)) := by
  obtain ⟨t, ht, rfl | rfl⟩ := parse_docsConstraint hne h
  · rw [isActive_of_parse ht]
    simp
  · rw [isActive_of_parse ht, holds_any (evaluate_of_parses h s)]

end Texts

/-! ## Attributes that are no guards -/

/-- Nor is anything behind a comment sign. -/
theorem ofAttribute?_of_comment {line : String} {indent : Int} {body : List Char}
    (hline : line.toList = (tabs indent).toList ++ '/' :: (body ++ [']'])) :
    ofAttribute? line = none :=
  ofAttribute?_eq_none hline (by decide) (by simp [attributeOpening])

theorem ofAttribute?_commented_compile (g : Guard) (indent : Int) :
    ofAttribute? (g.compileAttribute ⟨true, indent⟩) = none := by
  have hline : (g.compileAttribute ⟨true, indent⟩).toList = (tabs indent).toList ++
      '/' :: (("/#[cfg(any(" ++ g.cfg ++ ", " ++ docsPredicate ++ "))").toList ++ [']']) := by
    simp [Guard.compileAttribute, Margin.text, commentSign]
  exact ofAttribute?_of_comment hline

theorem ofAttribute?_commented_complement (g : Guard) (indent : Int) :
    ofAttribute? (g.complementAttribute ⟨true, indent⟩) = none := by
  have hline : (g.complementAttribute ⟨true, indent⟩).toList = (tabs indent).toList ++
      '/' :: (("/#[cfg(not(any(" ++ g.cfg ++ ", " ++ docsPredicate ++ ")))").toList ++ [']']) := by
    simp [Guard.complementAttribute, Margin.text, commentSign]
  exact ofAttribute?_of_comment hline

/-- A documentation attribute is no cfg attribute, whatever its predicate says. -/
theorem ofAttribute?_docAttribute (g : Guard) (m : Margin) :
    ofAttribute? (g.docAttribute m) = none := by
  obtain ⟨commented, indent⟩ := m
  cases commented with
  | true =>
    have hline : (g.docAttribute ⟨true, indent⟩).toList = (tabs indent).toList ++
        '/' :: (("/#[cfg_attr(" ++ docsPredicate ++ ", doc(cfg(" ++ g.cfg ++ ")))").toList ++
          [']']) := by
      simp [Guard.docAttribute, Margin.text, commentSign]
    exact ofAttribute?_of_comment hline
  | false =>
    have hline : (g.docAttribute ⟨false, indent⟩).toList = (tabs indent).toList ++
        '#' :: (("[cfg_attr(" ++ docsPredicate ++ ", doc(cfg(" ++ g.cfg ++ ")))").toList ++
          [']']) := by
      simp [Guard.docAttribute, Margin.text, commentSign]
    exact ofAttribute?_eq_none hline (by decide) (by simp [attributeOpening])

end Bindery
