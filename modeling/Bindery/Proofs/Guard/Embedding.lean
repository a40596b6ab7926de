import Bindery.Proofs.Guard.Lines
import Bindery.Proofs.Guard.Reading

/-!
# Predicates inside guards

The meaning of the predicates that a guard is made of can be read off its attributes again, and
nothing is read off attributes that have no effect.
-/

namespace Bindery

open Text Predicate

/-! ## Lines that are no guards -/

/-- No line of a text whose lines are no cfg attributes is one. -/
theorem ofAttribute?_line {text : String} (hlines : '\n' ∉ text.toList)
    (h : ofAttribute? text = none) :
    ∀ l ∈ fields '\n' text.toList, ofAttribute? (String.ofList l) = none := by
  rw [fields_of_notMem hlines]
  simpa using h

/-- A guard and its documentation behind comment signs are two lines, neither of them a cfg
attribute. -/
theorem ofAttribute?_commented_render {g : Guard} (hg : '\n' ∉ g.cfg.toList) (indent : Int) :
    ∀ l ∈ fields '\n' (g.render true ⟨true, indent⟩).toList,
      ofAttribute? (String.ofList l) = none := by
  rw [fields_render hg]
  simp [ofAttribute?_commented_compile, ofAttribute?_docAttribute]

/-! ## Predicates embedded in guards -/

/-- Texts of predicates keep their meaning inside a guard, whose attributes hold two predicates, and
in the predicate that is documented. -/
structure Embeds (texts : List String) (ts : List Predicate) (indent : Int) (s : Settings)
    (c d : String) (b e : Bool) : Prop where
  compile : ofAttribute? ((Guard.mk (", ".intercalate texts)).compileAttribute ⟨false, indent⟩) =
    some c
  complement :
    ofAttribute? ((Guard.mk (", ".intercalate texts)).complementAttribute ⟨false, indent⟩) = some d
  /-- The first is read as `any` over the trees of the texts and the documentation feature. -/
  parse_compile : parse c = .ok (.call "any" (ts ++ [.keyValue "feature" "dox"]))
  /-- The second is read as the negation of that. -/
  parse_complement :
    parse d = .ok (.call "not" [.call "any" (ts ++ [.keyValue "feature" "dox"])])
  active_compile : isActive s c = .ok b
  active_complement : isActive s d = .ok (!b)
  /-- The guard is active where one of the texts is, or documentation is built. -/
  active_iff : b = true ↔ (∃ t ∈ ts, evaluate s t = .ok true) ∨ s.feature "dox" = true
  parse_docs : ∃ t, parse (docsConstraint texts) = .ok t ∧ (ts = [t] ∨ t = .call "any" ts)
  active_docs : isActive s (docsConstraint texts) = .ok e
  /-- The documented predicate is active where one of the texts is. -/
  docs_iff : e = true ↔ ∃ t ∈ ts, evaluate s t = .ok true

/-- Parsed texts keep their meaning inside a guard. Nothing is read back from a documentation
attribute, nor from any line behind a comment sign. -/
theorem guard_embeds :
    (∀ (texts : List String) (ts : List Predicate), texts ≠ [] →
      List.Forall₂ (fun text t => parse text = .ok t) texts ts →
      ∀ (indent : Int) (s : Settings), ∃ c d b e, Embeds texts ts indent s c d b e) ∧
    (∀ g : Guard, '\n' ∉ g.cfg.toList → ∀ indent : Int,
      ∀ text ∈ [g.compileAttribute ⟨true, indent⟩, g.docAttribute ⟨true, indent⟩,
        g.complementAttribute ⟨true, indent⟩, g.render true ⟨true, indent⟩,
        g.render false ⟨true, indent⟩, g.docAttribute ⟨false, indent⟩],
      ∀ line ∈ fields '\n' text.toList, ofAttribute? (String.ofList line) = none) ∧
    ∀ (g : Guard) (m : Margin), ofAttribute? (g.docAttribute m) = none := by
  refine ⟨?_, ?_, ofAttribute?_docAttribute⟩
  · intro texts ts hne h indent s
    have hsome : ts.any (holds s) = true ↔ ∃ t ∈ ts, evaluate s t = .ok true := by
      simp only [List.any_eq_true, holds_eq_true]
    refine ⟨_, _, _, _, Guard.ofAttribute?_compileAttribute _ _,
      Guard.ofAttribute?_complementAttribute _ _, parse_compilePredicate hne h,
      parse_complementPredicate hne h, isActive_compilePredicate hne h s,
      isActive_complementPredicate hne h s, ?_, parse_docsConstraint hne h,
      isActive_docsConstraint hne h s, hsome⟩
    rw [Bool.or_eq_true, hsome]
    exact Iff.rfl
  · intro g hg indent text htext
    have hcompile := ofAttribute?_line (newline_notMem_compile hg ⟨true, indent⟩)
      (ofAttribute?_commented_compile g indent)
    have hdoc := fun m =>
      ofAttribute?_line (newline_notMem_doc hg m) (ofAttribute?_docAttribute g m)
    have hcomplement := ofAttribute?_line (newline_notMem_complement hg ⟨true, indent⟩)
      (ofAttribute?_commented_complement g indent)
    simp only [List.mem_cons, List.not_mem_nil, or_false] at htext
    obtain rfl | rfl | rfl | rfl | rfl | rfl := htext
    · exact hcompile
    · exact hdoc _
    · exact hcomplement
    · exact ofAttribute?_commented_render hg indent
    · exact hcompile
    · exact hdoc _

/-- A flag beside a value that holds a comma and a parenthesis. -/
theorem guard_embeds_flag_beside_value : ∃ c d,
    ofAttribute? ((Guard.mk (", ".intercalate ["unix", "b = \"c,)\""])).compileAttribute
      ⟨false, 1⟩) = some c ∧
    ofAttribute? ((Guard.mk (", ".intercalate ["unix", "b = \"c,)\""])).complementAttribute
      ⟨false, 1⟩) = some d ∧
    parse c = .ok (.call "any" [.name "unix", .keyValue "b" "c,)", .keyValue "feature" "dox"]) ∧
    parse d = .ok (.call "not"
      [.call "any" [.name "unix", .keyValue "b" "c,)", .keyValue "feature" "dox"]]) := by
  have hplain : ∀ c ∈ "c,)".toList, c ≠ '"' ∧ c ≠ '\\' := by simp
  have hvalue : parse "b = \"c,)\"" = .ok (.keyValue "b" "c,)") := by
    rw [show "b = \"c,)\"" = "b" ++ " = \"" ++ "c,)" ++ "\"" by decide]
    exact parse_keyValue (by decide) hplain
  have hparse : List.Forall₂ (fun text t => parse text = .ok t) ["unix", "b = \"c,)\""]
      [.name "unix", .keyValue "b" "c,)"] :=
    .cons (parse_name (by decide)) (.cons hvalue .nil)
  obtain ⟨c, d, _, _, h⟩ :=
    guard_embeds.1 _ _ (by simp) hparse 1 ⟨fun _ => false, fun _ => false⟩
  exact ⟨c, d, h.compile, h.complement, h.parse_compile, h.parse_complement⟩

end Bindery
