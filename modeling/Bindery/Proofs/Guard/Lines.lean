import Bindery.Guard
import Bindery.Proofs.Text.Parts

/-!
# The lines of a guard

Each attribute of a guard is one line unless its predicate has several, and a guard with its
documentation is two.
-/

namespace Bindery

open Text

/-! ## Texts of one line -/

/-- Lines that are each ended are the fields of their text, before an empty one. -/
theorem fields_lines {ls : List (List Char)} (h : ∀ l ∈ ls, '\n' ∉ l) :
    fields '\n' (ls.flatMap fun l => l ++ ['\n']) = ls ++ [[]] := by
  induction ls with
  | nil => rfl
  | cons l ls ih =>
    rw [List.forall_mem_cons] at h
    rw [List.flatMap_cons, List.append_assoc, List.singleton_append, fields_append h.1, ih h.2]
    rfl

/-! ## Attributes -/

theorem margin_plain (m : Margin) : ∀ c ∈ m.text.toList, c = '\t' ∨ c = '/' := by
  intro c hc
  unfold Margin.text tabs commentSign at hc
  rw [String.toList_append, List.mem_append, String.toList_ofList] at hc
  rcases hc with hc | hc
  · exact .inl (List.eq_of_mem_replicate hc)
  · split_ifs at hc
    · exact .inr (by simpa using hc)
    · simp at hc

theorem newline_notMem_margin (m : Margin) : '\n' ∉ m.text.toList := by
  intro h
  rcases margin_plain m _ h with h | h <;> exact absurd h (by decide)

/-- A guard is printed above its documentation. -/
theorem toList_render (g : Guard) (m : Margin) : (g.render true m).toList =
    (g.compileAttribute m).toList ++ '\n' :: (g.docAttribute m).toList := by
  simp [Guard.render]

section Lines

variable {g : Guard} (hg : '\n' ∉ g.cfg.toList) (m : Margin)

include hg

theorem newline_notMem_compile : '\n' ∉ (g.compileAttribute m).toList := by
  have hdocs : '\n' ∉ docsPredicate.toList := by decide
  simp [Guard.compileAttribute, newline_notMem_margin, hg, hdocs]

theorem newline_notMem_doc : '\n' ∉ (g.docAttribute m).toList := by
  have hdocs : '\n' ∉ docsPredicate.toList := by decide
  simp [Guard.docAttribute, newline_notMem_margin, hg, hdocs]

theorem newline_notMem_complement : '\n' ∉ (g.complementAttribute m).toList := by
  have hdocs : '\n' ∉ docsPredicate.toList := by decide
  simp [Guard.complementAttribute, newline_notMem_margin, hg, hdocs]

/-- A guard and its documentation are on two lines. -/
theorem fields_render : fields '\n' (g.render true m).toList =
    [(g.compileAttribute m).toList, (g.docAttribute m).toList] := by
  rw [toList_render, fields_append (newline_notMem_compile hg m),
    fields_of_notMem (newline_notMem_doc hg m)]

end Lines

end Bindery
