import Bindery.Text.Blank
import Bindery.Text.Search
import Mathlib.Data.List.TakeWhile
import Mathlib.Tactic.SplitIfs

/-!
# Parts of a text

Blanks are taken off the two ends of a text and from nowhere else, and the fields of a text are what
stands between its separators.
-/

namespace Bindery.Text

/-! ## Blanks at the ends -/

theorem dropWhile_of_head? {α : Type} {p : α → Bool} {as : List α}
    (h : ∀ a ∈ as.head?, p a = false) : as.dropWhile p = as := by
  cases as with
  | nil => rfl
  | cons a as => exact List.dropWhile_cons_of_neg (by simp [h a rfl])

/-- A text that begins and ends with other characters than blanks is what is left of it. -/
theorem strip_gaps {ws cs us : List Char} (hws : ∀ c ∈ ws, isBlank c = true)
    (hus : ∀ c ∈ us, isBlank c = true) (hfirst : ∀ c ∈ cs.head?, isBlank c = false)
    (hlast : ∀ c ∈ cs.getLast?, isBlank c = false) : strip (ws ++ (cs ++ us)) = cs := by
  have hback : ∀ c ∈ us.reverse, isBlank c = true := fun c hc => hus c (List.mem_reverse.1 hc)
  unfold strip
  rw [List.dropWhile_append_of_pos hws]
  cases cs with
  | nil => simp [List.dropWhile_eq_nil_iff.2 hus]
  | cons c cs =>
    have hfront : (c :: cs ++ us).dropWhile isBlank = c :: cs ++ us := dropWhile_of_head? hfirst
    rw [hfront, List.reverse_append, List.dropWhile_append_of_pos hback, dropWhile_of_head?,
      List.reverse_reverse]
    rwa [List.head?_reverse]

/-- What is taken off the ends of a text are blanks. -/
theorem exists_gaps (cs : List Char) : ∃ ws us, (∀ c ∈ ws, isBlank c = true) ∧
    (∀ c ∈ us, isBlank c = true) ∧ cs = ws ++ (strip cs ++ us) := by
  refine ⟨cs.takeWhile isBlank, ((cs.dropWhile isBlank).reverse.takeWhile isBlank).reverse,
    fun c hc => List.mem_takeWhile_imp hc,
    fun c hc => List.mem_takeWhile_imp (List.mem_reverse.1 hc), ?_⟩
  unfold strip
  rw [← List.reverse_append, List.takeWhile_append_dropWhile, List.reverse_reverse,
    List.takeWhile_append_dropWhile]

/-! ## Fields -/

theorem fields_eq_splitOn (sep : Char) (cs : List Char) : fields sep cs = cs.splitOn sep := by
  induction cs with
  | nil => rfl
  | cons c cs ih =>
    rw [fields, List.splitOn_cons_eq_if_modifyHead, ih]
    by_cases hc : c = sep
    · rw [if_pos hc, if_pos (beq_iff_eq.2 hc)]
    · rw [if_neg hc, if_neg (mt beq_iff_eq.1 hc)]
      cases hsplit : cs.splitOn sep with
      | nil => exact absurd hsplit (List.splitOn_ne_nil sep cs)
      | cons f fs => rfl

theorem fields_ne_nil (sep : Char) (cs : List Char) : fields sep cs ≠ [] := by
  rw [fields_eq_splitOn]
  exact List.splitOn_ne_nil sep cs

theorem fields_of_notMem {sep : Char} {cs : List Char} (h : sep ∉ cs) : fields sep cs = [cs] := by
  rw [fields_eq_splitOn, List.splitOn_eq_singleton h]

theorem fields_append {sep : Char} {cs : List Char} (h : sep ∉ cs) (ds : List Char) :
    fields sep (cs ++ sep :: ds) = cs :: fields sep ds := by
  rw [fields_eq_splitOn, fields_eq_splitOn, List.splitOn_append_cons_self_of_not_mem h]

/-- Fields with the separator between them make up the text again. -/
theorem intercalate_fields (sep : Char) (cs : List Char) :
    [sep].intercalate (fields sep cs) = cs := by
  rw [fields_eq_splitOn, List.intercalate_splitOn]

theorem fields_intercalate {sep : Char} {fs : List (List Char)} (hne : fs ≠ [])
    (h : ∀ f ∈ fs, sep ∉ f) : fields sep ([sep].intercalate fs) = fs := by
  rw [fields_eq_splitOn, List.splitOn_intercalate sep h hne]

/-- Fields side by side hold what each of them does, and separators. -/
theorem mem_intercalate {sep c : Char} {fs : List (List Char)} (h : c ∈ [sep].intercalate fs) :
    c = sep ∨ ∃ f ∈ fs, c ∈ f := by
  induction fs with
  | nil => cases h
  | cons f fs ih =>
    cases fs with
    | nil =>
      rw [List.intercalate_singleton] at h
      exact .inr ⟨f, by simp, h⟩
    | cons g gs =>
      rw [List.intercalate_cons_cons, List.append_assoc, List.mem_append, List.mem_append,
        List.mem_singleton] at h
      rcases h with h | h | h
      · exact .inr ⟨f, by simp, h⟩
      · exact .inl h
      · exact (ih h).imp id fun ⟨e, he, hc⟩ => ⟨e, List.mem_cons_of_mem _ he, hc⟩

/-! ## The last of its kind -/

/-- Where two lists are parted by their last `a`, they are parted alike. -/
theorem append_cons_inj {α : Type} {a : α} {as bs as' bs' : List α} (h : a ∉ bs) (h' : a ∉ bs')
    (heq : as ++ a :: bs = as' ++ a :: bs') : as = as' ∧ bs = bs' := by
  rcases List.append_eq_append_iff.1 heq with ⟨cs, rfl, hcs⟩ | ⟨cs, rfl, hcs⟩
  · cases cs with
    | nil => simpa using hcs
    | cons c cs =>
      obtain ⟨rfl, rfl⟩ := List.cons.inj hcs
      exact absurd (by simp) h
  · cases cs with
    | nil => simpa using hcs.symm
    | cons c cs =>
      obtain ⟨rfl, rfl⟩ := List.cons.inj hcs
      exact absurd (by simp) h'

end Bindery.Text
