import Bindery.Import.Group
import Bindery.Proofs.Import.Order
import Bindery.Proofs.Ordered
import Mathlib.Data.List.Induction

/-!
# Requests in groups

Each request is in the group of its key, and a group holds the symbols of its requests and no other,
each once.
-/

namespace Bindery

open Std

/-! ## Names -/

/-- A text is made of its parts around the first occurrence. -/
theorem splitFirst?_eq_some {pat cs as bs : List Char}
    (h : Text.splitFirst? pat cs = some (as, bs)) : as ++ (pat ++ bs) = cs := by
  induction cs generalizing as with
  | nil =>
    rw [Text.splitFirst?] at h
    split at h
    · next hpat =>
      cases h
      rw [List.isEmpty_iff.1 hpat]
      rfl
    · cases h
  | cons c cs ih =>
    rw [Text.splitFirst?] at h
    split at h
    · next hpat =>
      obtain ⟨ds, hds⟩ := List.isPrefixOf_iff_prefix.1 hpat
      cases h
      rw [← hds, List.drop_left, List.nil_append]
    · obtain ⟨⟨as', bs'⟩, hsplit, heq⟩ := Option.map_eq_some_iff.1 h
      cases heq
      rw [List.cons_append, ih hsplit]

/-- The qualified name of a request. -/
def ImportRequest.name (r : ImportRequest String) : String := r.crate ++ "::" ++ r.symbol

/-- A request has the name and the scope that it was made from. -/
theorem ofName_eq_ok {name : String} {sc : Scope String} {r : ImportRequest String}
    (h : ImportRequest.ofName name sc = .ok r) : r.name = name ∧ r.scope = sc := by
  unfold ImportRequest.ofName at h
  split at h
  · next crate symbol hsplit =>
    split at h
    · cases h
    · cases h
      refine ⟨String.toList_inj.1 ?_, rfl⟩
      rw [← splitFirst?_eq_some hsplit]
      simp [ImportRequest.name]
  · cases h

/-- Whether a name is accepted does not depend on its scope. -/
theorem ofName_of_ofName {name : String} {sc sc' : Scope String} {r : ImportRequest String}
    (h : ImportRequest.ofName name sc = .ok r) :
    ImportRequest.ofName name sc' = .ok { r with scope := sc' } := by
  unfold ImportRequest.ofName at h ⊢
  split at h
  · split at h
    · cases h
    · next hne =>
      cases h
      exact if_neg hne
  · cases h

/-! ## Groups -/

section Groups

variable {env : Env} {outer : Option Version}

/-- The groups of some requests before they are put in order. -/
def groupsOf (env : Env) (outer : Option Version) (rs : List (ImportRequest String)) :
    List (GroupKey String × List String) :=
  rs.foldl
    (fun groups r => ImportGroup.addSymbol (ImportGroup.keyOf env outer r) r.symbol groups) []

/-- Groups of requests: the keys are in order, and a symbol is under a key where a request has
both. -/
structure Groups (env : Env) (outer : Option Version) (rs : List (ImportRequest String))
    (groups : List (GroupKey String × List String)) : Prop where
  keys : Ordered.Increasing GroupKey.compare (groups.map (·.1))
  symbols : ∀ k ys, (k, ys) ∈ groups → Ordered.Increasing compare ys
  mem_iff : ∀ k y, (∃ ys, (k, ys) ∈ groups ∧ y ∈ ys) ↔
    ∃ r ∈ rs, ImportGroup.keyOf env outer r = k ∧ r.symbol = y

theorem groups_nil : Groups env outer [] [] where
  keys := List.Pairwise.nil
  symbols := by simp
  mem_iff := by simp

theorem Groups.add {rs : List (ImportRequest String)}
    {groups : List (GroupKey String × List String)} (h : Groups env outer rs groups)
    (r : ImportRequest String) :
    Groups env outer (rs ++ [r])
      (ImportGroup.addSymbol (ImportGroup.keyOf env outer r) r.symbol groups) where
  keys := by
    unfold ImportGroup.addSymbol
    rw [Ordered.keys_alter]
    exact h.keys.insert
  symbols := by
    intro k ys hys
    rcases (Ordered.mem_alter h.keys).1 hys with ⟨-, rfl⟩ | ⟨-, hys⟩
    · refine Ordered.Increasing.insert ?_
      cases hfind : Ordered.find? GroupKey.compare (ImportGroup.keyOf env outer r) groups with
      | none => exact List.Pairwise.nil
      | some zs => exact h.symbols _ zs ((Ordered.mem_iff_find? h.keys).2 hfind)
    · exact h.symbols k ys hys
  mem_iff := by
    intro k y
    have hlast : (∃ q ∈ rs ++ [r], ImportGroup.keyOf env outer q = k ∧ q.symbol = y) ↔
        (ImportGroup.keyOf env outer r = k ∧ r.symbol = y) ∨
          ∃ q ∈ rs, ImportGroup.keyOf env outer q = k ∧ q.symbol = y := by
      simp [or_and_right, exists_or, or_comm]
    rw [hlast, ← h.mem_iff]
    unfold ImportGroup.addSymbol
    simp only [Ordered.mem_alter h.keys]
    by_cases hk : k = ImportGroup.keyOf env outer r
    · have hold :
          y ∈ (Ordered.find? GroupKey.compare (ImportGroup.keyOf env outer r) groups).getD [] ↔
            ∃ ys, (ImportGroup.keyOf env outer r, ys) ∈ groups ∧ y ∈ ys := by
        simp only [Ordered.mem_iff_find? h.keys]
        cases Ordered.find? GroupKey.compare (ImportGroup.keyOf env outer r) groups <;> simp
      subst hk
      simp only [ne_eq, not_true_eq_false, false_and, or_false, true_and, exists_eq_left,
        Ordered.mem_insert, hold]
      exact or_congr_left eq_comm
    · have hk' : ImportGroup.keyOf env outer r ≠ k := Ne.symm hk
      simp [hk, hk']

theorem groups_groupsOf (env : Env) (outer : Option Version) (rs : List (ImportRequest String)) :
    Groups env outer rs (groupsOf env outer rs) := by
  induction rs using List.reverseRecOn with
  | nil => exact groups_nil
  | append_singleton rs r ih =>
    unfold groupsOf
    rw [List.foldl_append, List.foldl_cons, List.foldl_nil]
    exact ih.add r

end Groups

end Bindery
