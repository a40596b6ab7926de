import Bindery.Ordered
import Mathlib.Data.List.Pairwise

/-!
# Members and values of strictly increasing lists

Insertion adds one member and keeps the order. Changing the value at a key changes what is found
there and nothing else. A strictly increasing list is given by its members, and a map by what is
found in it.
-/

namespace Bindery.Ordered

open Std

variable {α κ β : Type}

/-! ## Sets -/

/-- Each element comes strictly before those behind it. -/
def Increasing (cmp : α → α → Ordering) (as : List α) : Prop := as.Pairwise fun a b => cmp a b = .lt

/-- Of lists in a strict order, those with the same members are the same. -/
theorem eq_of_mem_iff {r : α → α → Prop} (hasymm : ∀ a b, r a b → ¬r b a) {as bs : List α}
    (ha : as.Pairwise r) (hb : bs.Pairwise r) (h : ∀ a, a ∈ as ↔ a ∈ bs) : as = bs := by
  have hnodup : ∀ {cs : List α}, cs.Pairwise r → cs.Nodup := by
    intro cs hcs
    refine hcs.imp fun {a b} hab heq => ?_
    subst heq
    exact hasymm a a hab hab
  have hperm : as.Perm bs := (List.perm_ext_iff_of_nodup (hnodup ha) (hnodup hb)).2 h
  exact hperm.eq_of_pairwise (fun a b _ _ hab hba => absurd hba (hasymm a b hab)) ha hb

theorem Increasing.ext {cmp : α → α → Ordering} [OrientedCmp cmp] {as bs : List α}
    (ha : Increasing cmp as) (hb : Increasing cmp bs) (h : ∀ a, a ∈ as ↔ a ∈ bs) : as = bs :=
  eq_of_mem_iff (fun _ _ => OrientedCmp.not_lt_of_lt) ha hb h

section Sets

variable {cmp : α → α → Ordering} [LawfulEqCmp cmp] {a b : α} {as : List α}

theorem mem_insert : b ∈ insert cmp a as ↔ b = a ∨ b ∈ as := by
  induction as with
  | nil => simp [insert]
  | cons c cs ih =>
    rw [insert]
    split
    · simp
    · next h =>
      obtain rfl := LawfulEqCmp.eq_of_compare h
      simp
    · simp only [List.mem_cons, ih]
      exact or_left_comm

theorem mem_ofList : a ∈ ofList cmp as ↔ a ∈ as := by
  induction as with
  | nil => simp [ofList]
  | cons b as ih =>
    have hstep : ofList cmp (b :: as) = insert cmp b (ofList cmp as) := rfl
    rw [hstep, mem_insert, ih, List.mem_cons]

theorem ofList_eq_nil : ofList cmp as = [] ↔ as = [] := by
  simp only [List.eq_nil_iff_forall_not_mem, mem_ofList]

theorem compare_self_ne_lt : cmp a a ≠ .lt := by
  have hself : cmp a a = .eq := ReflCmp.compare_self
  rw [hself]
  decide

theorem Increasing.nodup (h : Increasing cmp as) : as.Nodup := by
  refine List.Pairwise.imp (fun {a b} hlt heq => ?_) h
  subst heq
  exact compare_self_ne_lt hlt

theorem Increasing.insert [TransCmp cmp] (h : Increasing cmp as) :
    Increasing cmp (insert cmp a as) := by
  induction as with
  | nil => exact List.pairwise_singleton _ _
  | cons c cs ih =>
    obtain ⟨hc, hcs⟩ := List.pairwise_cons.1 h
    rw [Ordered.insert]
    split
    · next hac =>
      refine List.pairwise_cons.2 ⟨fun d hd => ?_, h⟩
      rcases List.mem_cons.1 hd with rfl | hd
      · exact hac
      · exact TransCmp.lt_trans hac (hc d hd)
    · next hac =>
      obtain rfl := LawfulEqCmp.eq_of_compare hac
      exact h
    · next hac =>
      refine List.pairwise_cons.2 ⟨fun d hd => ?_, ih hcs⟩
      rcases mem_insert.1 hd with rfl | hd
      · exact OrientedCmp.lt_of_gt hac
      · exact hc d hd

theorem increasing_ofList [TransCmp cmp] (as : List α) : Increasing cmp (ofList cmp as) := by
  induction as with
  | nil => exact List.Pairwise.nil
  | cons a as ih => exact ih.insert

end Sets

/-! ## Maps -/

section Maps

variable {cmp : κ → κ → Ordering} {k l : κ} {v : β} {f : Option β → β} {p : κ × β}
  {ps : List (κ × β)}

theorem find?_cons : find? cmp k (p :: ps) =
    if cmp k p.1 = .eq then some p.2 else find? cmp k ps := by
  unfold find?
  rw [List.find?_cons]
  by_cases h : cmp k p.1 = .eq
  · simp [h]
  · have hfalse : (cmp k p.1 == .eq) = false := by simpa using h
    rw [hfalse, if_neg h]

/-- A key that comes before all others is not found. -/
theorem find?_eq_none (h : ∀ l ∈ ps.map (·.1), cmp k l = .lt) : find? cmp k ps = none := by
  induction ps with
  | nil => rfl
  | cons p ps ih =>
    have hp : cmp k p.1 = .lt := h _ (by simp)
    rw [find?_cons, hp, if_neg (by decide), ih fun l hl => h l (by simp [hl])]

/-- Maps with the same entries are the same. -/
theorem ext_entries [OrientedCmp cmp] {qs : List (κ × β)} (hp : Increasing cmp (ps.map (·.1)))
    (hq : Increasing cmp (qs.map (·.1))) (h : ∀ p, p ∈ ps ↔ p ∈ qs) : ps = qs :=
  eq_of_mem_iff (r := fun p q => cmp p.1 q.1 = .lt) (fun _ _ => OrientedCmp.not_lt_of_lt)
    (List.pairwise_map.1 hp) (List.pairwise_map.1 hq) h

variable [LawfulEqCmp cmp]

theorem keys_alter : (alter cmp k f ps).map (·.1) = insert cmp k (ps.map (·.1)) := by
  induction ps with
  | nil => rfl
  | cons p ps ih =>
    rw [alter, List.map_cons, insert]
    split
    · rfl
    · next h =>
      rw [LawfulEqCmp.eq_of_compare h]
      rfl
    · rw [List.map_cons, ih]

theorem find?_alter_self [TransCmp cmp] (h : Increasing cmp (ps.map (·.1))) :
    find? cmp k (alter cmp k f ps) = some (f (find? cmp k ps)) := by
  induction ps with
  | nil =>
    rw [alter, find?_cons, if_pos ReflCmp.compare_self]
    rfl
  | cons p ps ih =>
    obtain ⟨hp, hps⟩ := List.pairwise_cons.1 h
    rw [alter]
    split
    · next hlt =>
      have hnone : find? cmp k (p :: ps) = none := by
        refine find?_eq_none fun l hl => ?_
        rcases List.mem_cons.1 hl with rfl | hl
        · exact hlt
        · exact TransCmp.lt_trans hlt (hp l hl)
      rw [find?_cons, if_pos ReflCmp.compare_self, hnone]
    · next heq =>
      rw [find?_cons, if_pos heq, find?_cons, if_pos heq]
    · next hgt =>
      have hne : cmp k p.1 ≠ .eq := by rw [hgt]; decide
      rw [find?_cons, if_neg hne, ih hps, find?_cons, if_neg hne]

theorem find?_alter_of_ne (h : l ≠ k) : find? cmp l (alter cmp k f ps) = find? cmp l ps := by
  have hne : cmp l k ≠ .eq := fun heq => h (LawfulEqCmp.eq_of_compare heq)
  induction ps with
  | nil => rw [alter, find?_cons, if_neg hne]
  | cons p ps ih =>
    rw [alter]
    split
    · rw [find?_cons, if_neg hne]
    · next heq =>
      obtain rfl := LawfulEqCmp.eq_of_compare heq
      rw [find?_cons, if_neg hne, find?_cons, if_neg hne]
    · rw [find?_cons, find?_cons, ih]

/-- The entries of a map are what is found at their keys. -/
theorem mem_iff_find? (h : Increasing cmp (ps.map (·.1))) :
    (k, v) ∈ ps ↔ find? cmp k ps = some v := by
  induction ps with
  | nil => simp [find?]
  | cons p ps ih =>
    obtain ⟨hp, hps⟩ := List.pairwise_cons.1 h
    rw [find?_cons, List.mem_cons]
    by_cases hk : cmp k p.1 = .eq
    · obtain rfl := LawfulEqCmp.eq_of_compare hk
      have hnot : (p.1, v) ∉ ps := fun hmem => by
        exact compare_self_ne_lt (hp p.1 (List.mem_map.2 ⟨_, hmem, rfl⟩))
      rw [if_pos hk, or_iff_left hnot, Option.some.injEq, Prod.ext_iff, and_iff_right rfl]
      exact eq_comm
    · have hne : (k, v) ≠ p := by
        rintro rfl
        exact hk ReflCmp.compare_self
      rw [if_neg hk, or_iff_right hne, ih hps]

/-- Maps in which the same is found are the same. -/
theorem ext_find? [TransCmp cmp] {qs : List (κ × β)} (hp : Increasing cmp (ps.map (·.1)))
    (hq : Increasing cmp (qs.map (·.1))) (h : ∀ k, find? cmp k ps = find? cmp k qs) : ps = qs := by
  refine ext_entries hp hq fun ⟨k, v⟩ => ?_
  rw [mem_iff_find? hp, mem_iff_find? hq, h]

/-- Changing the value at a key changes the entry of that key. -/
theorem mem_alter [TransCmp cmp] (h : Increasing cmp (ps.map (·.1))) :
    (l, v) ∈ alter cmp k f ps ↔ (l = k ∧ v = f (find? cmp k ps)) ∨ (l ≠ k ∧ (l, v) ∈ ps) := by
  have hkeys : Increasing cmp ((alter cmp k f ps).map (·.1)) := by
    rw [keys_alter]
    exact h.insert
  rw [mem_iff_find? hkeys, mem_iff_find? h]
  by_cases hl : l = k
  · subst hl
    rw [find?_alter_self h]
    simp [eq_comm]
  · rw [find?_alter_of_ne hl]
    simp [hl]

end Maps

end Bindery.Ordered
