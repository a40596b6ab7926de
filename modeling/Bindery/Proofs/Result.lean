import Mathlib.Data.List.Forall2
import Mathlib.Data.List.Perm.Basic

/-!
# Results of computations that may fail

When a computation in several steps ends well, each of its steps did; when one over a list fails,
it fails at the first item that it fails at. A computation simulates another when it ends well
wherever the other does, with a related result.
-/

namespace Bindery

variable {ε α β γ δ : Type}

theorem ok_bind (a : α) (f : α → Except ε β) : (.ok a >>= f) = f a := rfl

theorem bind_eq_ok_iff {f : α → Except ε β} {x : Except ε α} {b : β} :
    x >>= f = .ok b ↔ ∃ a, x = .ok a ∧ f a = .ok b := by
  cases x with
  | error e => simp [bind, Except.bind]
  | ok a => simp [bind, Except.bind]

theorem map_eq_ok_iff {f : α → β} {x : Except ε α} {b : β} :
    x.map f = .ok b ↔ ∃ a, x = .ok a ∧ f a = b := by
  cases x with
  | error e => simp [Except.map]
  | ok a => simp [Except.map]

theorem map_eq_error_iff {f : α → β} {x : Except ε α} {e : ε} :
    x.map f = .error e ↔ x = .error e := by
  cases x with
  | error e => simp [Except.map]
  | ok a => simp [Except.map]

theorem allM_singleton {f : α → Except ε Bool} {a : α} {b : Bool} (h : f a = .ok b) :
    [a].allM f = .ok b := by
  rw [List.allM, h]
  cases b <;> rfl

/-- Where each item of a list has a result, so has the list. -/
theorem exists_mapM_eq_ok {f : α → Except ε β} {as : List α} (h : ∀ a ∈ as, ∃ b, f a = .ok b) :
    ∃ bs, as.mapM f = .ok bs ∧ ∀ b, b ∈ bs ↔ ∃ a ∈ as, f a = .ok b := by
  induction as with
  | nil => exact ⟨[], rfl, by simp⟩
  | cons a as ih =>
    obtain ⟨b, hb⟩ := h a (by simp)
    obtain ⟨bs, hbs, hmem⟩ := ih fun a' ha' => h a' (by simp [ha'])
    refine ⟨b :: bs, ?_, fun b' => ?_⟩
    · rw [List.mapM_cons, hb, hbs]
      rfl
    · rw [List.mem_cons, hmem]
      simp [hb, eq_comm]

theorem filterMap_eq_map {f : α → Option γ} {g : β → γ} {as : List α} {bs : List β}
    (h : List.Forall₂ (fun a b => f a = some (g b)) as bs) : as.filterMap f = bs.map g := by
  induction h with
  | nil => rfl
  | cons hab _ ih => rw [List.filterMap_cons_some hab, List.map_cons, ih]

theorem mapM_congr {f : α → Except ε γ} {g : β → Except ε γ} {as : List α} {bs : List β}
    (h : List.Forall₂ (fun a b => f a = g b) as bs) : as.mapM f = bs.mapM g := by
  induction h with
  | nil => rfl
  | cons hab _ ih => rw [List.mapM_cons, List.mapM_cons, hab, ih]

theorem mapM_eq_ok_iff {f : α → Except ε β} {as : List α} {bs : List β} :
    as.mapM f = .ok bs ↔ List.Forall₂ (fun a b => f a = .ok b) as bs := by
  induction as generalizing bs with
  | nil =>
    rw [List.mapM_nil, List.forall₂_nil_left_iff]
    exact ⟨fun h => (Except.ok.inj h).symm, fun h => h ▸ rfl⟩
  | cons a as ih =>
    rw [List.mapM_cons, List.forall₂_cons_left_iff, bind_eq_ok_iff]
    constructor
    · rintro ⟨b, hb, h⟩
      obtain ⟨cs, hcs, h⟩ := bind_eq_ok_iff.1 h
      exact ⟨b, cs, hb, ih.1 hcs, (Except.ok.inj h).symm⟩
    · rintro ⟨b, cs, hb, hcs, rfl⟩
      exact ⟨b, hb, bind_eq_ok_iff.2 ⟨cs, ih.2 hcs, rfl⟩⟩

theorem mapM_cons_eq_ok_iff {f : α → Except ε β} {a : α} {as : List α} {bs : List β} :
    (a :: as).mapM f = .ok bs ↔ ∃ b cs, f a = .ok b ∧ as.mapM f = .ok cs ∧ bs = b :: cs := by
  simp only [mapM_eq_ok_iff, List.forall₂_cons_left_iff]

/-- The items of a list that have a property, with their results. -/
theorem forall₂_of_mapM {P : α → Prop} {f : α → Except ε β} {as : List α} {bs : List β}
    (hP : ∀ a ∈ as, P a) (h : as.mapM f = .ok bs) :
    List.Forall₂ (fun a b => P a ∧ f a = .ok b) as bs :=
  (List.forall₂_and_left as bs).2 ⟨hP, mapM_eq_ok_iff.1 h⟩

/-- Lists are related in two steps where their items are. -/
theorem forall₂_comp_iff {R : α → β → Prop} {S : β → γ → Prop} {as : List α} {cs : List γ} :
    (∃ bs, List.Forall₂ R as bs ∧ List.Forall₂ S bs cs) ↔
      List.Forall₂ (fun a c => ∃ b, R a b ∧ S b c) as cs := by
  constructor
  · rintro ⟨bs, hR, hS⟩
    induction hR generalizing cs with
    | nil =>
      cases hS
      exact .nil
    | cons hab _ ih =>
      cases hS with
      | cons hbc hS => exact .cons ⟨_, hab, hbc⟩ (ih hS)
  · intro h
    induction h with
    | nil => exact ⟨[], .nil, .nil⟩
    | cons hac _ ih =>
      obtain ⟨b, hab, hbc⟩ := hac
      obtain ⟨bs, hR, hS⟩ := ih
      exact ⟨b :: bs, .cons hab hR, .cons hbc hS⟩

/-- Where each item of a list is related to something, so is the list. -/
theorem exists_forall₂ {R : α → β → Prop} {as : List α} (h : ∀ a ∈ as, ∃ b, R a b) :
    ∃ bs, List.Forall₂ R as bs := by
  induction as with
  | nil => exact ⟨[], .nil⟩
  | cons a as ih =>
    obtain ⟨b, hb⟩ := h a (by simp)
    obtain ⟨bs, hbs⟩ := ih fun a' ha' => h a' (by simp [ha'])
    exact ⟨b :: bs, .cons hb hbs⟩

/-- Each item of one of two related lists is related to one of the other. -/
theorem exists_of_forall₂ {R : α → β → Prop} {as : List α} {bs : List β}
    (h : List.Forall₂ R as bs) : (∀ b ∈ bs, ∃ a ∈ as, R a b) ∧ ∀ a ∈ as, ∃ b ∈ bs, R a b := by
  induction h with
  | nil => simp
  | cons hab _ ih =>
    obtain ⟨hright, hleft⟩ := ih
    refine ⟨?_, ?_⟩
    · rw [List.forall_mem_cons]
      exact ⟨⟨_, by simp, hab⟩, fun b hb => (hright b hb).imp fun a ⟨ha, hr⟩ => ⟨by simp [ha], hr⟩⟩
    · rw [List.forall_mem_cons]
      exact ⟨⟨_, by simp, hab⟩, fun a ha => (hleft a ha).imp fun b ⟨hb, hr⟩ => ⟨by simp [hb], hr⟩⟩

/-- Of the items of a list, none has a property, or one is the first that has it. -/
theorem exists_first (P : α → Prop) (as : List α) :
    (∀ a ∈ as, ¬P a) ∨
      ∃ front a back, as = front ++ a :: back ∧ (∀ b ∈ front, ¬P b) ∧ P a := by
  induction as with
  | nil => exact .inl (by simp)
  | cons a as ih =>
    by_cases ha : P a
    · exact .inr ⟨[], a, as, rfl, by simp, ha⟩
    · rcases ih with hnone | ⟨front, b, back, rfl, hfront, hb⟩
      · exact .inl (List.forall_mem_cons.2 ⟨ha, hnone⟩)
      · exact .inr ⟨a :: front, b, back, rfl, List.forall_mem_cons.2 ⟨ha, hfront⟩, hb⟩

/-- Over a list there is no result from the first item on that has none. -/
theorem mapM_eq_error {f : α → Except ε β} {front : List α} {a : α} {e : ε}
    (hfront : ∀ c ∈ front, ∃ b, f c = .ok b) (ha : f a = .error e) (back : List α) :
    (front ++ a :: back).mapM f = .error e := by
  induction front with
  | nil =>
    rw [List.nil_append, List.mapM_cons, ha]
    rfl
  | cons c front ih =>
    obtain ⟨⟨b, hb⟩, hfront⟩ := List.forall_mem_cons.1 hfront
    rw [List.cons_append, List.mapM_cons, hb, ih hfront]
    rfl

/-- Where not every item of a list has a result, the first without one decides. -/
theorem mapM_ok_or_error (f : α → Except ε β) (as : List α) :
    (∃ bs, as.mapM f = .ok bs ∧ ∀ a ∈ as, ∃ b, f a = .ok b) ∨
      ∃ front a back e, as = front ++ a :: back ∧ (∀ c ∈ front, ∃ b, f c = .ok b) ∧
        f a = .error e ∧ as.mapM f = .error e := by
  have hok : ∀ a, (¬∃ e, f a = .error e) → ∃ b, f a = .ok b := by
    intro a h
    cases ha : f a with
    | ok b => exact ⟨b, rfl⟩
    | error e => exact absurd ⟨e, ha⟩ h
  rcases exists_first (fun a => ∃ e, f a = .error e) as with
    hnone | ⟨front, a, back, rfl, hfront, e, ha⟩
  · have hall : ∀ a ∈ as, ∃ b, f a = .ok b := fun a ha => hok a (hnone a ha)
    obtain ⟨bs, hbs, -⟩ := exists_mapM_eq_ok hall
    exact .inl ⟨bs, hbs, hall⟩
  · have hall : ∀ c ∈ front, ∃ b, f c = .ok b := fun c hc => hok c (hfront c hc)
    exact .inr ⟨front, a, back, e, rfl, hall, ha, mapM_eq_error hall ha back⟩

/-! ## Simulation -/

/-- Where the first of two computations has a result, the second has one that is related to it. -/
def Simulates (R : α → β → Prop) (x : Except ε α) (y : Except ε β) : Prop :=
  ∀ a, x = .ok a → ∃ b, y = .ok b ∧ R a b

namespace Simulates

variable {R : α → β → Prop} {S : γ → δ → Prop}

theorem refl {T : α → α → Prop} {x : Except ε α} (h : ∀ a, x = .ok a → T a a) : Simulates T x x :=
  fun a ha => ⟨a, ha, h a ha⟩

theorem pure {a : α} {b : β} (h : R a b) : Simulates (ε := ε) R (.ok a) (.ok b) := by
  rintro _ ⟨rfl⟩
  exact ⟨b, rfl, h⟩

theorem bind {x : Except ε α} {y : Except ε β} {f : α → Except ε γ} {g : β → Except ε δ}
    (h : Simulates R x y) (hf : ∀ a b, x = .ok a → y = .ok b → R a b → Simulates S (f a) (g b)) :
    Simulates S (x >>= f) (y >>= g) := by
  intro c hc
  obtain ⟨a, ha, hc⟩ := bind_eq_ok_iff.1 hc
  obtain ⟨b, hb, hab⟩ := h a ha
  obtain ⟨d, hd, hcd⟩ := hf a b ha hb hab c hc
  exact ⟨d, bind_eq_ok_iff.2 ⟨b, hb, hd⟩, hcd⟩

/-- A step that both computations take alike. -/
theorem bind_same {x : Except ε α} {f : α → Except ε γ} {g : α → Except ε δ}
    (h : ∀ a, x = .ok a → Simulates S (f a) (g a)) : Simulates S (x >>= f) (x >>= g) := by
  refine bind (refl fun _ _ => rfl) fun a b ha _ hab => ?_
  obtain rfl : a = b := hab
  exact h a ha

theorem mapM {f : α → Except ε γ} {g : β → Except ε δ} {as : List α} {bs : List β}
    (h : List.Forall₂ (fun a b => Simulates S (f a) (g b)) as bs) :
    Simulates (List.Forall₂ S) (as.mapM f) (bs.mapM g) := by
  induction h with
  | nil => exact pure .nil
  | cons hab _ ih =>
    rw [List.mapM_cons, List.mapM_cons]
    exact hab.bind fun c d _ _ hcd => ih.bind fun cs ds _ _ hcds => pure (.cons hcd hcds)

/-- Items in another order have the same results in another order. -/
theorem mapM_perm {f : α → Except ε γ} {as bs : List α} (h : as.Perm bs) :
    Simulates List.Perm (as.mapM f) (bs.mapM f) := by
  intro cs hcs
  obtain ⟨ds, hds, hperm⟩ := (List.perm_comp_forall₂ h.symm (mapM_eq_ok_iff.1 hcs))
  exact ⟨ds, mapM_eq_ok_iff.2 hds, hperm.symm⟩

end Simulates

end Bindery
