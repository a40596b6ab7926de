import Bindery.Import.Group
import Bindery.Proofs.Ordered
import Bindery.Proofs.Version

/-!
# The order of groups

Scopes and group keys are in a linear order, so that a key is found where it was put.
-/

namespace Bindery

open Std

/-- Two projections that determine a value compare it faithfully, the first deciding before the
second. -/
theorem lawfulEqCmp_compareLex {α β γ : Type} [Ord β] [Ord γ] [LawfulEqOrd β] [LawfulEqOrd γ]
    {f : α → β} {g : α → γ} (h : ∀ a b, f a = f b → g a = g b → a = b) :
    LawfulEqCmp (compareLex (compareOn f) (compareOn g)) where
  compare_self := ReflCmp.compare_self
  eq_of_compare hcompare := by
    obtain ⟨hf, hg⟩ := compareLex_eq_eq.1 hcompare
    exact h _ _ (LawfulEqOrd.eq_of_compare hf) (LawfulEqOrd.eq_of_compare hg)

/-! ## Texts -/

theorem compare_eq_lt_iff {s t : String} : compare s t = .lt ↔ s < t := compareOfLessAndEq_eq_lt

/-- Lists of texts are in the order of their first difference, a list before those that it
begins. -/
theorem compareLex_eq_lt_iff {cs ds : List String} :
    List.compareLex compare cs ds = .lt ↔ cs < ds := by
  induction cs generalizing ds with
  | nil => cases ds <;> simp [List.compareLex]
  | cons c cs ih =>
    cases ds with
    | nil => simp [List.compareLex]
    | cons d ds =>
      rw [List.compareLex_cons_cons, Ordering.then_eq_lt, List.cons_lt_cons_iff, ih,
        compare_eq_lt_iff, Std.compare_eq_iff_eq]

theorem Ordered.Increasing.pairwise_lt {as : List String} (h : Increasing compare as) :
    as.Pairwise (· < ·) := h.imp compare_eq_lt_iff.1

variable {κ : Type} [Ord κ]

/-! ## Scopes -/

theorem compareOptional_eq :
    compareOptional = (compare : Option Version → Option Version → Ordering) := by
  funext v w
  cases v <;> cases w <;> rfl

theorem Scope.compare_eq : (Scope.compare : Scope κ → Scope κ → Ordering) =
    compareLex (compareOn Scope.constraints) (compareOn Scope.version) := by
  funext s t
  unfold Scope.compare
  rw [compareOptional_eq]
  rfl

instance : Ord (Scope κ) := ⟨Scope.compare⟩

instance [TransOrd κ] : TransOrd (Scope κ) := by
  show TransCmp Scope.compare
  rw [Scope.compare_eq]
  infer_instance

instance [LawfulEqOrd κ] : LawfulEqOrd (Scope κ) := by
  show LawfulEqCmp Scope.compare
  rw [Scope.compare_eq]
  refine lawfulEqCmp_compareLex fun s t hconstraints hversion => ?_
  cases s
  cases t
  exact Scope.mk.injEq .. ▸ ⟨hconstraints, hversion⟩

/-! ## Keys -/

theorem compareScopes_eq :
    compareScopes = (compare : Option (Scope κ) → Option (Scope κ) → Ordering) := by
  funext s t
  cases s <;> cases t <;> rfl

theorem GroupKey.compare_eq : (GroupKey.compare : GroupKey κ → GroupKey κ → Ordering) =
    compareLex (compareOn GroupKey.crate) (compareOn GroupKey.scope) := by
  funext k l
  unfold GroupKey.compare
  rw [compareScopes_eq]
  rfl

instance [TransOrd κ] : TransCmp (GroupKey.compare : GroupKey κ → GroupKey κ → Ordering) := by
  rw [GroupKey.compare_eq]
  infer_instance

instance [LawfulEqOrd κ] : LawfulEqCmp (GroupKey.compare : GroupKey κ → GroupKey κ → Ordering) := by
  rw [GroupKey.compare_eq]
  refine lawfulEqCmp_compareLex fun k l hcrate hscope => ?_
  cases k
  cases l
  exact GroupKey.mk.injEq .. ▸ ⟨hcrate, hscope⟩

end Bindery
