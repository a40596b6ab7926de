import Bindery.Import.Basic
import Bindery.Proofs.Import.Order
import Bindery.Proofs.Version
import Mathlib.Data.List.Induction

/-!
# What is registered for a name

A name that was asked for several times is kept under a scope as weak as any of those it was asked
for under: without constraints if one of them has none, else with the constraints of all, and
without a version if one of them has none, else with the lowest.
-/

namespace Bindery

open Std

/-- One call that asks for a name. -/
structure Ask where
  name : String
  version : Option Version
  constraints : List String

/-- The scope that a call asks for. -/
def Ask.scope (a : Ask) : Scope String := Scope.of a.constraints a.version

/-- The imports after some calls. -/
def Imports.ofAsks (asks : List Ask) : Imports String :=
  asks.foldl (fun i a => i.add a.name a.version a.constraints) {}

/-- A scope made of those of some calls. -/
structure Scope.Merges (sc : Scope String) (asks : List Ask) : Prop where
  constraints_eq_nil : sc.constraints = [] ↔ ∃ a ∈ asks, a.constraints = []
  mem_constraints : sc.constraints ≠ [] →
    ∀ c, c ∈ sc.constraints ↔ ∃ a ∈ asks, c ∈ a.constraints
  version_eq_none : sc.version = none ↔ ∃ a ∈ asks, a.version = none
  exists_version : ∀ v ∈ sc.version, ∃ a ∈ asks, a.version = some v
  version_le : ∀ v ∈ sc.version, ∀ a ∈ asks, ∀ w ∈ a.version, v ≤ w

/-! ## Two scopes -/

section Merge

variable {cs ds : List String} {c : String} {u v w : Option Version}

theorem mergeConstraints_eq_nil : Scope.mergeConstraints cs ds = [] ↔ cs = [] ∨ ds = [] := by
  unfold Scope.mergeConstraints
  cases cs with
  | nil => simp
  | cons c cs =>
    cases ds with
    | nil => simp
    | cons d ds => simp

theorem mem_mergeConstraints (h : Scope.mergeConstraints cs ds ≠ []) :
    c ∈ Scope.mergeConstraints cs ds ↔ c ∈ cs ∨ c ∈ ds := by
  have hne := mt mergeConstraints_eq_nil.2 h
  rw [not_or] at hne
  unfold Scope.mergeConstraints
  simp [hne.1, hne.2]

theorem mergeVersions_eq_none : Scope.mergeVersions v w = none ↔ v = none ∨ w = none := by
  cases v <;> cases w <;> simp [Scope.mergeVersions]

/-- The merged version is one of the two and no later than either. -/
theorem mergeVersions_spec {n : Version} (h : n ∈ Scope.mergeVersions v w) :
    (n ∈ v ∨ n ∈ w) ∧ (∀ x ∈ v, n ≤ x) ∧ ∀ x ∈ w, n ≤ x := by
  cases v with
  | none => cases w <;> cases h
  | some v =>
    cases w with
    | none => cases h
    | some w =>
      simp only [Scope.mergeVersions, Option.mem_def, Option.some.injEq] at h ⊢
      by_cases hlt : w < v
      · rw [if_pos hlt] at h
        subst h
        exact ⟨.inr rfl, fun x hx => hx ▸ Version.le_of_lt hlt, fun x hx => hx ▸ Version.le_refl _⟩
      · rw [if_neg hlt] at h
        subst h
        exact ⟨.inl rfl, fun x hx => hx ▸ Version.le_refl _, fun x hx =>
          hx ▸ Version.le_of_not_lt hlt⟩

end Merge

/-! ## Scopes of several calls -/

theorem merges_scope (a : Ask) : a.scope.Merges [a] where
  constraints_eq_nil := by simp [Ask.scope, Scope.of, Ordered.ofList_eq_nil]
  mem_constraints := by simp [Ask.scope, Scope.of, Ordered.mem_ofList]
  version_eq_none := by simp [Ask.scope, Scope.of]
  exists_version := by simp [Ask.scope, Scope.of]
  version_le := by
    intro v hv b hb w hw
    obtain rfl := List.mem_singleton.1 hb
    obtain rfl : v = w := Option.some.inj (hv.symm.trans hw)
    exact Version.le_refl v

theorem Scope.Merges.weaken {sc : Scope String} {asks : List Ask} (h : sc.Merges asks) (a : Ask) :
    (sc.weaken a.scope).Merges (asks ++ [a]) where
  constraints_eq_nil := by
    simp only [Scope.weaken, Ask.scope, Scope.of, Ordered.ofList_eq_nil, mergeConstraints_eq_nil,
      h.constraints_eq_nil]
    simp [or_and_right, exists_or]
  mem_constraints := by
    simp only [Scope.weaken, Ask.scope, Scope.of, Ordered.ofList_eq_nil, Ordered.mem_ofList, ne_eq]
    intro hne c
    have hcs := mt (fun hnil => mergeConstraints_eq_nil.2 (.inl hnil)) hne
    rw [mem_mergeConstraints hne, h.mem_constraints hcs, Ordered.mem_ofList]
    simp [or_and_right, exists_or]
  version_eq_none := by
    simp only [Scope.weaken, Ask.scope, Scope.of, mergeVersions_eq_none, h.version_eq_none]
    simp [or_and_right, exists_or]
  exists_version := by
    intro v hv
    rcases (mergeVersions_spec hv).1 with hv | hv
    · obtain ⟨b, hb, hbv⟩ := h.exists_version v hv
      exact ⟨b, by simp [hb], hbv⟩
    · exact ⟨a, by simp, hv⟩
  version_le := by
    intro v hv b hb w hw
    obtain ⟨-, hold, hnew⟩ := mergeVersions_spec hv
    rcases List.mem_append.1 hb with hb | hb
    · cases hversion : sc.version with
      | none =>
        have hnone : (sc.weaken a.scope).version = none :=
          mergeVersions_eq_none.2 (.inl hversion)
        rw [hnone] at hv
        cases hv
      | some x => exact Version.le_trans (hold x hversion) (h.version_le x hversion b hb w hw)
    · obtain rfl := List.mem_singleton.1 hb
      exact hnew w hw

/-! ## Calls one after the other -/

section Add

variable {i : Imports String} {name other : String} {v : Option Version} {cs : List String}

theorem keys_add (h : Ordered.Increasing compare (i.entries.map (·.1))) :
    Ordered.Increasing compare ((i.add name v cs).entries.map (·.1)) := by
  unfold Imports.add
  rw [Ordered.keys_alter]
  exact h.insert

theorem scope?_add_self (h : Ordered.Increasing compare (i.entries.map (·.1))) :
    (i.add name v cs).scope? name =
      match i.scope? name with
      | none => some (Scope.of cs v)
      | some s => some (s.weaken (Scope.of cs v)) := by
  unfold Imports.add Imports.scope?
  rw [Ordered.find?_alter_self h]
  cases Ordered.find? compare name i.entries <;> rfl

theorem scope?_add_of_ne (h : other ≠ name) : (i.add name v cs).scope? other = i.scope? other :=
  Ordered.find?_alter_of_ne h

end Add

/-- The calls that ask for a name. -/
def asksFor (asks : List Ask) (name : String) : List Ask := asks.filter fun a => a.name = name

theorem mem_asksFor {asks : List Ask} {name : String} {a : Ask} :
    a ∈ asksFor asks name ↔ a ∈ asks ∧ a.name = name := by
  simp [asksFor]

theorem keys_ofAsks (asks : List Ask) :
    Ordered.Increasing compare ((Imports.ofAsks asks).entries.map (·.1)) := by
  induction asks using List.reverseRecOn with
  | nil => exact List.Pairwise.nil
  | append_singleton asks a ih =>
    unfold Imports.ofAsks
    rw [List.foldl_append, List.foldl_cons, List.foldl_nil]
    exact keys_add ih

/-- A name is registered when it was asked for, and then under what its calls merge to. -/
theorem scope?_ofAsks (asks : List Ask) (name : String) :
    ((Imports.ofAsks asks).scope? name = none ∧ asksFor asks name = []) ∨
      ∃ sc, (Imports.ofAsks asks).scope? name = some sc ∧ asksFor asks name ≠ [] ∧
        sc.Merges (asksFor asks name) := by
  induction asks using List.reverseRecOn with
  | nil => exact .inl ⟨rfl, rfl⟩
  | append_singleton asks a ih =>
    have hstep : Imports.ofAsks (asks ++ [a]) =
        (Imports.ofAsks asks).add a.name a.version a.constraints := by
      unfold Imports.ofAsks
      rw [List.foldl_append, List.foldl_cons, List.foldl_nil]
    have hfilter : asksFor (asks ++ [a]) name =
        asksFor asks name ++ if a.name = name then [a] else [] := by
      unfold asksFor
      rw [List.filter_append, List.filter_cons, List.filter_nil]
      simp
    rw [hstep, hfilter]
    by_cases hname : a.name = name
    · rw [if_pos hname]
      subst hname
      rw [scope?_add_self (keys_ofAsks asks)]
      refine .inr ?_
      obtain ⟨hnone, hasks⟩ | ⟨sc, hsc, -, hmerges⟩ := ih
      · rw [hnone, hasks]
        exact ⟨_, rfl, by simp, merges_scope a⟩
      · rw [hsc]
        exact ⟨_, rfl, by simp, hmerges.weaken a⟩
    · rw [if_neg hname, scope?_add_of_ne (Ne.symm hname), List.append_nil]
      exact ih

theorem merges_of_scope? {asks : List Ask} {name : String} {sc : Scope String}
    (h : (Imports.ofAsks asks).scope? name = some sc) :
    (∃ a ∈ asks, a.name = name) ∧ sc.Merges (asksFor asks name) := by
  obtain ⟨hnone, -⟩ | ⟨sc', hsc, hne, hmerges⟩ := scope?_ofAsks asks name
  · rw [hnone] at h
    cases h
  · rw [h] at hsc
    obtain rfl := Option.some.inj hsc
    obtain ⟨a, ha⟩ := List.exists_mem_of_ne_nil _ hne
    exact ⟨⟨a, mem_asksFor.1 ha⟩, hmerges⟩

theorem exists_scope? {asks : List Ask} {a : Ask} (ha : a ∈ asks) :
    ∃ sc, (Imports.ofAsks asks).scope? a.name = some sc := by
  obtain ⟨-, hnil⟩ | ⟨sc, hsc, -⟩ := scope?_ofAsks asks a.name
  · have hcall : a ∈ asksFor asks a.name := mem_asksFor.2 ⟨ha, rfl⟩
    rw [hnil] at hcall
    cases hcall
  · exact ⟨sc, hsc⟩

/-! ## The names -/

/-- The names of imports. -/
def Imports.names (i : Imports String) : List String := i.entries.map (·.1)

theorem names_ofAsks_increasing (asks : List Ask) :
    (Imports.ofAsks asks).names.Pairwise (· < ·) := (keys_ofAsks asks).pairwise_lt

/-- The names are those that were asked for. -/
theorem mem_names_ofAsks {asks : List Ask} {name : String} :
    name ∈ (Imports.ofAsks asks).names ↔ name ∈ asks.map Ask.name := by
  have hentry : ∀ {sc}, (name, sc) ∈ (Imports.ofAsks asks).entries ↔
      (Imports.ofAsks asks).scope? name = some sc := Ordered.mem_iff_find? (keys_ofAsks asks)
  constructor
  · intro h
    obtain ⟨⟨_, sc⟩, he, rfl⟩ := List.mem_map.1 h
    obtain ⟨⟨a, ha, hname⟩, -⟩ := merges_of_scope? (hentry.1 he)
    exact List.mem_map.2 ⟨a, ha, hname⟩
  · intro h
    obtain ⟨a, ha, rfl⟩ := List.mem_map.1 h
    obtain ⟨sc, hsc⟩ := exists_scope? ha
    exact List.mem_map.2 ⟨_, hentry.2 hsc, rfl⟩

end Bindery
