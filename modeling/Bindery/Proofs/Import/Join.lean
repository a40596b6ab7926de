import Bindery.Import.Group
import Bindery.Proofs.Import.Order
import Bindery.Proofs.Import.Registered

/-!
# Registered scopes as joins

One scope covers another when it asks for no more. What is registered for a name is the least scope
that covers all that the name was asked for under, and so it depends on which calls were made, but
not on their order nor on how often each was made.
-/

namespace Bindery

open Std

/-! ## Scopes that cover others -/

/-- Whether a scope asks for no more than another: it has no constraints, or all those that the
other has; and no version, or one that comes no later. -/
structure Scope.Covers (t s : Scope String) : Prop where
  constraints : t.constraints = [] ∨ s.constraints ≠ [] ∧ ∀ c ∈ s.constraints, c ∈ t.constraints
  version : ∀ v ∈ t.version, ∃ w ∈ s.version, v ≤ w

/-- A merged scope is the least that covers those it was made of. -/
theorem Scope.Merges.covers_iff {sc t : Scope String} {asks : List Ask} (h : sc.Merges asks) :
    t.Covers sc ↔ ∀ a ∈ asks, t.Covers a.scope := by
  constructor
  · intro ht a ha
    constructor
    · rcases ht.constraints with hnil | ⟨hne, hmem⟩
      · exact .inl hnil
      · have hfull : a.constraints ≠ [] := fun hnil => hne (h.constraints_eq_nil.2 ⟨a, ha, hnil⟩)
        refine .inr ⟨mt Ordered.ofList_eq_nil.1 hfull, fun c hc => hmem c ?_⟩
        exact (h.mem_constraints hne c).2 ⟨a, ha, Ordered.mem_ofList.1 hc⟩
    · intro v hv
      obtain ⟨w, hw, hvw⟩ := ht.version v hv
      have hversion : a.version ≠ none := fun hnone => by
        rw [h.version_eq_none.2 ⟨a, ha, hnone⟩] at hw
        cases hw
      obtain ⟨x, hx⟩ := Option.ne_none_iff_exists'.1 hversion
      exact ⟨x, hx, Version.le_trans hvw (h.version_le w hw a ha x hx)⟩
  · intro ht
    constructor
    · by_cases hnil : t.constraints = []
      · exact .inl hnil
      · have hall : ∀ a ∈ asks, a.constraints ≠ [] ∧ ∀ c ∈ a.constraints, c ∈ t.constraints := by
          intro a ha
          obtain ⟨hne, hmem⟩ := (ht a ha).constraints.resolve_left hnil
          exact ⟨fun h => hne (Ordered.ofList_eq_nil.2 h),
            fun c hc => hmem c (Ordered.mem_ofList.2 hc)⟩
        have hne : sc.constraints ≠ [] := fun hsc => by
          obtain ⟨a, ha, hempty⟩ := h.constraints_eq_nil.1 hsc
          exact (hall a ha).1 hempty
        refine .inr ⟨hne, fun c hc => ?_⟩
        obtain ⟨a, ha, hca⟩ := (h.mem_constraints hne c).1 hc
        exact (hall a ha).2 c hca
    · intro v hv
      cases hversion : sc.version with
      | none =>
        obtain ⟨a, ha, hnone⟩ := h.version_eq_none.1 hversion
        obtain ⟨w, hw, -⟩ := (ht a ha).version v hv
        rw [show a.scope.version = none from hnone] at hw
        cases hw
      | some x =>
        obtain ⟨a, ha, hx⟩ := h.exists_version x hversion
        obtain ⟨w, hw, hvw⟩ := (ht a ha).version v hv
        obtain rfl : x = w := Option.some.inj (hx.symm.trans hw)
        exact ⟨x, rfl, hvw⟩

/-- What a scope covers adds nothing to it. -/
theorem Scope.weaken_of_covers {t s : Scope String}
    (ht : Ordered.Increasing Ord.compare t.constraints) (h : t.Covers s) : t.weaken s = t := by
  obtain ⟨cs, version⟩ := t
  have hconstraints : Ordered.ofList Ord.compare (mergeConstraints cs s.constraints) = cs := by
    refine (Ordered.increasing_ofList _).ext ht fun c => ?_
    rw [Ordered.mem_ofList]
    rcases h.constraints with hnil | ⟨hne, hmem⟩
    · rw [mergeConstraints_eq_nil.2 (.inl hnil), show cs = [] from hnil]
    · by_cases hnil : cs = []
      · rw [mergeConstraints_eq_nil.2 (.inl hnil), hnil]
      · have hmerge : mergeConstraints cs s.constraints ≠ [] := fun h =>
          (mergeConstraints_eq_nil.1 h).elim hnil hne
        rw [mem_mergeConstraints hmerge]
        exact or_iff_left_of_imp (hmem c)
  have hversion : mergeVersions version s.version = version := by
    cases version with
    | none => exact mergeVersions_eq_none.2 (.inl rfl)
    | some v =>
      obtain ⟨w, hw, hvw⟩ := h.version v rfl
      rw [show s.version = some w from hw, mergeVersions,
        if_neg fun hlt => Version.not_le.2 hlt hvw]
  rw [weaken, hversion, Scope.of, hconstraints]

/-! ## What calls determine -/

/-- Whether two calls ask for the same: the name and the version are the same, and so are the
constraints as a set. -/
structure Ask.Alike (a b : Ask) : Prop where
  name : a.name = b.name
  version : a.version = b.version
  mem_constraints : ∀ c, c ∈ a.constraints ↔ c ∈ b.constraints

theorem Ask.Alike.refl (a : Ask) : a.Alike a := ⟨rfl, rfl, fun _ => Iff.rfl⟩

theorem Ask.Alike.symm {a b : Ask} (h : a.Alike b) : b.Alike a :=
  ⟨h.name.symm, h.version.symm, fun c => (h.mem_constraints c).symm⟩

theorem Ask.Alike.constraints_eq_nil {a b : Ask} (h : a.Alike b) (hnil : a.constraints = []) :
    b.constraints = [] := by
  rw [List.eq_nil_iff_forall_not_mem]
  intro c hc
  rw [← h.mem_constraints, hnil] at hc
  cases hc

/-- Whether each of some calls is alike to one of others. -/
def Within (asks asks' : List Ask) : Prop := ∀ a ∈ asks, ∃ b ∈ asks', a.Alike b

theorem within_asksFor {asks asks' : List Ask} (h : Within asks asks') (name : String) :
    Within (asksFor asks name) (asksFor asks' name) := by
  intro a ha
  obtain ⟨hmem, hname⟩ := mem_asksFor.1 ha
  obtain ⟨b, hb, hab⟩ := h a hmem
  exact ⟨b, mem_asksFor.2 ⟨hb, hab.name.symm.trans hname⟩, hab⟩

section Determined

variable {asks asks' : List Ask} {sc sc' : Scope String} (h : sc.Merges asks)
  (h' : sc'.Merges asks') (hasks : Within asks asks')

include h h' hasks

theorem Scope.Merges.constraints_eq_nil_of_within (hnil : sc.constraints = []) :
    sc'.constraints = [] := by
  obtain ⟨a, ha, hempty⟩ := h.constraints_eq_nil.1 hnil
  obtain ⟨b, hb, hab⟩ := hasks a ha
  exact h'.constraints_eq_nil.2 ⟨b, hb, hab.constraints_eq_nil hempty⟩

theorem Scope.Merges.mem_of_within (hne : sc'.constraints ≠ []) {c : String}
    (hc : c ∈ sc.constraints) : c ∈ sc'.constraints := by
  obtain ⟨a, ha, hca⟩ := (h.mem_constraints (List.ne_nil_of_mem hc) c).1 hc
  obtain ⟨b, hb, hab⟩ := hasks a ha
  exact (h'.mem_constraints hne c).2 ⟨b, hb, (hab.mem_constraints c).1 hca⟩

theorem Scope.Merges.version_eq_none_of_within (hnone : sc.version = none) :
    sc'.version = none := by
  obtain ⟨a, ha, hversion⟩ := h.version_eq_none.1 hnone
  obtain ⟨b, hb, hab⟩ := hasks a ha
  exact h'.version_eq_none.2 ⟨b, hb, hab.version ▸ hversion⟩

theorem Scope.Merges.version_le_of_within {v w : Version} (hv : sc.version = some v)
    (hw : sc'.version = some w) : w ≤ v := by
  obtain ⟨a, ha, hav⟩ := h.exists_version v hv
  obtain ⟨b, hb, hab⟩ := hasks a ha
  exact h'.version_le w hw b hb v (hab.version ▸ hav)

end Determined

/-- Calls that ask for the same merge to the same scope. -/
theorem Scope.Merges.eq_of_within {asks asks' : List Ask} {sc sc' : Scope String}
    (h : sc.Merges asks) (h' : sc'.Merges asks') (hasks : Within asks asks')
    (hasks' : Within asks' asks) (hsc : Ordered.Increasing Ord.compare sc.constraints)
    (hsc' : Ordered.Increasing Ord.compare sc'.constraints) : sc = sc' := by
  have hconstraints : sc.constraints = sc'.constraints := by
    by_cases hnil : sc.constraints = []
    · rw [hnil, h.constraints_eq_nil_of_within h' hasks hnil]
    · have hnil' := mt (h'.constraints_eq_nil_of_within h hasks') hnil
      exact hsc.ext hsc' fun c =>
        ⟨h.mem_of_within h' hasks hnil', h'.mem_of_within h hasks' hnil⟩
  have hversion : sc.version = sc'.version := by
    cases hv : sc.version with
    | none => rw [h.version_eq_none_of_within h' hasks hv]
    | some v =>
      cases hw : sc'.version with
      | none => rw [h'.version_eq_none_of_within h hasks' hw] at hv; cases hv
      | some w =>
        rw [Version.le_antisymm (h'.version_le_of_within h hasks' hw hv)
          (h.version_le_of_within h' hasks hv hw)]
  cases sc
  cases sc'
  exact Scope.mk.injEq .. ▸ ⟨hconstraints, hversion⟩

/-! ## Registered scopes -/

theorem ofAsks_concat (asks : List Ask) (a : Ask) : Imports.ofAsks (asks ++ [a]) =
    (Imports.ofAsks asks).add a.name a.version a.constraints := by
  unfold Imports.ofAsks
  rw [List.foldl_append, List.foldl_cons, List.foldl_nil]

theorem mem_entries_iff {asks : List Ask} {name : String} {sc : Scope String} :
    (name, sc) ∈ (Imports.ofAsks asks).entries ↔ (Imports.ofAsks asks).scope? name = some sc :=
  Ordered.mem_iff_find? (keys_ofAsks asks)

/-- The constraints of a registered scope are in order, each once. -/
theorem increasing_of_scope? {asks : List Ask} {name : String} {sc : Scope String}
    (h : (Imports.ofAsks asks).scope? name = some sc) :
    Ordered.Increasing compare sc.constraints := by
  induction asks using List.reverseRecOn generalizing sc with
  | nil => cases h
  | append_singleton asks a ih =>
    rw [ofAsks_concat] at h
    by_cases hname : name = a.name
    · subst hname
      rw [scope?_add_self (keys_ofAsks asks)] at h
      split at h <;> cases h <;> exact Ordered.increasing_ofList _
    · rw [scope?_add_of_ne hname] at h
      exact ih h

/-- Imports in which the same scopes are registered are the same. -/
theorem ofAsks_ext {asks asks' : List Ask}
    (h : ∀ name, (Imports.ofAsks asks).scope? name = (Imports.ofAsks asks').scope? name) :
    Imports.ofAsks asks = Imports.ofAsks asks' :=
  congrArg Imports.mk (Ordered.ext_find? (keys_ofAsks asks) (keys_ofAsks asks') h)

/-- What is registered depends on what was asked for only. -/
theorem ofAsks_eq_of_within {asks asks' : List Ask} (h : Within asks asks')
    (h' : Within asks' asks) : Imports.ofAsks asks = Imports.ofAsks asks' := by
  refine ofAsks_ext fun name => ?_
  have hname := within_asksFor h name
  have hname' := within_asksFor h' name
  obtain ⟨hnone, hnil⟩ | ⟨sc, hsc, hne, hmerges⟩ := scope?_ofAsks asks name
  · obtain ⟨hnone', -⟩ | ⟨sc', -, hne', -⟩ := scope?_ofAsks asks' name
    · rw [hnone, hnone']
    · obtain ⟨b, hb⟩ := List.exists_mem_of_ne_nil _ hne'
      obtain ⟨a, ha, -⟩ := hname' b hb
      rw [hnil] at ha
      cases ha
  · obtain ⟨-, hnil'⟩ | ⟨sc', hsc', -, hmerges'⟩ := scope?_ofAsks asks' name
    · obtain ⟨a, ha⟩ := List.exists_mem_of_ne_nil _ hne
      obtain ⟨b, hb, -⟩ := hname a ha
      rw [hnil'] at hb
      cases hb
    · rw [hsc, hsc', hmerges.eq_of_within hmerges' hname hname' (increasing_of_scope? hsc)
        (increasing_of_scope? hsc')]

theorem ofAsks_same {asks asks' : List Ask} (h : ∀ a, a ∈ asks' ↔ a ∈ asks) :
    Imports.ofAsks asks' = Imports.ofAsks asks :=
  ofAsks_eq_of_within (fun a ha => ⟨a, (h a).1 ha, .refl a⟩) fun a ha => ⟨a, (h a).2 ha, .refl a⟩

/-- A call whose scope is covered already changes nothing. -/
theorem ofAsks_concat_of_covers {asks : List Ask} {a : Ask} {sc : Scope String}
    (hsc : (Imports.ofAsks asks).scope? a.name = some sc) (h : sc.Covers a.scope) :
    Imports.ofAsks (asks ++ [a]) = Imports.ofAsks asks := by
  refine ofAsks_ext fun name => ?_
  rw [ofAsks_concat]
  by_cases hname : name = a.name
  · subst hname
    have hweaken : sc.weaken (Scope.of a.constraints a.version) = sc :=
      Scope.weaken_of_covers (increasing_of_scope? hsc) h
    rw [scope?_add_self (keys_ofAsks asks), hsc]
    simp only [hweaken]
  · exact scope?_add_of_ne hname

/-! ## The join -/

/-- Imports are the join of some calls. -/
structure IsJoin (asks : List Ask) (i : Imports String) : Prop where
  /-- Each name is held once. -/
  increasing : (i.entries.map (·.1)).Pairwise (· < ·)
  /-- The names are those that were asked for. -/
  mem_iff : ∀ name, name ∈ i.entries.map (·.1) ↔ ∃ a ∈ asks, a.name = name
  /-- The scope of a name merges those of its calls. -/
  merges : ∀ name sc, (name, sc) ∈ i.entries → sc.Merges (asksFor asks name)
  /-- Its constraints are in order, each once. -/
  ordered : ∀ name sc, (name, sc) ∈ i.entries → sc.constraints.Pairwise (· < ·)
  /-- It is the least scope that covers those of its calls. -/
  least : ∀ name sc, (name, sc) ∈ i.entries → ∀ t : Scope String,
    t.Covers sc ↔ ∀ a ∈ asksFor asks name, t.Covers a.scope
  /-- A further call leaves the scopes of other names as they are. -/
  frame : ∀ a other, other ≠ a.name →
    (Imports.ofAsks (asks ++ [a])).scope? other = i.scope? other
  /-- It changes nothing at all when its scope is covered already. -/
  absorbs : ∀ a sc, (a.name, sc) ∈ i.entries → sc.Covers a.scope →
    Imports.ofAsks (asks ++ [a]) = i
  /-- Calls in another order or made repeatedly give the same requests. -/
  same_requests : ∀ asks', (∀ a, a ∈ asks' ↔ a ∈ asks) →
    (Imports.ofAsks asks').requests = i.requests
  /-- They give the same statements as well. -/
  same_uses : ∀ asks', (∀ a, a ∈ asks' ↔ a ∈ asks) → ∀ env outer,
    Emit.uses env (Imports.ofAsks asks') outer = Emit.uses env i outer

/-- What all calls together have registered is their join. -/
theorem registered_join (asks : List Ask) : IsJoin asks (Imports.ofAsks asks) where
  increasing := (keys_ofAsks asks).pairwise_lt
  mem_iff name := by
    constructor
    · intro hname
      obtain ⟨⟨_, sc⟩, he, rfl⟩ := List.mem_map.1 hname
      exact (merges_of_scope? (mem_entries_iff.1 he)).1
    · rintro ⟨a, ha, rfl⟩
      obtain ⟨sc, hsc⟩ := exists_scope? ha
      exact List.mem_map.2 ⟨_, mem_entries_iff.2 hsc, rfl⟩
  merges name sc hsc := (merges_of_scope? (mem_entries_iff.1 hsc)).2
  ordered name sc hsc := (increasing_of_scope? (mem_entries_iff.1 hsc)).pairwise_lt
  least name sc hsc _ := (merges_of_scope? (mem_entries_iff.1 hsc)).2.covers_iff
  frame a other hother := by
    rw [ofAsks_concat]
    exact scope?_add_of_ne hother
  absorbs a sc hsc hcovers := ofAsks_concat_of_covers (mem_entries_iff.1 hsc) hcovers
  same_requests asks' hasks := by rw [ofAsks_same hasks]
  same_uses asks' hasks env outer := by rw [ofAsks_same hasks]

/-- Three calls for one name, of which the last has no version. -/
def unixAsks : List Ask :=
  [⟨"glib::Object", some ⟨2, 60, 0⟩, ["windows"]⟩, ⟨"glib::Object", some ⟨2, 58, 0⟩, ["unix"]⟩,
    ⟨"glib::Object", none, ["unix"]⟩]

theorem registered_join_unixAsks :
    ("glib::Object", ⟨["unix", "windows"], none⟩) ∈ (Imports.ofAsks unixAsks).entries ∧
      Scope.Merges ⟨["unix", "windows"], none⟩ unixAsks ∧
      (Imports.ofAsks (unixAsks ++ [⟨"gio::File", none, []⟩])).scope? "glib::Object" =
        (Imports.ofAsks unixAsks).scope? "glib::Object" ∧
      Imports.ofAsks (unixAsks ++ [⟨"glib::Object", some ⟨2, 60, 0⟩, ["windows"]⟩]) =
        Imports.ofAsks unixAsks ∧
      (Imports.ofAsks (unixAsks.reverse ++ unixAsks)).requests =
        (Imports.ofAsks unixAsks).requests := by
  have hjoin := registered_join unixAsks
  have hentry : ("glib::Object", ⟨["unix", "windows"], none⟩) ∈
      (Imports.ofAsks unixAsks).entries := by decide
  refine ⟨hentry, hjoin.merges _ _ hentry, hjoin.frame _ _ (by decide),
    hjoin.absorbs _ _ hentry ⟨?_, ?_⟩, hjoin.same_requests _ fun a => by simp⟩
  · exact .inr (by decide)
  · simp

end Bindery
