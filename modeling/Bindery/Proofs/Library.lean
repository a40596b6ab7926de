import Bindery.Library
import Mathlib.Data.List.Induction
import Mathlib.Data.List.Nodup

/-!
# Looking up types and namespaces

Types that are added one after the other get ids of their own, so what is found by a property is
found by its id again.
-/

namespace Bindery

/-! ## The type table -/

namespace TypeTable

variable {τ σ : Type} {as : List (Int × τ)} {a : τ} {ns : Int} {id : TypeId} {p : τ → Bool}

/-- The table of some types, added in their order. -/
def ofList (as : List (Int × τ)) : TypeTable τ := as.foldl (fun t a => t.add a.1 a.2) {}

theorem ofList_concat (as : List (Int × τ)) (a : Int × τ) :
    ofList (as ++ [a]) = (ofList as).add a.1 a.2 := by
  unfold ofList
  rw [List.foldl_append, List.foldl_cons, List.foldl_nil]

/-- Entries under ids of their own, which are numbered from zero in each namespace. -/
structure Numbers (t : TypeTable τ) (as : List (Int × τ)) : Prop where
  types : t.entries.map (fun e => (e.1.ns, e.2)) = as
  nodup : (t.entries.map (·.1)).Nodup
  slot_lt : ∀ e ∈ t.entries, e.1.slot < t.countIn e.1.ns

theorem ofList_prefix (as bs : List (Int × τ)) :
    (ofList as).entries <+: (ofList (as ++ bs)).entries := by
  induction bs using List.reverseRecOn with
  | nil => exact ⟨[], by rw [List.append_nil, List.append_nil]⟩
  | append_singleton bs b ih =>
    rw [← List.append_assoc, ofList_concat]
    exact ih.trans (List.prefix_append _ _)

theorem countIn_le_countIn_add (t : TypeTable τ) (ns : Int) (a : τ) (other : Int) :
    t.countIn other ≤ (t.add ns a).countIn other := by
  unfold countIn add
  rw [List.countP_append]
  exact Nat.le_add_right _ _

theorem countIn_add_self (t : TypeTable τ) (ns : Int) (a : τ) :
    (t.add ns a).countIn ns = t.countIn ns + 1 := by
  unfold countIn add
  rw [List.countP_append]
  simp [nextId]

/-- The next id of a namespace is free. -/
theorem Numbers.nextId_notMem {t : TypeTable τ} (h : t.Numbers as) (ns : Int) :
    t.nextId ns ∉ t.entries.map (·.1) := by
  intro hmem
  obtain ⟨e, he, heq⟩ := List.mem_map.1 hmem
  have hlt := h.slot_lt e he
  rw [heq] at hlt
  exact Int.lt_irrefl _ hlt

theorem numbers_ofList (as : List (Int × τ)) : (ofList as).Numbers as := by
  induction as using List.reverseRecOn with
  | nil => exact ⟨rfl, List.nodup_nil, by simp [ofList]⟩
  | append_singleton as a ih =>
    rw [ofList_concat]
    refine ⟨?_, ?_, fun e he => ?_⟩
    · simp [add, nextId, ih.types]
    · simp only [add, List.map_append, List.map_cons, List.map_nil]
      exact ih.nodup.append (List.nodup_singleton _) (by simpa using ih.nextId_notMem a.1)
    · rcases List.mem_append.1 he with he | he
      · have hle := countIn_le_countIn_add (ofList as) a.1 a.2 e.1.ns
        exact Int.lt_of_lt_of_le (ih.slot_lt e he) (by exact_mod_cast hle)
      · obtain rfl := List.mem_singleton.1 he
        show ((ofList as).countIn a.1 : Int) < ((ofList as).add a.1 a.2).countIn a.1
        rw [countIn_add_self]
        exact Int.lt_succ _

/-- A namespace has as many places as types. -/
theorem countIn_ofList (as : List (Int × τ)) (ns : Int) :
    (ofList as).countIn ns = as.countP fun a => a.1 == ns := by
  conv_rhs => rw [← (numbers_ofList as).types, List.countP_map]
  rfl

theorem get?_eq_none_iff {t : TypeTable τ} : t.get? id = none ↔ id ∉ t.entries.map (·.1) := by
  unfold get?
  rw [Option.map_eq_none_iff, List.find?_eq_none, List.mem_map]
  constructor
  · rintro h ⟨e, he, heq⟩
    exact h e he (beq_iff_eq.2 heq)
  · intro h e he heq
    exact h ⟨e, he, beq_iff_eq.1 heq⟩

theorem get?_of_mem {t : TypeTable τ} (h : (t.entries.map (·.1)).Nodup)
    (hmem : (id, a) ∈ t.entries) : t.get? id = some a := by
  unfold get?
  cases hfind : t.entries.find? fun e => e.1 == id with
  | none => exact absurd (List.find?_eq_none.1 hfind _ hmem) (by simp)
  | some e =>
    have he : e.1 = id := by simpa using List.find?_some hfind
    obtain rfl := List.inj_on_of_nodup_map h (List.mem_of_find?_eq_some hfind) hmem he
    rfl

/-- What is found in a namespace by a property is a type that was added to it, and its id leads to
that type. -/
theorem find?_ofList (h : (ofList as).find? ns p = some id) :
    ∃ a, (ns, a) ∈ as ∧ p a = true ∧ id.ns = ns ∧ (ofList as).get? id = some a := by
  obtain ⟨⟨id', a⟩, hfind, rfl⟩ := Option.map_eq_some_iff.1 h
  have hnumbers := numbers_ofList as
  have hmem := List.mem_of_find?_eq_some hfind
  have hprop := List.find?_some hfind
  simp only [Bool.and_eq_true, beq_iff_eq] at hprop
  refine ⟨a, ?_, hprop.2, hprop.1, get?_of_mem hnumbers.nodup hmem⟩
  rw [← hnumbers.types, ← hprop.1]
  exact List.mem_map.2 ⟨_, hmem, rfl⟩

theorem exists_find? (h : (ns, a) ∈ as) (hp : p a = true) :
    ∃ id, (ofList as).find? ns p = some id := by
  rw [← (numbers_ofList as).types] at h
  obtain ⟨e, he, heq⟩ := List.mem_map.1 h
  cases heq
  unfold find?
  cases hfind : (ofList as).entries.find? fun e' => e'.1.ns == e.1.ns && p e'.2 with
  | none => exact absurd (List.find?_eq_none.1 hfind e he) (by simp [hp])
  | some e' => exact ⟨e'.1, rfl⟩

theorem find?_eq_none (h : ∀ b, (ns, b) ∈ as → p b = false) : (ofList as).find? ns p = none := by
  unfold find?
  rw [Option.map_eq_none_iff, List.find?_eq_none]
  intro e he hprop
  simp only [Bool.and_eq_true, beq_iff_eq] at hprop
  have hmem : (e.1.ns, e.2) ∈ as := by
    rw [← (numbers_ofList as).types]
    exact List.mem_map.2 ⟨e, he, rfl⟩
  rw [hprop.1] at hmem
  simp [h e.2 hmem] at hprop

/-- A type keeps the place that it was given, whatever is added after it. -/
theorem ofList_added (as : List (Int × τ)) (ns : Int) (a : τ) (bs : List (Int × τ)) :
    ∃ rest, (ofList (as ++ (ns, a) :: bs)).entries =
      (ofList as).entries ++ ((ofList as).nextId ns, a) :: rest := by
  obtain ⟨rest, hrest⟩ := ofList_prefix (as ++ [(ns, a)]) bs
  rw [ofList_concat] at hrest
  refine ⟨rest, ?_⟩
  simpa [add] using hrest.symm

theorem get?_added (as : List (Int × τ)) (ns : Int) (a : τ) (bs : List (Int × τ)) :
    (ofList (as ++ (ns, a) :: bs)).get? ((ofList as).nextId ns) = some a := by
  obtain ⟨rest, hrest⟩ := ofList_added as ns a bs
  exact get?_of_mem (numbers_ofList _).nodup (by simp [hrest])

/-- The first type of a namespace that has a property is found, whatever is added after it. -/
theorem find?_added (hfirst : ∀ b, (ns, b) ∈ as → p b = false) (hp : p a = true)
    (bs : List (Int × τ)) :
    (ofList (as ++ (ns, a) :: bs)).find? ns p = some ((ofList as).nextId ns) := by
  obtain ⟨rest, hrest⟩ := ofList_added as ns a bs
  have hnone := Option.map_eq_none_iff.1 (find?_eq_none hfirst)
  unfold find?
  rw [hrest, List.find?_append, hnone, List.find?_cons_of_pos (by simp [nextId, hp])]
  rfl

/-- Changing all types changes what an id leads to. -/
theorem get?_map (t : TypeTable τ) (f : τ → σ) (id : TypeId) :
    (⟨t.entries.map fun e => (e.1, f e.2)⟩ : TypeTable σ).get? id = (t.get? id).map f := by
  unfold get?
  simp [List.find?_map, Function.comp_def]

end TypeTable

/-! ## Ancestors -/

theorem mem_of_mem_activeAncestors {p : Ancestor} {ps : List Ancestor}
    (h : p ∈ activeAncestors ps) : p ∈ ps := (List.mem_filter.1 h).1

/-- Ancestors that are not wanted can be replaced by others that are not, few or many. -/
theorem activeAncestors_unwanted {hidden hidden' : List Ancestor}
    (hhidden : ∀ p ∈ hidden, p.status ≠ .active) (hhidden' : ∀ p ∈ hidden', p.status ≠ .active)
    (before after : List Ancestor) :
    activeAncestors (before ++ hidden ++ after) = activeAncestors (before ++ hidden' ++ after) := by
  have hnone : ∀ ps : List Ancestor, (∀ p ∈ ps, p.status ≠ .active) → activeAncestors ps = [] :=
    fun ps hps => List.filter_eq_nil_iff.2 fun p hp => by simpa using hps p hp
  have happend : ∀ ps, (∀ p ∈ ps, p.status ≠ .active) → activeAncestors (before ++ ps ++ after) =
      activeAncestors before ++ activeAncestors after := by
    intro ps hps
    have hempty := hnone ps hps
    unfold activeAncestors at hempty ⊢
    rw [List.filter_append, List.filter_append, hempty, List.append_nil]
  rw [happend hidden hhidden, happend hidden' hhidden']

/-! ## The library -/

namespace Library

variable {l : Library}

theorem findNamespace_eq_ok {id : Int} {n : Namespace} :
    l.findNamespace id = .ok n ↔ l.namespace? id = some n := by
  unfold findNamespace
  cases l.namespace? id <;> simp [Cause.throw]

theorem findType_eq_ok {id : TypeId} {t : LibraryType} :
    l.findType id = .ok t ↔ l.types.get? id = some t := by
  unfold findType
  cases l.types.get? id <;> simp

end Library

end Bindery
