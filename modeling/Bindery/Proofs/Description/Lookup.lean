import Bindery.Description.Bindings
import Bindery.Proofs.Description.Entries

/-!
# Names of namespaces and types

A namespace is known by its name and a type by that of its namespace and its own. What is read for
a name is found again by the id that was read.
-/

namespace Bindery.Description

variable {ns : List NamespaceEntry} {v : Json} {name place : String} {id : Nat}

/-! ## Namespaces -/

theorem idOf?_eq_some (h : idOf? ns name = some id) : ∃ n, ns[id]? = some n ∧ n.name = name := by
  obtain ⟨j, hj, rfl⟩ := Option.map_eq_some_iff.1 h
  obtain ⟨hlt, hname, -⟩ := List.findIdx?_eq_some_iff_getElem.1 hj
  rw [List.getElem_reverse] at hname
  exact ⟨_, List.getElem?_eq_getElem _, by simpa using hname⟩

theorem exists_idOf? {n : NamespaceEntry} (h : n ∈ ns) : ∃ id, idOf? ns n.name = some id := by
  unfold idOf?
  cases hfind : ns.reverse.findIdx? fun m => m.name == n.name with
  | none =>
    have hnone := List.findIdx?_eq_none_iff.1 hfind n (List.mem_reverse.2 h)
    simp at hnone
  | some j => exact ⟨_, rfl⟩

theorem namespaceId_eq_ok {i : Int} : namespaceId ns (.string name) place = .ok i ↔
    ∃ id : Nat, idOf? ns name = some id ∧ i = id := by
  simp only [namespaceId]
  cases idOf? ns name with
  | none => simp [refuse]
  | some id => simp [eq_comm]

/-! ## Types -/

theorem same_string (s t : String) : Json.same (.string s) (.string t) = (s == t) := by
  rw [Json.same]

/-- A type that was read: the namespace with its id has the name that was given, and so has it. -/
structure IsType (ns : List NamespaceEntry) (v : Json) (t : Int × TypeEntry) : Prop where
  exists_namespace : ∃ (n : String) (id : Nat),
    textAt? v "namespace" = some n ∧ idOf? ns n = some id ∧ t.1 = id
  exists_name : ∃ s, textAt? v "name" = some s ∧ t.2.name = .string s

theorem isType_of_read {t : Int × TypeEntry} (h : typeForm v = true)
    (hread : readType ns v = .ok t) : IsType ns v t := by
  have hmatches := (yields_readType h).of_eq_ok hread
  obtain ⟨s, hs⟩ := isText_iff.1 (form_of_field? (f := isText) h (by simp) hmatches.name)
  refine ⟨hmatches.exists_id, s, ?_, hs⟩
  rw [textAt?, hmatches.name, hs]
  rfl

/-- The types that are read, in the table that they are added to. -/
theorem readTypes_eq_ok {vs : List Json} {types : TypeTable TypeEntry} :
    readTypes ns vs = .ok types ↔
      ∃ ts, vs.mapM (readType ns) = .ok ts ∧ types = TypeTable.ofList ts := by
  unfold readTypes
  rw [bind_eq_ok_iff]
  refine exists_congr fun ts => and_congr Iff.rfl ?_
  exact ⟨fun h => (Except.ok.inj h).symm, fun h => congrArg _ h.symm⟩

/-- What is found under a name in a namespace was read for a type of that name there, and its id
leads to it. -/
theorem find?_of_readTypes {vs : List Json} {types : TypeTable TypeEntry} {tid : TypeId}
    (hread : readTypes ns vs = .ok types) (hvs : ∀ v ∈ vs, typeForm v = true)
    (hfind : types.find? id (fun t => t.name.same (.string name)) = some tid) :
    ∃ v ∈ vs, ∃ e, readType ns v = .ok ((id : Int), e) ∧ e.name = .string name ∧ tid.ns = id ∧
      types.get? tid = some e := by
  obtain ⟨ts, hts, rfl⟩ := readTypes_eq_ok.1 hread
  obtain ⟨e, hmem, hsame, hns, hget⟩ := TypeTable.find?_ofList hfind
  obtain ⟨v, hv, hve⟩ := (exists_of_forall₂ (mapM_eq_ok_iff.1 hts)).1 _ hmem
  obtain ⟨s, -, hs⟩ := (isType_of_read (hvs v hv) hve).exists_name
  rw [hs, same_string, beq_iff_eq] at hsame
  exact ⟨v, hv, e, hve, hsame ▸ hs, hns, hget⟩

theorem TypeEntry.name?_type {e : TypeEntry} {s : String} (h : e.name = .string s) :
    e.type.name? = some s := by
  unfold TypeEntry.type
  rw [h]
  cases e.kind <;> rfl

theorem namespace?_library (d : Description) (id : Nat) :
    d.library.namespace? id = d.namespaces[id]?.map NamespaceEntry.ns := by
  unfold Library.namespace? library
  rw [if_neg (by omega), Int.toNat_natCast, List.getElem?_map]

theorem get?_library (d : Description) (tid : TypeId) :
    d.library.types.get? tid = (d.types.get? tid).map TypeEntry.type :=
  TypeTable.get?_map d.types TypeEntry.type tid

theorem findNamespace_library {d : Description} {n : NamespaceEntry}
    (h : d.namespaces[id]? = some n) : d.library.findNamespace id = .ok n.ns := by
  rw [Library.findNamespace_eq_ok, namespace?_library, h]
  rfl

theorem findType_library {d : Description} {tid : TypeId} {e : TypeEntry}
    (h : d.types.get? tid = some e) : d.library.findType tid = .ok e.type := by
  rw [Library.findType_eq_ok, get?_library, h]
  rfl

end Bindery.Description
