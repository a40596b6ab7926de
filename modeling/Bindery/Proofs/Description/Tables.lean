import Bindery.Proofs.Agreement
import Bindery.Proofs.Description.Reading

/-!
# Namespaces and types in another order

Ids of namespaces and types depend on the order in which a description lists them. What a name
stands for does not, as long as no name stands for two things.
-/

namespace Bindery.Description

/-- The namespace and the name of a type. -/
def typeName? (v : Json) : Option (String × String) := do
  return (← textAt? v "namespace", ← textAt? v "name")

theorem typeName?_eq {v : Json} {n s : String} (hn : textAt? v "namespace" = some n)
    (hs : textAt? v "name" = some s) : typeName? v = some (n, s) := by
  unfold typeName?
  rw [hn, hs]
  rfl

/-- What is found under distinct names is found once. -/
theorem eq_of_nodup_filterMap {α β : Type} {f : α → Option β} {as : List α} {a b : α} {x : β}
    (h : (as.filterMap f).Nodup) (ha : a ∈ as) (hb : b ∈ as) (hax : f a = some x)
    (hbx : f b = some x) : a = b := by
  by_contra hne
  have hpairwise := List.pairwise_filterMap.1 h
  have hsymm : Std.Symm fun a b => ∀ x ∈ f a, ∀ y ∈ f b, x ≠ y :=
    ⟨fun _ _ hab x hx y hy => (hab y hy x hx).symm⟩
  exact hpairwise.forall ha hb hne x hax x hbx rfl

/-- Two descriptions with the same namespaces, of which the first is the same, and with the same
types, both in other orders. No two namespaces have the same name, and no two types of a
namespace. -/
structure SameTables (vs vs' : List Json) (d d' : Description) : Prop where
  main : d.namespaces.head? = d'.namespaces.head?
  namespaces : d.namespaces.Perm d'.namespaces
  nodup : (d.namespaces.map NamespaceEntry.name).Nodup
  types : readTypes d.namespaces vs = .ok d.types
  types' : readTypes d'.namespaces vs' = .ok d'.types
  perm : vs.Perm vs'
  form : ∀ v ∈ vs, typeForm v = true
  distinct : (vs.filterMap typeName?).Nodup

/-! ## Reading a type -/

section Reading

variable {ns ns' : List NamespaceEntry} {v x : Json} {place : String}

theorem simulates_namespaceId (h : ∀ n ∈ ns, n ∈ ns') :
    Simulates (fun _ _ => True) (namespaceId ns x place) (namespaceId ns' x place) := by
  intro i hi
  cases x with
  | string name =>
    obtain ⟨id, hid, rfl⟩ := namespaceId_eq_ok.1 hi
    obtain ⟨n, hn, rfl⟩ := idOf?_eq_some hid
    obtain ⟨id', hid'⟩ := exists_idOf? (h n (List.mem_of_getElem? hn))
    exact ⟨id', namespaceId_eq_ok.2 ⟨id', hid', rfl⟩, trivial⟩
  | _ => cases hi

/-- A type is read the same whatever the ids of the namespaces are. -/
theorem simulates_readType (h : ∀ n ∈ ns, n ∈ ns') :
    Simulates (fun t t' => t.2 = t'.2) (readType ns v) (readType ns' v) := by
  unfold readType
  refine .bind_same fun _ _ => .bind_same fun _ _ => .bind (simulates_namespaceId h)
    fun id id' _ _ _ => .bind_same fun kind _ => .bind_same fun name _ => .bind_same fun cType _ =>
      .bind_same fun getType _ => ?_
  split
  · exact .bind_same fun refFn _ => .bind_same fun unrefFn _ => .pure rfl
  · exact .pure rfl
  · exact .pure rfl
  · exact nofun

end Reading

/-- What was read for a name in a namespace has that name there. -/
theorem typeName?_of_read {ns : List NamespaceEntry} {v : Json} {n s : String} {id : Nat}
    {e : TypeEntry} (h : typeForm v = true) (hread : readType ns v = .ok ((id : Int), e))
    (hid : idOf? ns n = some id) (he : e.name = .string s) : typeName? v = some (n, s) := by
  have htype := isType_of_read h hread
  obtain ⟨n', id', hn', hid', heq⟩ := htype.exists_namespace
  obtain ⟨s', hs', he'⟩ := htype.exists_name
  obtain rfl : id = id' := Int.ofNat_inj.1 heq
  obtain ⟨m, hm, rfl⟩ := idOf?_eq_some hid
  obtain ⟨m', hm', rfl⟩ := idOf?_eq_some hid'
  obtain rfl : s' = s := Json.string.inj (he'.symm.trans he)
  rw [typeName?_eq hn' hs', Option.some.inj (hm.symm.trans hm')]

/-! ## What names stand for -/

section Same

variable {vs vs' : List Json} {d d' : Description} {n s : String} {id : Nat}
  (h : SameTables vs vs' d d')

include h

/-- A name stands for the same namespace in both orders. -/
theorem SameTables.idOf? (hid : idOf? d.namespaces n = some id) :
    ∃ (m : NamespaceEntry) (id' : Nat), d.namespaces[id]? = some m ∧ m.name = n ∧
      Description.idOf? d'.namespaces n = some id' ∧ d'.namespaces[id']? = some m ∧
      (id = 0 ↔ id' = 0) := by
  obtain ⟨m, hm, hname⟩ := idOf?_eq_some hid
  have hmem := List.mem_of_getElem? hm
  obtain ⟨id', hid'⟩ := exists_idOf? (h.namespaces.subset hmem)
  rw [hname] at hid'
  obtain ⟨m', hm', hname'⟩ := idOf?_eq_some hid'
  have hmem' := h.namespaces.symm.subset (List.mem_of_getElem? hm')
  obtain rfl := List.inj_on_of_nodup_map h.nodup hmem hmem' (hname.trans hname'.symm)
  refine ⟨m, id', hm, hname, hid', hm', ?_⟩
  have hnodup := List.Nodup.of_map _ h.nodup
  have hnodup' := h.namespaces.nodup_iff.1 hnodup
  have hlt := (List.getElem?_eq_some_iff.1 hm).1
  have hlt' := (List.getElem?_eq_some_iff.1 hm').1
  have hmain := h.main
  rw [List.head?_eq_getElem?, List.head?_eq_getElem?] at hmain
  constructor
  · rintro rfl
    exact (List.getElem?_inj hlt' hnodup').1 (hm'.trans (hm.symm.trans hmain))
  · rintro rfl
    exact (List.getElem?_inj hlt hnodup).1 (hm.trans (hm'.symm.trans hmain.symm))

/-- A name stands for the same type in both orders. -/
theorem SameTables.find? {id' : Nat} {tid : TypeId}
    (hid : Description.idOf? d.namespaces n = some id)
    (hid' : Description.idOf? d'.namespaces n = some id')
    (hfind : d.types.find? id (fun t => t.name.same (.string s)) = some tid) :
    ∃ tid' e, d'.types.find? id' (fun t => t.name.same (.string s)) = some tid' ∧
      tid.ns = id ∧ tid'.ns = id' ∧ d.types.get? tid = some e ∧ d'.types.get? tid' = some e := by
  have hform' : ∀ v ∈ vs', typeForm v = true := fun v hv => h.form v (h.perm.mem_iff.2 hv)
  obtain ⟨v, hv, e, hread, he, hns, hget⟩ := find?_of_readTypes h.types h.form hfind
  have hv' := h.perm.subset hv
  have hname := typeName?_of_read (h.form v hv) hread hid he
  -- The type is read in the other order too, under the other id of its namespace.
  obtain ⟨⟨i, _⟩, hread', rfl⟩ := simulates_readType (fun _ hm => h.namespaces.subset hm) _ hread
  obtain ⟨n', id₁, hn', hid₁, rfl⟩ := (isType_of_read (h.form v hv) hread').exists_namespace
  have hname' := typeName?_of_read (h.form v hv) hread' hid₁ he
  obtain rfl : n' = n := congrArg Prod.fst (Option.some.inj (hname'.symm.trans hname))
  obtain rfl : id₁ = id' := Option.some.inj (hid₁.symm.trans hid')
  -- So something is found there, which is that type since no other has its name.
  obtain ⟨ts', hts', htypes'⟩ := readTypes_eq_ok.1 h.types'
  obtain ⟨t, ht, htread⟩ := (exists_of_forall₂ (mapM_eq_ok_iff.1 hts')).2 v hv'
  obtain rfl := Except.ok.inj (hread'.symm.trans htread)
  obtain ⟨tid', hfind'⟩ := TypeTable.exists_find? (p := fun t => t.name.same (.string s)) ht
    (by simp [he, same_string])
  rw [← htypes'] at hfind'
  obtain ⟨w, hw, e', hread'', he', hns', hget'⟩ := find?_of_readTypes h.types' hform' hfind'
  have hwname := typeName?_of_read (hform' w hw) hread'' hid' he'
  obtain rfl := eq_of_nodup_filterMap h.distinct hv (h.perm.mem_iff.2 hw) hname hwname
  cases hread'.symm.trans hread''
  exact ⟨tid', _, hfind', hns, hns', hget, hget'⟩

/-- An ancestor stands for the same type in both orders. -/
theorem SameTables.alike {a a' : AncestorEntry} {e : TypeEntry}
    (hid : Description.idOf? d.namespaces n = some id) (hns : a.id.ns = id)
    (hget : d.types.get? a.id = some e) {id' : Nat}
    (hid' : Description.idOf? d'.namespaces n = some id') (hns' : a'.id.ns = id')
    (hget' : d'.types.get? a'.id = some e) (hname : a.name = a'.name)
    (hstatus : a.status = a'.status) :
    a.ancestor.Alike d.library d'.library a'.ancestor := by
  obtain ⟨m, id₁, hm, -, hid₁, hm', hzero⟩ := h.idOf? hid
  obtain rfl : id₁ = id' := Option.some.inj (hid₁.symm.trans hid')
  refine ⟨hname, hstatus, ?_, ?_, ?_⟩
  · show a.id.ns = 0 ↔ a'.id.ns = 0
    rw [hns, hns', Int.natCast_eq_zero, Int.natCast_eq_zero]
    exact hzero
  · show d.library.findNamespace a.id.ns = d'.library.findNamespace a'.id.ns
    rw [hns, hns', findNamespace_library hm, findNamespace_library hm']
  · show d.library.findType a.id = d'.library.findType a'.id
    rw [findType_library hget, findType_library hget']

theorem SameTables.simulates_readAncestor {v : Json} {place : String} (hv : ancestorForm v = true) :
    Simulates (fun a a' => a.ancestor.Alike d.library d'.library a'.ancestor)
      (readAncestor d.namespaces d.types place v)
      (readAncestor d'.namespaces d'.types place v) := by
  unfold readAncestor
  refine .bind_same fun x hx => ?_
  obtain ⟨n, rfl, -⟩ := require_text hv (by simp) hx
  refine .bind (simulates_namespaceId fun _ hm => h.namespaces.subset hm)
    fun i i' hi hi' _ => .bind_same fun y hy => ?_
  obtain ⟨id, hid, rfl⟩ := namespaceId_eq_ok.1 hi
  obtain ⟨id', hid', rfl⟩ := namespaceId_eq_ok.1 hi'
  obtain ⟨s, rfl, -⟩ := require_text hv (by simp) hy
  cases hfind : d.types.find? id fun t => t.name.same (.string s) with
  | none => exact nofun
  | some tid =>
    obtain ⟨tid', e, hfind', hns, hns', hget, hget'⟩ := h.find? hid hid' hfind
    rw [hfind']
    exact .bind_same fun status _ => .bind_same fun _ _ =>
      .pure (h.alike hid hns hget hid' hns' hget' rfl rfl)

end Same

end Bindery.Description
