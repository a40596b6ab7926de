import Bindery.Proofs.Library

/-!
# The ids of what is added to a library

Namespaces and types are added to a library in any order. Each addition returns an id that none
before it returned, and this id leads to what was added, however much is added after it.

The place of a type is counted anew for each addition. That the count is a free place is the
invariant `TypeTable.Numbers`.
-/

namespace Bindery

/-! ## Additions -/

/-- What can be added to a library. -/
inductive Addition
  | ofNamespace (n : Namespace)
  | ofType (ns : Int) (t : LibraryType)

/-- The id that an addition returns. -/
inductive AddedId
  | ofNamespace (id : Int)
  | ofType (id : TypeId)

/-- The namespace that is added. -/
def Addition.namespace? : Addition → Option Namespace
  | ofNamespace n => some n
  | ofType _ _ => none

/-- The type that is added, with its namespace. -/
def Addition.type? : Addition → Option (Int × LibraryType)
  | ofNamespace _ => none
  | ofType ns t => some (ns, t)

namespace Library

/-- Adds to a library, and returns the id of what was added: the place of a namespace, which is now
the last one, or the next free place of a type. -/
def add (l : Library) : Addition → Library × AddedId
  | .ofNamespace n =>
    (l.addNamespace n, .ofNamespace ((l.addNamespace n).namespaces.length - 1))
  | .ofType ns t => (l.addType ns t, .ofType (l.types.nextId ns))

/-- The library after some additions, with which it began. -/
def ofAdditions (cs : List Addition) : Library := cs.foldl (fun l c => (l.add c).1) {}

end Library

/-- The number of namespaces among some additions. -/
def namespaceCount (cs : List Addition) : Nat := (cs.filterMap Addition.namespace?).length

/-- The number of types of a namespace among some additions. -/
def typeCount (cs : List Addition) (ns : Int) : Nat :=
  (cs.filterMap Addition.type?).countP fun a => a.1 == ns

/-- One of some additions returned an id. -/
def Returned (cs : List Addition) (id : AddedId) : Prop :=
  ∃ before c after, cs = before ++ c :: after ∧ ((Library.ofAdditions before).add c).2 = id

namespace Library

variable (cs before after : List Addition)

theorem ofAdditions_concat (c : Addition) :
    ofAdditions (cs ++ [c]) = ((ofAdditions cs).add c).1 := by
  unfold ofAdditions
  rw [List.foldl_append, List.foldl_cons, List.foldl_nil]

/-- A library has the namespaces and the types that were added. -/
theorem ofAdditions_eq : ofAdditions cs =
    ⟨cs.filterMap Addition.namespace?, .ofList (cs.filterMap Addition.type?)⟩ := by
  induction cs using List.reverseRecOn with
  | nil => rfl
  | append_singleton cs c ih =>
    rw [ofAdditions_concat, ih, List.filterMap_append, List.filterMap_append]
    cases c with
    | ofNamespace n =>
      simp only [List.filterMap_cons, Addition.type?, List.filterMap_nil, List.append_nil]
      rfl
    | ofType ns t =>
      simp only [List.filterMap_cons, Addition.namespace?, List.filterMap_nil, List.append_nil]
      rw [Addition.type?, TypeTable.ofList_concat]
      rfl

/-! ## What the ids lead to -/

theorem add_ofNamespace (n : Namespace) :
    ((ofAdditions before).add (.ofNamespace n)).2 = .ofNamespace (namespaceCount before) := by
  rw [ofAdditions_eq]
  simp [add, addNamespace, namespaceCount]

/-- The next place in a namespace is the number of its types. -/
theorem nextId_ofAdditions (ns : Int) :
    (ofAdditions cs).types.nextId ns = ⟨ns, typeCount cs ns⟩ := by
  rw [ofAdditions_eq, TypeTable.nextId, TypeTable.countIn_ofList]
  rfl

theorem add_ofType (ns : Int) (t : LibraryType) :
    ((ofAdditions before).add (.ofType ns t)).2 = .ofType ⟨ns, typeCount before ns⟩ := by
  rw [add, nextId_ofAdditions]

theorem findNamespace_added (n : Namespace) :
    (ofAdditions (before ++ .ofNamespace n :: after)).findNamespace (namespaceCount before) =
      .ok n := by
  rw [findNamespace_eq_ok, ofAdditions_eq]
  simp [namespace?, namespaceCount, Addition.namespace?]

theorem findNamespace_unknown {id : Int} (h : ¬(0 ≤ id ∧ id < namespaceCount cs)) :
    (ofAdditions cs).findNamespace id = .error ⟨.unknownNamespace id, none⟩ := by
  have hnone : (ofAdditions cs).namespace? id = none := by
    unfold namespace?
    rw [ofAdditions_eq]
    split
    · rfl
    · refine List.getElem?_eq_none ?_
      unfold namespaceCount at h
      show (cs.filterMap Addition.namespace?).length ≤ id.toNat
      omega
  unfold findNamespace
  rw [hnone]
  rfl

theorem returned_concat (c : Addition) (id : AddedId) :
    Returned (cs ++ [c]) id ↔ Returned cs id ∨ ((ofAdditions cs).add c).2 = id := by
  constructor
  · rintro ⟨before, d, after, heq, hid⟩
    rcases List.eq_nil_or_concat after with rfl | ⟨after', e, rfl⟩
    · obtain ⟨rfl, hd⟩ := List.append_inj' heq rfl
      obtain rfl : c = d := by simpa using hd
      exact .inr hid
    · rw [List.concat_eq_append, ← List.cons_append, ← List.append_assoc] at heq
      exact .inl ⟨before, d, after', (List.append_inj' heq rfl).1, hid⟩
  · rintro (⟨before, d, after, rfl, hid⟩ | hid)
    · exact ⟨before, d, after ++ [c], by simp, hid⟩
    · exact ⟨cs, c, [], rfl, hid⟩

/-- The entries of a library are under the ids that were returned. -/
theorem returned_iff_mem {id : TypeId} :
    Returned cs (.ofType id) ↔ id ∈ (ofAdditions cs).types.entries.map (·.1) := by
  induction cs using List.reverseRecOn with
  | nil =>
    refine ⟨?_, nofun⟩
    rintro ⟨before, c, after, heq, -⟩
    simp at heq
  | append_singleton cs c ih =>
    rw [returned_concat, ofAdditions_concat, ih]
    cases c with
    | ofNamespace n => simp [add, addNamespace]
    | ofType ns t => simp [add, addType, TypeTable.add, eq_comm]

theorem types_added (ns : Int) (t : LibraryType) :
    (ofAdditions (before ++ .ofType ns t :: after)).types = .ofList
      (before.filterMap Addition.type? ++ (ns, t) :: after.filterMap Addition.type?) := by
  rw [ofAdditions_eq]
  show TypeTable.ofList _ = _
  rw [List.filterMap_append]
  rfl

theorem findType_added (ns : Int) (t : LibraryType) :
    (ofAdditions (before ++ .ofType ns t :: after)).findType ⟨ns, typeCount before ns⟩ =
      .ok t := by
  rw [findType_eq_ok, types_added, ← nextId_ofAdditions, ofAdditions_eq]
  exact TypeTable.get?_added _ ns t _

theorem not_returned_before (ns : Int) :
    ¬Returned before (.ofType ⟨ns, typeCount before ns⟩) := by
  rw [returned_iff_mem, ← nextId_ofAdditions, ofAdditions_eq]
  exact (TypeTable.numbers_ofList _).nextId_notMem ns

theorem get?_eq_none_of_not_returned {id : TypeId} (h : ¬Returned cs (.ofType id)) :
    (ofAdditions cs).types.get? id = none :=
  TypeTable.get?_eq_none_iff.2 (mt (returned_iff_mem cs).2 h)

theorem findType_unknown {id : TypeId} (h : ¬Returned cs (.ofType id)) :
    (ofAdditions cs).findType id =
      .error ⟨.unknownType id, some ⟨((ofAdditions cs).namespace? id.ns).map (·.name), none⟩⟩ := by
  unfold findType
  rw [get?_eq_none_of_not_returned cs h]

theorem mem_type? {ns : Int} {t : LibraryType} {cs : List Addition} :
    (ns, t) ∈ cs.filterMap Addition.type? ↔ .ofType ns t ∈ cs := by
  rw [List.mem_filterMap]
  constructor
  · rintro ⟨c, hc, heq⟩
    cases c with
    | ofNamespace n => cases heq
    | ofType ns' t' =>
      cases heq
      exact hc
  · intro h
    exact ⟨_, h, rfl⟩

/-- The first type of a name is found in its namespace. -/
theorem typeNamed?_added {ns : Int} {t : LibraryType} {name : String}
    (hfirst : ∀ u, .ofType ns u ∈ before → u.name? ≠ some name) (ht : t.name? = some name) :
    (ofAdditions (before ++ .ofType ns t :: after)).typeNamed? ns (some name) =
      some ⟨ns, typeCount before ns⟩ := by
  unfold typeNamed?
  rw [types_added, ← nextId_ofAdditions, ofAdditions_eq]
  exact TypeTable.find?_added (fun u hu => beq_false_of_ne (hfirst u (mem_type?.1 hu)))
    (beq_iff_eq.2 ht) _

theorem typeNamed?_eq_none {ns : Int} {name : String}
    (h : ∀ t, .ofType ns t ∈ cs → t.name? ≠ some name) :
    (ofAdditions cs).typeNamed? ns (some name) = none := by
  unfold typeNamed?
  rw [ofAdditions_eq]
  exact TypeTable.find?_eq_none fun t ht => beq_false_of_ne (h t (mem_type?.1 ht))

end Library

/-! ## The whole history -/

/-- What a library that was built by some additions answers, whichever of them came last. -/
structure IdsResolve (cs : List Addition) : Prop where
  /-- A namespace gets its place among the namespaces, which leads to it. -/
  namespace_added : ∀ before n after, cs = before ++ .ofNamespace n :: after →
    ((Library.ofAdditions before).add (.ofNamespace n)).2 =
        .ofNamespace (namespaceCount before) ∧
      (Library.ofAdditions cs).findNamespace (namespaceCount before) = .ok n
  /-- No other id leads to a namespace. -/
  namespace_unknown : ∀ id : Int, ¬(0 ≤ id ∧ id < namespaceCount cs) →
    (Library.ofAdditions cs).findNamespace id = .error ⟨.unknownNamespace id, none⟩
  /-- A type gets its place among the types of its namespace. The id was not returned before and
  leads to nothing then, but to the type from there on. -/
  type_added : ∀ before ns t after, cs = before ++ .ofType ns t :: after →
    ((Library.ofAdditions before).add (.ofType ns t)).2 = .ofType ⟨ns, typeCount before ns⟩ ∧
      ¬Returned before (.ofType ⟨ns, typeCount before ns⟩) ∧
      (Library.ofAdditions before).types.get? ⟨ns, typeCount before ns⟩ = none ∧
      (Library.ofAdditions cs).findType ⟨ns, typeCount before ns⟩ = .ok t
  /-- No other id leads to a type. -/
  type_unknown : ∀ id, ¬Returned cs (.ofType id) → (Library.ofAdditions cs).findType id =
    .error ⟨.unknownType id, some ⟨((Library.ofAdditions cs).namespace? id.ns).map (·.name), none⟩⟩
  /-- A name leads to the first type that was added with it. -/
  name_first : ∀ before ns t after name, cs = before ++ .ofType ns t :: after →
    t.name? = some name → (∀ u, .ofType ns u ∈ before → u.name? ≠ some name) →
    (Library.ofAdditions cs).typeNamed? ns (some name) = some ⟨ns, typeCount before ns⟩
  /-- Another name leads to no type. -/
  name_unknown : ∀ ns name, (∀ t, .ofType ns t ∈ cs → t.name? ≠ some name) →
    (Library.ofAdditions cs).typeNamed? ns (some name) = none

/-- Whatever is added to an empty library, its ids are fresh and lead to what was added. -/
theorem additions_resolve (cs : List Addition) : IdsResolve cs where
  namespace_added := by
    rintro before n after rfl
    exact ⟨Library.add_ofNamespace before n, Library.findNamespace_added before after n⟩
  namespace_unknown := fun _ hid => Library.findNamespace_unknown cs hid
  type_added := by
    rintro before ns t after rfl
    have hfresh := Library.not_returned_before before ns
    exact ⟨Library.add_ofType before ns t, hfresh,
      Library.get?_eq_none_of_not_returned before hfresh, Library.findType_added before after ns t⟩
  type_unknown := fun _ hid => Library.findType_unknown cs hid
  name_first := by
    rintro before ns t after name rfl ht hfirst
    exact Library.typeNamed?_added before after hfirst ht
  name_unknown := fun _ _ h => Library.typeNamed?_eq_none cs h

end Bindery
