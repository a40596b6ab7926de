import Bindery.Proofs.Description.Lookup
import Bindery.Proofs.Import.Labelled
import Bindery.Proofs.Wrapper.Faults

/-!
# What a description is read as

A description of the right form is read part by part. The ancestors of its wrappers are those that
it names, and what is joined or escaped later on is a text.
-/

namespace Bindery

open Description

/-- Whether an ancestor is the one that a description names: its namespace has the name given there,
and so has its type. -/
structure Library.Resolves (l : Library) (v : Json) (p : Ancestor) : Prop where
  exists_namespace : ∃ n, l.namespace? p.id.ns = some n ∧ textAt? v "namespace" = some n.name
  exists_type : ∃ t s, l.types.get? p.id = some t ∧ t.name? = some s ∧
    textAt? v "name" = some s ∧ p.name = .string s

theorem Library.Resolves.knows {l : Library} {v : Json} {p : Ancestor} (h : l.Resolves v p) :
    l.Knows p := by
  obtain ⟨n, hn, -⟩ := h.exists_namespace
  obtain ⟨t, s, ht, -, -, hs⟩ := h.exists_type
  exact ⟨⟨n, hn⟩, ⟨t, ht⟩, ⟨s, hs⟩⟩

namespace Description

/-! ## The parts -/

/-- The parts of a description, each read from its key. The first of the namespaces is the one that
is bound. -/
structure Reads (v : Json) (d : Description) : Prop where
  config : ∃ x, getD v "config" (.object []) = .ok x ∧ readConfig x = .ok d.config
  namespaces : ∃ first others main rest, listAt v "namespaces" = first :: others ∧
    readNamespace true first = .ok main ∧ others.mapM (readNamespace false) = .ok rest ∧
    d.namespaces = main :: rest
  types : readTypes d.namespaces (listAt v "types") = .ok d.types
  imports : (listAt v "imports").foldlM readImport {} = .ok d.imports
  wrappers : (listAt v "wrappers").mapM (readWrapper d.namespaces d.types) = .ok d.wrappers

theorem readNamespaces_eq_ok {vs : List Json} {ns : List NamespaceEntry} :
    readNamespaces (.array vs) = .ok ns ↔ ∃ first others main rest, vs = first :: others ∧
      readNamespace true first = .ok main ∧ others.mapM (readNamespace false) = .ok rest ∧
      ns = main :: rest := by
  cases vs with
  | nil => simp [readNamespaces, Json.isTruthy, refuse]
  | cons first others =>
    show (readNamespace true first >>= fun main => others.mapM (readNamespace false) >>=
      fun rest => .ok (main :: rest)) = .ok ns ↔ _
    simp only [bind_eq_ok_iff]
    constructor
    · rintro ⟨main, hmain, rest, hrest, hns⟩
      exact ⟨first, others, main, rest, rfl, hmain, hrest, (Except.ok.inj hns).symm⟩
    · rintro ⟨_, _, main, rest, heq, hmain, hrest, rfl⟩
      cases heq
      exact ⟨main, hmain, rest, hrest, rfl⟩

/-- The namespaces must be there, and there must be one. -/
theorem namespaces_eq_ok {v : Json} {ns : List NamespaceEntry} (h : form v = true) :
    (∃ x, require v "namespaces" "description" = .ok x ∧ readNamespaces x = .ok ns) ↔
      ∃ first others main rest, listAt v "namespaces" = first :: others ∧
        readNamespace true first = .ok main ∧ others.mapM (readNamespace false) = .ok rest ∧
        ns = main :: rest := by
  simp only [require_eq_ok h]
  cases hfield : field? v "namespaces" with
  | none => simp [listAt, hfield]
  | some x =>
    obtain ⟨vs, rfl, -⟩ := listOf_iff.1
      (form_of_field? (f := listOf namespaceForm) h (by simp) hfield)
    have hlist : listAt v "namespaces" = vs := by
      unfold listAt
      rw [hfield]
    simp only [Option.some.injEq, exists_eq_left', hlist, readNamespaces_eq_ok]

theorem read_eq_ok {v : Json} {d : Description} (h : form v = true) :
    read v = .ok d ↔ Reads v d := by
  have htypes := itemsAt_eq (f := typeForm) (k := "types") h (by simp)
  have himports := itemsAt_eq (f := importForm) (k := "imports") h (by simp)
  have hwrappers := itemsAt_eq (f := wrapperForm) (k := "wrappers") h (by simp)
  unfold read
  simp only [htypes, himports, hwrappers, ok_bind, bind_eq_ok_iff]
  constructor
  · rintro ⟨x, hx, config, hconfig, y, hy, ns, hns, types, htypes, imports, himports, wrappers,
      hwrappers, hd⟩
    cases hd
    exact ⟨⟨x, hx, hconfig⟩, (namespaces_eq_ok h).1 ⟨y, hy, hns⟩, htypes, himports, hwrappers⟩
  · rintro ⟨⟨x, hx, hconfig⟩, hnamespaces, htypes, himports, hwrappers⟩
    obtain ⟨y, hy, hns⟩ := (namespaces_eq_ok h).2 hnamespaces
    exact ⟨x, hx, _, hconfig, y, hy, _, hns, _, htypes, _, himports, _, hwrappers, rfl⟩

/-! ## Ancestors -/

/-- The ancestors of a shape that has any. -/
def ShapeEntry.parents? : ShapeEntry → Option (List AncestorEntry)
  | fundamental _ _ _ parents => some parents
  | object _ _ parents _ => some parents
  | _ => none

theorem ShapeEntry.parents?_kind (s : ShapeEntry) :
    s.kind.parents? = s.parents?.map (·.map AncestorEntry.ancestor) := by
  cases s <;> rfl

section Ancestors

variable {ns : List NamespaceEntry} {types : TypeTable TypeEntry} {v : Json}

/-- The ancestors of a shape are those that its wrapper lists. -/
theorem ShapeMatches.parents {kind : String} {s : ShapeEntry}
    (h : ShapeMatches ns types v kind s) : ∀ ps ∈ s.parents?,
      List.Forall₂ (AncestorEntry.Matches ns types) (listAt v "parents") ps := by
  intro ps hps
  unfold ShapeMatches at h
  split at h
  · obtain ⟨getTypeFn, -, parents, hparents, rfl⟩ := h
    cases hps
    exact hparents
  · obtain ⟨getTypeFn, -, parents, hparents, rfl⟩ := h
    cases hps
    exact hparents
  · obtain ⟨getTypeFn, -, parents, hparents, rfl⟩ := h
    cases hps
    exact hparents
  · obtain ⟨x, -, copy, -, freeFn, -, w, -, rfl⟩ := h
    cases hps
  · obtain ⟨getTypeFn, -, rfl⟩ := h
    cases hps
  · obtain ⟨refFn, -, unrefFn, -, w, -, rfl⟩ := h
    cases hps
  · exact h.elim

/-- What is found for an entry is what the entry names. -/
theorem AncestorEntry.Matches.resolves {d : Description} {p : Json} {a : AncestorEntry}
    {vs : List Json} (ha : a.Matches d.namespaces d.types p)
    (htypes : readTypes d.namespaces vs = .ok d.types) (hvs : ∀ t ∈ vs, typeForm t = true) :
    d.library.Resolves p a.ancestor := by
  obtain ⟨n, s, id, hn, hs, hid, hname, hfind⟩ := ha.exists_type
  obtain ⟨-, -, e, -, he, hns, hget⟩ := find?_of_readTypes htypes hvs hfind
  obtain ⟨m, hm, rfl⟩ := idOf?_eq_some hid
  refine ⟨⟨m.ns, ?_, hn⟩, e.type, s, ?_, TypeEntry.name?_type he, hs, hname⟩
  · show d.library.namespace? a.id.ns = _
    rw [hns, namespace?_library, hm]
    rfl
  · show d.library.types.get? a.id = _
    rw [get?_library, hget]
    rfl

end Ancestors

/-! ## Wrappers -/

section Wrappers

variable {ns : List NamespaceEntry} {types : TypeTable TypeEntry} {v : Json}

theorem DeriveEntry.Matches.forall_names {e : DeriveEntry} (he : e.Matches v)
    (h : deriveForm v = true) : ∀ name ∈ e.names, ∃ s, name = .string s := by
  obtain ⟨vs, heq, hvs⟩ := listOf_iff.1 (form_of_field? (f := listOf isText) h (by simp) he.names)
  cases heq
  exact fun name hname => isText_iff.1 (hvs name hname)

/-- What is joined or escaped of a wrapper is a text. -/
theorem WrapperEntry.Matches.isPlain {e : WrapperEntry} (he : e.Matches ns types v)
    (h : wrapperForm v = true) : e.spec.info.IsPlain := by
  unfold wrapperForm at h
  refine ⟨?_, ?_⟩
  · show ∀ l ∈ alias? e.docAlias, _
    rw [he.docAlias]
    rcases get_text (k := "doc_alias") h (by simp) (get_eq_valueAt h) with hnull | ⟨s, hs⟩
    · rw [hnull]
      rintro _ ⟨⟩
    · rw [hs]
      rintro _ ⟨⟩
      exact ⟨s, rfl⟩
  · intro d hd
    obtain ⟨f, hf, rfl⟩ := List.mem_map.1 hd
    obtain ⟨w, hw, hwf⟩ := (exists_of_forall₂ he.derives).1 f hf
    exact hwf.forall_names (forall_listAt (f := deriveForm) h (by simp) w hw)

theorem ShapeEntry.kind_ne_other (s : ShapeEntry) (name : String) : s.kind ≠ .other name := by
  cases s <;> exact nofun

end Wrappers

/-! ## The whole -/

/-- The names that a description imports. -/
def importNames (v : Json) : List String := (listAt v "imports").filterMap (textAt? · "name")

section Whole

variable {v : Json} {d : Description} (h : form v = true) (hread : Reads v d)

include hread

/-- There is a namespace to bind. -/
theorem Reads.exists_main : ∃ main rest, d.library.namespaces = main :: rest := by
  obtain ⟨first, others, main, rest, -, -, -, heq⟩ := hread.namespaces
  refine ⟨main.ns, rest.map NamespaceEntry.ns, ?_⟩
  show d.namespaces.map NamespaceEntry.ns = _
  rw [heq]
  rfl

include h

/-- The imports are those of the calls that the description makes. -/
theorem Reads.exists_asks : ∃ asks, (listAt v "imports").mapM readAsk = .ok asks ∧
    importNames v = asks.map Ask.name ∧ d.imports = (Imports.ofAsks asks).labels := by
  have hforms := forall_listAt (f := importForm) (k := "imports") h (by simp)
  have himports := hread.imports
  rw [readImports_eq hforms] at himports
  obtain ⟨asks, hasks, heq⟩ := map_eq_ok_iff.1 himports
  refine ⟨asks, hasks, filterMap_eq_map ?_, heq.symm⟩
  exact (forall₂_of_mapM hforms hasks).imp fun x a hx => ((yields_readAsk hx.1).of_eq_ok hx.2).name

/-- The wrappers are read one by one; their ancestors are those that they name. -/
theorem Reads.wrappers_spec : List.Forall₂ (fun w s => s.info.IsPlain ∧
    s.kind.IsKnown d.library ∧ ∀ ps ∈ s.kind.parents?,
      List.Forall₂ d.library.Resolves (listAt w "parents") ps)
    (listAt v "wrappers") d.bindings.wrappers := by
  show List.Forall₂ _ _ (d.wrappers.map WrapperEntry.spec)
  rw [List.forall₂_map_right_iff]
  have hforms := forall_listAt (f := wrapperForm) (k := "wrappers") h (by simp)
  refine (forall₂_of_mapM hforms hread.wrappers).imp fun w e hw => ?_
  obtain ⟨hform, he⟩ := hw
  have hmatches := (yields_readWrapper hform).of_eq_ok he
  have hparents : ∀ ps ∈ e.spec.kind.parents?,
      List.Forall₂ d.library.Resolves (listAt w "parents") ps := by
    intro ps hps
    rw [show e.spec.kind = e.shape.kind from rfl, ShapeEntry.parents?_kind] at hps
    obtain ⟨as, has, rfl⟩ := Option.map_eq_some_iff.1 hps
    rw [List.forall₂_map_right_iff]
    obtain ⟨kind, -, hshape⟩ := hmatches.shape
    exact (hshape.parents as has).imp fun p a ha =>
      ha.resolves hread.types (forall_listAt (f := typeForm) h (by simp))
  refine ⟨hmatches.isPlain hform, ⟨e.shape.kind_ne_other, fun ps hps p hp => ?_⟩, hparents⟩
  obtain ⟨x, -, hresolves⟩ := (exists_of_forall₂ (hparents ps hps)).1 p hp
  exact hresolves.knows

end Whole

end Description

end Bindery
