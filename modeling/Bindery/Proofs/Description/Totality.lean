import Bindery.Proofs.Description.Entries
import Bindery.Proofs.Description.Reading

/-!
# Reading is total

A description of the right form is read just where there is something that it says, and refused
elsewhere; reading fails in no other way. What is read has one entry for each item that is listed,
in the order of the lists.
-/

namespace Bindery.Description

/-- Whether a description that was read is the one that a value writes down. -/
structure Matches (v : Json) (d : Description) : Prop where
  config : d.config.Matches (valueAt v "config" (.object []))
  namespaces : NamespacesMatch (listAt v "namespaces") d.namespaces
  types : ∃ ts, List.Forall₂ (TypeEntry.Matches d.namespaces) (listAt v "types") ts ∧
    d.types = TypeTable.ofList ts
  imports : ∃ asks, List.Forall₂ AskMatches (listAt v "imports") asks ∧
    d.imports = (Imports.ofAsks asks).labels
  wrappers : List.Forall₂ (WrapperEntry.Matches d.namespaces d.types) (listAt v "wrappers")
    d.wrappers

section Matches

variable {v : Json} {d : Description}

/-- Each type that is listed gets a place of its own in the library. -/
theorem Matches.length_types (h : Matches v d) :
    d.types.entries.length = (listAt v "types").length ∧ (d.types.entries.map (·.1)).Nodup := by
  obtain ⟨ts, hts, htypes⟩ := h.types
  have hnumbers := TypeTable.numbers_ofList ts
  rw [htypes]
  refine ⟨?_, hnumbers.nodup⟩
  calc (TypeTable.ofList ts).entries.length
      = ((TypeTable.ofList ts).entries.map fun e => (e.1.ns, e.2)).length := by
        rw [List.length_map]
    _ = ts.length := by rw [hnumbers.types]
    _ = (listAt v "types").length := hts.length_eq.symm

/-- The names that are registered are those that the imports list. -/
theorem Matches.exists_names (h : Matches v d) : ∃ i : Imports String, d.imports = i.labels ∧
    i.names.Pairwise (· < ·) ∧ ∀ name, name ∈ i.names ↔ name ∈ importNames v := by
  obtain ⟨asks, hasks, himports⟩ := h.imports
  have hnames : importNames v = asks.map Ask.name :=
    filterMap_eq_map (hasks.imp fun _ _ ha => ha.name)
  refine ⟨Imports.ofAsks asks, himports, names_ofAsks_increasing asks, fun name => ?_⟩
  rw [hnames, mem_names_ofAsks]

end Matches

theorem NamespacesMatch.exists_field {v : Json} {k : String} {ns : List NamespaceEntry}
    (h : NamespacesMatch (listAt v k) ns) : ∃ x, field? v k = some x := by
  obtain ⟨first, others, main, rest, hlist, -⟩ := h
  cases hx : field? v k with
  | none =>
    unfold listAt at hlist
    rw [hx] at hlist
    cases hlist
  | some x => exact ⟨x, rfl⟩

theorem yields_readListed {v x : Json} (h : form v = true) (hx : field? v "namespaces" = some x) :
    Yields (NamespacesMatch (listAt v "namespaces")) (readNamespaces x) := by
  obtain ⟨vs, rfl, hvs⟩ :=
    listOf_iff.1 (form_of_field? (f := listOf namespaceForm) h (by simp) hx)
  unfold listAt
  rw [hx]
  exact yields_readNamespaces hvs

theorem yields_read {v : Json} (h : form v = true) : Yields (Matches v) (read v) := by
  have hconfig : configForm (valueAt v "config" (.object [])) = true := by
    unfold valueAt
    cases hx : field? v "config" with
    | none => rfl
    | some x => exact form_of_field? h (by simp) hx
  unfold read
  simp only [getD_eq_valueAt h, itemsAt_eq (f := typeForm) (k := "types") h (by simp),
    itemsAt_eq (f := importForm) (k := "imports") h (by simp),
    itemsAt_eq (f := wrapperForm) (k := "wrappers") h (by simp), ok_bind]
  have hwrappers : ∀ ns types, Yields
      (List.Forall₂ (WrapperEntry.Matches ns types) (listAt v "wrappers"))
      ((listAt v "wrappers").mapM (readWrapper ns types)) :=
    fun _ _ => yields_mapM_listAt h (by simp) fun _ => yields_readWrapper
  have htypes := forall_listAt (f := typeForm) (k := "types") h (by simp)
  have himports := forall_listAt (f := importForm) (k := "imports") h (by simp)
  refine ((yields_readConfig hconfig).bind fun config _ => (yields_require h).bind fun x hx =>
    (yields_readListed h hx).bind fun ns _ => (yields_readTypes htypes).bind fun types _ =>
      (yields_readImports himports).bind fun imports _ => (hwrappers ns types).bind
        fun wrappers _ => .ok _).congr fun d => ⟨?_, fun hd => ?_⟩
  · rintro ⟨config, hconfig, x, -, ns, hns, types, htypes, imports, himports, wrappers, hwrappers,
      rfl⟩
    exact ⟨hconfig, hns, htypes, himports, hwrappers⟩
  · obtain ⟨x, hx⟩ := hd.namespaces.exists_field
    exact ⟨d.config, hd.config, x, hx, d.namespaces, hd.namespaces, d.types, hd.types, d.imports,
      hd.imports, d.wrappers, hd.wrappers, rfl⟩

/-- A document is read as what it says, or it is refused. -/
structure IsReadOrRefused (v : Json) : Prop where
  /-- No other failure is possible. -/
  total : (∃ d, read v = .ok d) ∨ ∃ r, read v = .error (.refused r)
  /-- It says its namespaces, its types, and its wrappers with their derive attributes, functions
  and ancestors, one by one and in their order, so that it is refused only if there is nothing that
  it says. -/
  ok_iff : ∀ d, read v = .ok d ↔ Matches v d
  /-- There are as many types in the library as are listed. -/
  length_types : ∀ d, read v = .ok d →
    d.library.types.entries.length = (listAt v "types").length
  nodup_types : ∀ d, read v = .ok d → (d.library.types.entries.map (·.1)).Nodup
  /-- The names that are registered are those of the imports. -/
  imports : ∀ d, read v = .ok d →
    ∃ i : Imports String, d.imports = i.labels ∧ i.names.Pairwise (· < ·) ∧
      ∀ name, name ∈ i.names ↔ name ∈ importNames v

theorem Matches.length_library {v : Json} {d : Description} (h : Matches v d) :
    d.library.types.entries.length = (listAt v "types").length ∧
      (d.library.types.entries.map (·.1)).Nodup := by
  have hentries : d.library.types.entries = d.types.entries.map fun e => (e.1, e.2.type) := rfl
  rw [hentries, List.length_map, List.map_map]
  exact h.length_types

/-- A description of the right form is read, or it is refused. -/
theorem read_total {v : Json} (h : form v = true) : IsReadOrRefused v where
  total := by
    cases hread : read v with
    | ok d => exact .inl ⟨d, rfl⟩
    | error e =>
      obtain ⟨r, rfl⟩ := (yields_read h).refused e hread
      exact .inr ⟨r, rfl⟩
  ok_iff := (yields_read h).ok_iff
  length_types d hd := (((yields_read h).ok_iff d).1 hd).length_library.1
  nodup_types d hd := (((yields_read h).ok_iff d).1 hd).length_library.2
  imports d hd := (((yields_read h).ok_iff d).1 hd).exists_names

/-- A switch with an ancestor of some status. -/
def switch (status : String) : Json :=
  .object [
    ("namespaces", .array [.object [("name", .string "Gtk")]]),
    ("types", .array [.object [("namespace", .string "Gtk"), ("kind", .string "class"),
      ("name", .string "Widget"), ("c_type", .string "GtkWidget"), ("ref_fn", .null)]]),
    ("imports", .array [.object [("name", .string "glib::translate::*")]]),
    ("wrappers", .array [.object [("kind", .string "object"), ("type_name", .string "Switch"),
      ("glib_name", .string "GtkSwitch"), ("get_type_fn", .string "gtk_switch_get_type"),
      ("parents", .array [.object [("namespace", .string "Gtk"), ("name", .string "Widget"),
        ("status", .string status)]]),
      ("derives", .array [.object [("names", .array [.string "Debug"])]]),
      ("functions", .array [.object [("name", .string "is_active")]])]])]

theorem read_total_switch :
    (∃ d, read (switch "Ignored") = .ok d ∧ Matches (switch "Ignored") d ∧
      d.library.types.entries.length = 1) ∧
    (∃ r, read (switch "hidden") = .error (.refused r)) ∧ ∀ d, ¬Matches (switch "hidden") d := by
  have hshown : form (switch "Ignored") = true := by decide
  have hhidden : form (switch "hidden") = true := by decide
  refine ⟨?_, ?_⟩
  · have hread := read_total hshown
    have hok : (read (switch "Ignored")).isOk = true := by rfl
    rcases hread.total with ⟨d, hd⟩ | ⟨r, hr⟩
    · exact ⟨d, hd, (hread.ok_iff d).1 hd, hread.length_types d hd⟩
    · rw [hr] at hok
      cases hok
  · have hread := read_total hhidden
    have herror : (read (switch "hidden")).isOk = false := by rfl
    rcases hread.total with ⟨d, hd⟩ | ⟨r, hr⟩
    · rw [hd] at herror
      cases herror
    · refine ⟨⟨r, hr⟩, fun d hd => ?_⟩
      rw [(hread.ok_iff d).2 hd] at hr
      cases hr

end Bindery.Description
