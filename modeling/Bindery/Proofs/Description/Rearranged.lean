import Bindery.Proofs.Description.Tables
import Bindery.Proofs.Import.Join

/-!
# Descriptions in another order

The order in which a description lists its types, its imports and the namespaces after the first is
of no consequence: the module is the same, or the same error is raised.
-/

namespace Bindery.Description

/-! ## Rearrangements -/

/-- Whether two imports differ in the order of their constraints at most. -/
structure SameImport (v w : Json) : Prop where
  fields : ∀ k, k ≠ "constraints" → field? v k = field? w k
  constraints : (listAt v "constraints").Perm (listAt w "constraints")

/-- Whether two descriptions differ at most in the order of their types, of their imports and the
constraints of these, and of their namespaces after the first. -/
structure Rearranged (v w : Json) : Prop where
  fields : ∀ k ∉ ["types", "imports", "namespaces"], field? v k = field? w k
  types : (listAt v "types").Perm (listAt w "types")
  imports : ∃ us, (listAt v "imports").Perm us ∧ List.Forall₂ SameImport us (listAt w "imports")
  first : (listAt v "namespaces").head? = (listAt w "namespaces").head?
  rest : (listAt v "namespaces").tail.Perm (listAt w "namespaces").tail

/-- Whether no two namespaces have the same name, and no two types of a namespace. -/
structure HasDistinctNames (v : Json) : Prop where
  namespaces : ((listAt v "namespaces").filterMap (textAt? · "name")).Nodup
  types : ((listAt v "types").filterMap typeName?).Nodup

theorem SameImport.symm {v w : Json} (h : SameImport v w) : SameImport w v :=
  ⟨fun k hk => (h.fields k hk).symm, h.constraints.symm⟩

theorem Rearranged.symm {v w : Json} (h : Rearranged v w) : Rearranged w v where
  fields k hk := (h.fields k hk).symm
  types := h.types.symm
  imports := by
    obtain ⟨us, hus, hall⟩ := h.imports
    have hflip : List.Forall₂ SameImport (listAt w "imports") us :=
      (List.Forall₂.flip hall).imp fun _ _ => SameImport.symm
    have hcomp : Relation.Comp (List.Forall₂ SameImport) List.Perm (listAt w "imports")
        (listAt v "imports") := ⟨us, hflip, hus.symm⟩
    rwa [List.forall₂_comp_perm_eq_perm_comp_forall₂] at hcomp
  first := h.first.symm
  rest := h.rest.symm

/-- The namespaces with the first are in another order too. -/
theorem Rearranged.namespaces {v w : Json} (h : Rearranged v w) :
    (listAt v "namespaces").Perm (listAt w "namespaces") := by
  have hfirst := h.first
  have hrest := h.rest
  generalize listAt v "namespaces" = vs at hfirst hrest ⊢
  generalize listAt w "namespaces" = ws at hfirst hrest ⊢
  cases vs with
  | nil =>
    cases ws with
    | nil => exact .nil
    | cons y ys => cases hfirst
  | cons x xs =>
    cases ws with
    | nil => cases hfirst
    | cons y ys =>
      cases hfirst
      exact hrest.cons x

theorem HasDistinctNames.of_rearranged {v w : Json} (h : HasDistinctNames v)
    (hvw : Rearranged v w) : HasDistinctNames w :=
  ⟨(hvw.namespaces.filterMap _).nodup_iff.1 h.namespaces,
    (hvw.types.filterMap _).nodup_iff.1 h.types⟩

/-! ## Values at the same keys -/

section Keys

variable {v w x : Json} {fields fields' : List (String × Form)} {k place : String}

theorem require_congr (hv : objectOf fields v = true) (hw : objectOf fields' w = true)
    (h : field? v k = field? w k) : require v k place = require w k place := by
  rw [require_eq hv, require_eq hw, h]

theorem getD_congr (hv : objectOf fields v = true) (hw : objectOf fields' w = true)
    (h : field? v k = field? w k) (fallback : Json) : getD v k fallback = getD w k fallback := by
  rw [getD_eq hv, getD_eq hw, h]

theorem listAt_congr (h : field? v k = field? w k) : listAt v k = listAt w k := by
  unfold listAt
  rw [h]

end Keys

/-! ## Imports -/

/-- Imports that differ in the order of constraints ask for the same. -/
theorem simulates_readAsk {v w : Json} (hv : importForm v = true) (hw : importForm w = true)
    (h : SameImport v w) : Simulates Ask.Alike (readAsk v) (readAsk w) := by
  obtain ⟨cs, hlist, hcs⟩ :=
    mapM_text (forall_listAt (f := isText) (k := "constraints") hv (by simp))
  obtain ⟨cs', hlist', hcs'⟩ :=
    mapM_text (forall_listAt (f := isText) (k := "constraints") hw (by simp))
  have hmem : ∀ c, c ∈ cs ↔ c ∈ cs' := by
    intro c
    have hperm := h.constraints.mem_iff (a := Json.string c)
    rw [hlist, hlist'] at hperm
    simpa using hperm
  have hversion : versionAt v "version" "imports.version" =
      versionAt w "version" "imports.version" := by
    unfold versionAt get
    rw [getD_congr hv hw (h.fields _ (by simp))]
  unfold readAsk
  rw [require_congr hv hw (h.fields "name" (by simp)), hversion,
    itemsAt_eq (f := isText) hv (by simp), itemsAt_eq (f := isText) hw (by simp)]
  refine .bind_same fun x _ => .bind_same fun name _ => .bind_same fun version _ => ?_
  rw [ok_bind, ok_bind, hcs, hcs', ok_bind, ok_bind]
  exact .pure ⟨rfl, rfl, hmem⟩

/-- Imports in another order are the same imports. -/
theorem simulates_imports {vs us ws : List Json} (hperm : vs.Perm us)
    (hall : List.Forall₂ SameImport us ws) (hvs : ∀ v ∈ vs, importForm v = true)
    (hws : ∀ w ∈ ws, importForm w = true) :
    Simulates Eq (vs.foldlM readImport ({} : Imports Label)) (ws.foldlM readImport {}) := by
  intro imports himports
  rw [readImports_eq hvs] at himports
  obtain ⟨asks, hasks, rfl⟩ := map_eq_ok_iff.1 himports
  obtain ⟨asks₁, hasks₁, hperm₁⟩ := Simulates.mapM_perm hperm asks hasks
  have hforms : List.Forall₂ (fun u w => importForm w = true ∧ SameImport u w) us ws :=
    ((List.forall₂_and_left ws us).2 ⟨hws, hall.flip⟩).flip
  have hsame : List.Forall₂ (fun u w => Simulates Ask.Alike (readAsk u) (readAsk w)) us ws :=
    ((List.forall₂_and_left us ws).2 ⟨fun u hu => hvs u (hperm.mem_iff.2 hu), hforms⟩).imp
      fun _ _ ⟨hu, hw, h⟩ => simulates_readAsk hu hw h
  obtain ⟨asks', hasks', halike⟩ := Simulates.mapM hsame asks₁ hasks₁
  obtain ⟨hright, hleft⟩ := exists_of_forall₂ halike
  have heq : Imports.ofAsks asks = Imports.ofAsks asks' :=
    ofAsks_eq_of_within (fun a ha => hleft a (hperm₁.subset ha)) fun a' ha' => by
      obtain ⟨a, ha, halike⟩ := hright a' ha'
      exact ⟨a, hperm₁.mem_iff.2 ha, halike.symm⟩
  refine ⟨(Imports.ofAsks asks').labels, ?_, congrArg Imports.labels heq⟩
  rw [readImports_eq hws, hasks']
  rfl

/-! ## Wrappers -/

section Wrappers

variable {vs vs' : List Json} {d d' : Description} {v : Json} {place : String}
  {fields : List (String × Form)} (h : SameTables vs vs' d d')

include h

theorem SameTables.simulates_readAncestors (hv : objectOf fields v = true)
    (hkey : ("parents", listOf ancestorForm) ∈ fields) :
    Simulates (List.Forall₂ fun a a' => a.ancestor.Alike d.library d'.library a'.ancestor)
      (readAncestors d.namespaces d.types place v)
      (readAncestors d'.namespaces d'.types place v) := by
  unfold readAncestors
  rw [itemsAt_eq hv hkey, ok_bind, ok_bind]
  exact .mapM (List.forall₂_same.2 fun p hp =>
    h.simulates_readAncestor (forall_listAt hv hkey p hp))

theorem SameTables.simulates_readObject {isInterface : Bool} (hv : objectOf fields v = true)
    (hkey : ("parents", listOf ancestorForm) ∈ fields) :
    Simulates (fun s s' => s.kind.Alike d.library d'.library s'.kind)
      (readObject d.namespaces d.types isInterface v place)
      (readObject d'.namespaces d'.types isInterface v place) := by
  unfold readObject
  refine .bind_same fun getTypeFn _ => .bind (h.simulates_readAncestors hv hkey)
    fun ps ps' _ _ hps => .bind_same fun classStruct _ => .pure (.object ?_)
  rwa [List.forall₂_map_left_iff, List.forall₂_map_right_iff]

/-- A shape is read the same but for the ids of its ancestors. -/
theorem SameTables.simulates_readShape (hv : wrapperForm v = true) :
    Simulates (fun s s' => s.kind.Alike d.library d'.library s'.kind)
      (readShape d.namespaces d.types v place) (readShape d'.namespaces d'.types v place) := by
  unfold wrapperForm at hv
  unfold readShape
  refine .bind_same fun x hx => ?_
  obtain ⟨kind, rfl, hkind⟩ := require_text hv (by simp) hx
  rw [hkind] at hv
  split
  · next heq =>
    cases heq
    refine .bind_same fun getTypeFn _ => .bind_same fun refFn _ => .bind_same fun unrefFn _ =>
      .bind (h.simulates_readAncestors hv (by simp [shapeFields])) fun ps ps' _ _ hps =>
        .pure (.fundamental ?_)
    rwa [List.forall₂_map_left_iff, List.forall₂_map_right_iff]
  · next heq =>
    cases heq
    exact h.simulates_readObject hv (by simp [shapeFields])
  · next heq =>
    cases heq
    exact h.simulates_readObject hv (by simp [shapeFields])
  · next heq =>
    cases heq
    exact .bind_same fun _ _ => .bind_same fun copy _ => .bind_same fun freeFn _ =>
      .bind_same fun inline _ => .bind_same fun getTypeFn _ => .bind_same fun version _ =>
        .pure (.boxed _)
  · next heq =>
    cases heq
    exact .bind_same fun getTypeFn _ => .bind_same fun inline _ => .pure (.autoBoxed _)
  · next heq =>
    cases heq
    exact .bind_same fun refFn _ => .bind_same fun unrefFn _ => .bind_same fun getTypeFn _ =>
      .bind_same fun version _ => .pure (.shared _)
  · rintro _ ⟨⟩

/-- A wrapper is read the same but for the ids of its ancestors. -/
theorem SameTables.simulates_readWrapper (hv : wrapperForm v = true) :
    Simulates (fun e e' => e.spec.Alike d.library d'.library e'.spec)
      (readWrapper d.namespaces d.types v) (readWrapper d'.namespaces d'.types v) := by
  unfold readWrapper
  refine .bind_same fun typeName _ => .bind_same fun _ _ => .bind_same fun visibility _ =>
    .bind_same fun cName _ => .bind_same fun docAlias _ => .bind_same fun _ _ =>
      .bind_same fun derives _ => .bind_same fun _ _ => .bind_same fun functions _ =>
        .bind (h.simulates_readShape hv) fun s s' _ _ hs => .bind_same fun hasBuilder _ =>
          .pure ⟨rfl, hs, rfl, rfl⟩

end Wrappers

/-! ## The whole -/

/-- The namespaces that are read have the names that are listed. -/
theorem Reads.names_eq {v : Json} {d : Description} (h : form v = true) (hd : Reads v d) :
    (listAt v "namespaces").filterMap (textAt? · "name") =
      d.namespaces.map NamespaceEntry.name := by
  obtain ⟨first, others, main, rest, hlist, hmain, hrest, hns⟩ := hd.namespaces
  have hforms := forall_listAt (f := namespaceForm) (k := "namespaces") h (by simp)
  rw [hlist] at hforms ⊢
  obtain ⟨hfirst, hothers⟩ := List.forall_mem_cons.1 hforms
  have hnames := forall₂_of_mapM hothers hrest
  rw [hns]
  exact filterMap_eq_map (.cons ((yields_readNamespace hfirst).of_eq_ok hmain).name
    (hnames.imp fun _ _ hx => ((yields_readNamespace hx.1).of_eq_ok hx.2).name))

/-- A rearranged description is read as one with the same parts in another order. -/
theorem Reads.exists_rearranged {v w : Json} {d : Description} (hv : form v = true)
    (hw : form w = true) (h : Rearranged v w) (hnames : HasDistinctNames v) (hd : Reads v d) :
    ∃ d', Reads w d' ∧ SameTables (listAt v "types") (listAt w "types") d d' ∧
      d.config = d'.config ∧ d.imports = d'.imports ∧
      List.Forall₂ (WrapperSpec.Alike d.library d'.library) d.bindings.wrappers
        d'.bindings.wrappers := by
  obtain ⟨first, others, main, rest, hlist, hmain, hrest, hns⟩ := hd.namespaces
  -- The namespaces: the first is the same and the others are in another order.
  have hothers := h.rest
  have hfirst := h.first
  rw [hlist] at hothers hfirst
  obtain ⟨others', hlist'⟩ := List.head?_eq_some_iff.1 hfirst.symm
  rw [hlist'] at hothers
  obtain ⟨rest', hrest', hperm⟩ := Simulates.mapM_perm hothers rest hrest
  have hnamespaces : d.namespaces.Perm (main :: rest') := hns ▸ hperm.cons main
  -- The types: each is read under the id that its namespace has now.
  obtain ⟨ts, hts, -⟩ := readTypes_eq_ok.1 hd.types
  have hreadTypes : Simulates (List.Forall₂ fun t t' => t.2 = t'.2)
      ((listAt v "types").mapM (readType d.namespaces))
      ((listAt v "types").mapM (readType (main :: rest'))) :=
    .mapM (List.forall₂_same.2 fun _ _ => simulates_readType fun _ hm => hnamespaces.subset hm)
  obtain ⟨ts₁, hts₁, -⟩ := hreadTypes ts hts
  obtain ⟨ts', hts', -⟩ := Simulates.mapM_perm h.types ts₁ hts₁
  -- The imports are the same, and the wrappers differ in the ids of their ancestors.
  obtain ⟨us, hus, hall⟩ := h.imports
  obtain ⟨imports, himports, himportsEq⟩ := simulates_imports hus hall
    (forall_listAt (f := importForm) hv (by simp)) (forall_listAt (f := importForm) hw (by simp))
    _ hd.imports
  have htables : ∀ ws, SameTables (listAt v "types") (listAt w "types") d
      ⟨d.config, main :: rest', .ofList ts', imports, ws⟩ := fun ws =>
    { main := by rw [hns]; rfl
      namespaces := hnamespaces
      nodup := hd.names_eq hv ▸ hnames.namespaces
      types := hd.types
      types' := readTypes_eq_ok.2 ⟨ts', hts', rfl⟩
      perm := h.types
      form := forall_listAt (f := typeForm) hv (by simp)
      distinct := hnames.types }
  have hreadWrappers : Simulates (List.Forall₂ fun e e' => e.spec.Alike d.library
      (library ⟨d.config, main :: rest', .ofList ts', imports, []⟩) e'.spec)
      ((listAt v "wrappers").mapM (readWrapper d.namespaces d.types))
      ((listAt v "wrappers").mapM (readWrapper (main :: rest') (.ofList ts'))) :=
    .mapM (List.forall₂_same.2 fun x hx => (htables []).simulates_readWrapper
      (forall_listAt (f := wrapperForm) hv (by simp) x hx))
  obtain ⟨ws', hws', halike⟩ := hreadWrappers _ hd.wrappers
  refine ⟨⟨d.config, main :: rest', .ofList ts', imports, ws'⟩, ⟨?_, ?_, ?_, himports, ?_⟩,
    htables ws', rfl, himportsEq, ?_⟩
  · obtain ⟨x, hx, hconfig⟩ := hd.config
    exact ⟨x, by rw [← hx, getD_congr hv hw (h.fields "config" (by simp))], hconfig⟩
  · exact ⟨first, others', main, rest', hlist', hmain, hrest', rfl⟩
  · exact readTypes_eq_ok.2 ⟨ts', hts', rfl⟩
  · rw [← listAt_congr (h.fields "wrappers" (by simp))]
    exact hws'
  · exact List.forall₂_map_left_iff.2 (List.forall₂_map_right_iff.2 halike)

/-- The order in which a description lists its types, its imports with their constraints, and its
namespaces after the first is of no consequence, as long as names are distinct: if it is read in one
order it is read in the other, and what is emitted is the same, texts and messages as well as the
error that may end it. -/
theorem rearranged_same {v w : Json} (hv : form v = true) (hw : form w = true)
    (h : Rearranged v w) (hnames : HasDistinctNames v) :
    ((∃ d, read v = .ok d) ↔ ∃ d', read w = .ok d') ∧
      ∀ d d', read v = .ok d → read w = .ok d' →
        Emit.bindings d.bindings = Emit.bindings d'.bindings := by
  refine ⟨⟨?_, ?_⟩, fun d d' hd hd' => ?_⟩
  · rintro ⟨d, hd⟩
    obtain ⟨d', hd', -⟩ := ((read_eq_ok hv).1 hd).exists_rearranged hv hw h hnames
    exact ⟨d', (read_eq_ok hw).2 hd'⟩
  · rintro ⟨d', hd'⟩
    obtain ⟨d, hd, -⟩ :=
      ((read_eq_ok hw).1 hd').exists_rearranged hw hv h.symm (hnames.of_rearranged h)
    exact ⟨d, (read_eq_ok hv).2 hd⟩
  · obtain ⟨d₁, hd₁, htables, hconfig, himports, hwrappers⟩ :=
      ((read_eq_ok hv).1 hd).exists_rearranged hv hw h hnames
    obtain rfl : d₁ = d' := Except.ok.inj (((read_eq_ok hw).2 hd₁).symm.trans hd')
    have hmain : d.library.namespaces.head? = d₁.library.namespaces.head? := by
      show (d.namespaces.map _).head? = (d₁.namespaces.map _).head?
      rw [List.head?_map, List.head?_map, htables.main]
    exact Emit.bindings_congr (Env.agrees_of_head? (congrArg ConfigEntry.config hconfig) hmain)
      himports hwrappers

/-- A button, whose ancestors are in two other namespaces. -/
def button (namespaces types imports : List Json) : Json :=
  .object [("namespaces", .array namespaces), ("types", .array types), ("imports", .array imports),
    ("wrappers", .array [.object [("kind", .string "object"), ("type_name", .string "Button"),
      ("glib_name", .string "GtkButton"), ("get_type_fn", .string "gtk_button_get_type"),
      ("parents", .array [
        .object [("namespace", .string "GObject"), ("name", .string "InitiallyUnowned")],
        .object [("namespace", .string "Atk"), ("name", .string "Implementor")]])]])]

/-- A namespace and the crate that binds it. -/
def namespaceOf (name crate : String) : Json :=
  .object [("name", .string name), ("crate_name", .string crate), ("sys_crate_name", .string "ffi")]

/-- A type of a namespace. -/
def typeOf (ns kind name : String) : Json :=
  .object [("namespace", .string ns), ("kind", .string kind), ("name", .string name),
    ("c_type", .string name)]

/-- An import under two constraints. -/
def importOf (name constraint other : String) : Json :=
  .object [("name", .string name),
    ("constraints", .array [.string constraint, .string other])]

/-- The parts of a button in one order. -/
def buttonForth : Json :=
  button [namespaceOf "Gtk" "gtk", namespaceOf "GObject" "glib", namespaceOf "Atk" "atk"]
    [typeOf "GObject" "class" "InitiallyUnowned", typeOf "Atk" "interface" "Implementor"]
    [importOf "glib::Object" "unix" "windows", importOf "atk::Object" "unix" "windows"]

/-- The parts of a button in another order. -/
def buttonBack : Json :=
  button [namespaceOf "Gtk" "gtk", namespaceOf "Atk" "atk", namespaceOf "GObject" "glib"]
    [typeOf "Atk" "interface" "Implementor", typeOf "GObject" "class" "InitiallyUnowned"]
    [importOf "atk::Object" "windows" "unix", importOf "glib::Object" "windows" "unix"]

theorem rearranged_button : Rearranged buttonForth buttonBack where
  fields k hk := by
    simp only [List.mem_cons, List.not_mem_nil, or_false, not_or] at hk
    simp [buttonForth, buttonBack, button, field?, Json.member?, Ne.symm hk.1, Ne.symm hk.2.1,
      Ne.symm hk.2.2]
  types := .swap ..
  imports := by
    have hsame : ∀ name, SameImport (importOf name "unix" "windows")
        (importOf name "windows" "unix") := fun name =>
      { fields := fun k hk => by
          by_cases hname : k = "name"
          · rw [hname]
            rfl
          · simp [importOf, field?, Json.member?, Ne.symm hname, Ne.symm hk]
        constraints := .swap .. }
    exact ⟨_, .swap .., .cons (hsame _) (.cons (hsame _) .nil)⟩
  first := rfl
  rest := .swap ..

theorem rearranged_same_button : ∃ d d', read buttonForth = .ok d ∧ read buttonBack = .ok d' ∧
    d.types.entries.map (·.1) = [⟨1, 0⟩, ⟨2, 0⟩] ∧ d'.types.entries.map (·.1) = [⟨1, 0⟩, ⟨2, 0⟩] ∧
    d.types.entries.map (·.2.kind) ≠ d'.types.entries.map (·.2.kind) ∧
    Emit.bindings d.bindings = Emit.bindings d'.bindings := by
  obtain ⟨hread, hsame⟩ := rearranged_same (v := buttonForth) (w := buttonBack) (by decide)
    (by decide) rearranged_button ⟨by decide, by decide⟩
  obtain ⟨d, hd⟩ : ∃ d, read buttonForth = .ok d := ⟨_, rfl⟩
  obtain ⟨d', hd'⟩ := hread.1 ⟨d, hd⟩
  have h := hsame d d' hd hd'
  cases hd
  cases hd'
  exact ⟨_, _, rfl, rfl, rfl, rfl, by decide, h⟩

end Bindery.Description
