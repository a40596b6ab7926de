import Bindery.Proofs.Import.Labelled
import Bindery.Proofs.Library

/-!
# What the parts of a description are read as

Every part of the right form is read just where there is something that it says, and refused
elsewhere. What a part says is told by its keys: the value of each key, or what stands for a missing
one, and one entry for each item of an array, in their order.
-/

namespace Bindery.Description

/-! ## Reading or refusing -/

/-- Whether what is read is just what has a property, so that nothing is read where nothing has it.
Nothing but a refusal can happen then. -/
structure Yields {α : Type} (P : α → Prop) (x : Except Failure α) : Prop where
  ok_iff : ∀ a, x = .ok a ↔ P a
  refused : ∀ e, x = .error e → ∃ r, e = .refused r

namespace Yields

variable {α β : Type} {P : α → Prop} {x : Except Failure α}

theorem ok (a : α) : Yields (· = a) (.ok a) where
  ok_iff b := by rw [Except.ok.injEq, eq_comm]
  refused e he := by cases he

theorem refuse (r : Refusal) : Yields (fun _ : α => False) (Description.refuse r) where
  ok_iff _ := iff_of_false nofun id
  refused _ he := ⟨r, (Except.error.inj he).symm⟩

theorem congr {P' : α → Prop} (hx : Yields P x) (h : ∀ a, P a ↔ P' a) : Yields P' x :=
  ⟨fun a => (hx.ok_iff a).trans (h a), hx.refused⟩

theorem of_eq_ok {a : α} (hx : Yields P x) (h : x = .ok a) : P a := (hx.ok_iff a).1 h

/-- One step after another. -/
theorem bind {f : α → Except Failure β} {Q : α → β → Prop} (hx : Yields P x)
    (hf : ∀ a, P a → Yields (Q a) (f a)) : Yields (fun b => ∃ a, P a ∧ Q a b) (x >>= f) where
  ok_iff b := by
    rw [bind_eq_ok_iff]
    refine exists_congr fun a => ?_
    rw [hx.ok_iff]
    exact and_congr_right fun ha => (hf a ha).ok_iff b
  refused e he := by
    cases x with
    | ok a => exact (hf a (hx.of_eq_ok rfl)).refused e he
    | error e' =>
      obtain rfl : e' = e := Except.error.inj he
      exact hx.refused e' rfl

theorem map {f : α → β} (hx : Yields P x) : Yields (fun b => ∃ a, P a ∧ b = f a) (x.map f) where
  ok_iff b := by
    rw [map_eq_ok_iff]
    exact exists_congr fun a => and_congr (hx.ok_iff a) eq_comm
  refused e he := hx.refused e (map_eq_error_iff.1 he)

/-- Items are read one by one. -/
theorem mapM {R : α → β → Prop} {f : α → Except Failure β} {as : List α}
    (h : ∀ a ∈ as, Yields (R a) (f a)) : Yields (List.Forall₂ R as) (as.mapM f) := by
  induction as with
  | nil =>
    refine (ok []).congr fun bs => ?_
    rw [List.forall₂_nil_left_iff]
  | cons a as ih =>
    obtain ⟨ha, has⟩ := List.forall_mem_cons.1 h
    rw [List.mapM_cons]
    refine (ha.bind fun b _ => (ih has).bind fun bs _ => ok (b :: bs)).congr fun cs => ?_
    simp only [List.forall₂_cons_left_iff, exists_and_left]

/-- A value that may be missing, and is asked for. -/
theorem elim (o : Option α) (r : Refusal) :
    Yields (fun a => o = some a) (o.elim (Description.refuse r) .ok) := by
  cases o with
  | none => exact (refuse r).congr fun a => iff_of_false id nofun
  | some b => exact (ok b).congr fun a => by rw [Option.some.injEq, eq_comm]

end Yields

/-! ## Values at keys -/

/-- The value of a key, or what stands for a missing one. -/
def valueAt (v : Json) (key : String) (fallback : Json := .null) : Json :=
  (field? v key).getD fallback

/-- Whether a version is the one that is written at a key. Where no text is written, there is
none. -/
def WritesVersion (v : Json) (key : String) (w : Option Version) : Prop :=
  match textAt? v key with
  | none => w = none
  | some s => ∃ n, Version.parse s = .ok n ∧ w = some n

section Keys

variable {v : Json} {fields : List (String × Form)} {k place : String}

theorem getD_eq_valueAt (h : objectOf fields v = true) (fallback : Json) :
    getD v k fallback = .ok (valueAt v k fallback) := getD_eq h fallback

theorem get_eq_valueAt (h : objectOf fields v = true) : get v k = .ok (valueAt v k) :=
  getD_eq h .null

theorem valueAt_text (h : objectOf fields v = true) (hkey : (k, isText) ∈ fields) (s : String) :
    valueAt v k (.string s) = .string ((textAt? v k).getD s) := by
  unfold valueAt textAt?
  cases hx : field? v k with
  | none => rfl
  | some x =>
    obtain ⟨t, rfl⟩ := isText_iff.1 (form_of_field? h hkey hx)
    rfl

theorem yields_require (h : objectOf fields v = true) :
    Yields (fun x => field? v k = some x) (require v k place) := by
  rw [require_eq h]
  exact .elim _ _

/-- A text that must be there, and what is read after it. -/
theorem yields_require_text {α : Type} {f : Json → Except Failure α} {Q : String → α → Prop}
    (h : objectOf fields v = true) (hkey : (k, isText) ∈ fields)
    (hf : ∀ s, textAt? v k = some s → Yields (Q s) (f (.string s))) :
    Yields (fun a => ∃ s, textAt? v k = some s ∧ Q s a) (require v k place >>= f) := by
  unfold textAt? at hf ⊢
  rw [require_eq h]
  cases hx : field? v k with
  | none => exact (Yields.refuse _).congr fun a => iff_of_false id (by simp)
  | some x =>
    obtain ⟨s, rfl⟩ := isText_iff.1 (form_of_field? h hkey hx)
    exact (hf s (by rw [hx]; rfl)).congr fun a => by simp [Label.text?]

/-- A version that cannot be parsed is refused. -/
theorem yields_versionAt (h : objectOf fields v = true) (hkey : (k, orNull isText) ∈ fields) :
    Yields (WritesVersion v k) (versionAt v k place) := by
  unfold versionAt WritesVersion textAt?
  rw [get_eq_valueAt h, ok_bind, valueAt]
  cases hx : field? v k with
  | none => exact .ok none
  | some x =>
    rcases orNull_iff.1 (form_of_field? h hkey hx) with rfl | hstring
    · exact .ok none
    · obtain ⟨s, rfl⟩ := isText_iff.1 hstring
      simp only [Option.getD_some, Option.bind_some, Label.text?, version, Json.display]
      cases Version.parse s with
      | ok n => exact (Yields.ok (some n)).congr fun w => by simp
      | error e => exact (Yields.refuse _).congr fun w => by simp

/-- The items of an array are read one by one. -/
theorem yields_mapM_listAt {α : Type} {f : Form} {R : Json → α → Prop}
    {g : Json → Except Failure α} (h : objectOf fields v = true) (hkey : (k, listOf f) ∈ fields)
    (hg : ∀ x, f x = true → Yields (R x) (g x)) :
    Yields (List.Forall₂ R (listAt v k)) ((listAt v k).mapM g) :=
  .mapM fun x hx => hg x (forall_listAt h hkey x hx)

end Keys

variable {v : Json} {place : String} {ns : List NamespaceEntry} {types : TypeTable TypeEntry}

/-! ## Configuration -/

/-- Whether a source is the one that a value describes. -/
structure SourceEntry.Matches (v : Json) (e : SourceEntry) : Prop where
  dir : field? v "gir_dir" = some e.dir
  repository : e.repository = valueAt v "repository_url"
  hash : e.hash = valueAt v "hash"

theorem yields_readSource (h : sourceForm v = true) :
    Yields (SourceEntry.Matches v) (readSource v) := by
  unfold readSource
  simp only [get_eq_valueAt h, ok_bind]
  refine ((yields_require h).bind fun dir _ => .ok _).congr fun e => ⟨?_, fun he => ?_⟩
  · rintro ⟨dir, hdir, rfl⟩
    exact ⟨hdir, rfl, rfl⟩
  · refine ⟨e.dir, he.dir, ?_⟩
    rw [← he.repository, ← he.hash]

/-- Whether a configuration is the one that a value describes. -/
structure ConfigEntry.Matches (v : Json) (e : ConfigEntry) : Prop where
  minVersion : ∃ w, WritesVersion v "min_cfg_version" w ∧ e.minVersion = some (w.getD ⟨0, 0, 0⟩)
  sources : List.Forall₂ SourceEntry.Matches (listAt v "girs_version") e.sources
  versionFile : e.versionFile = valueAt v "single_version_file"

theorem yields_readConfig (h : configForm v = true) :
    Yields (ConfigEntry.Matches v) (readConfig v) := by
  unfold readConfig
  rw [itemsAt_eq (f := sourceForm) h (by simp), ok_bind]
  simp only [get_eq_valueAt h, ok_bind]
  have hsources : Yields (List.Forall₂ SourceEntry.Matches (listAt v "girs_version"))
      ((listAt v "girs_version").mapM readSource) :=
    yields_mapM_listAt h (by simp) fun _ => yields_readSource
  refine (hsources.bind fun sources _ => (yields_versionAt h (by simp)).bind fun w _ =>
    .ok _).congr fun e => ⟨?_, fun he => ?_⟩
  · rintro ⟨sources, hsources, w, hw, rfl⟩
    exact ⟨⟨w, hw, rfl⟩, hsources, rfl⟩
  · obtain ⟨w, hw, hminVersion⟩ := he.minVersion
    refine ⟨e.sources, he.sources, w, hw, ?_⟩
    rw [← hminVersion, ← he.versionFile]

/-! ## Namespaces -/

/-- Whether a namespace is the one that a value describes. -/
structure NamespaceEntry.Matches (isFirst : Bool) (v : Json) (e : NamespaceEntry) : Prop where
  name : textAt? v "name" = some e.name
  crateName : e.crateName = valueAt v "crate_name" (.string (Text.lower e.name))
  sysCrateName : e.sysCrateName = valueAt v "sys_crate_name"
    (.string (if isFirst then "ffi" else Text.lower e.name ++ "::ffi"))
  minVersion : WritesVersion v "min_required_version" e.minVersion

theorem yields_readNamespace {isFirst : Bool} (h : namespaceForm v = true) :
    Yields (NamespaceEntry.Matches isFirst v) (readNamespace isFirst v) := by
  unfold readNamespace
  simp only [getD_eq_valueAt h, ok_bind]
  refine (yields_require_text h (by simp) fun name _ =>
    (yields_versionAt h (by simp)).bind fun w _ => .ok _).congr fun e => ⟨?_, fun he => ?_⟩
  · rintro ⟨name, hname, w, hw, rfl⟩
    exact ⟨hname, rfl, rfl, hw⟩
  · refine ⟨e.name, he.name, e.minVersion, he.minVersion, ?_⟩
    rw [← he.crateName, ← he.sysCrateName]

/-- Whether namespaces are those that some values describe. The first is the one that is bound. -/
def NamespacesMatch (vs : List Json) (ns : List NamespaceEntry) : Prop :=
  ∃ first others main rest, vs = first :: others ∧ ns = main :: rest ∧
    main.Matches true first ∧ List.Forall₂ (NamespaceEntry.Matches false) others rest

theorem yields_readNamespaces {vs : List Json} (h : ∀ x ∈ vs, namespaceForm x = true) :
    Yields (NamespacesMatch vs) (readNamespaces (.array vs)) := by
  cases vs with
  | nil =>
    refine (Yields.refuse _).congr fun ns => iff_of_false id ?_
    rintro ⟨first, others, main, rest, hvs, -⟩
    cases hvs
  | cons first others =>
    obtain ⟨hfirst, hothers⟩ := List.forall_mem_cons.1 h
    show Yields _ (readNamespace true first >>= fun main =>
      others.mapM (readNamespace false) >>= fun rest => .ok (main :: rest))
    have hrest : Yields (List.Forall₂ (NamespaceEntry.Matches false) others)
        (others.mapM (readNamespace false)) :=
      .mapM fun x hx => yields_readNamespace (hothers x hx)
    refine ((yields_readNamespace hfirst).bind fun main _ => hrest.bind fun rest _ =>
      .ok _).congr fun ns => ⟨?_, ?_⟩
    · rintro ⟨main, hmain, rest, hrest, rfl⟩
      exact ⟨first, others, main, rest, rfl, rfl, hmain, hrest⟩
    · rintro ⟨_, _, main, rest, heq, rfl, hmain, hrest⟩
      cases heq
      exact ⟨main, hmain, rest, hrest, rfl⟩

theorem yields_namespaceId {name : String} :
    Yields (fun i : Int => ∃ id : Nat, idOf? ns name = some id ∧ i = id)
      (namespaceId ns (.string name) place) := by
  simp only [namespaceId]
  cases idOf? ns name with
  | none => exact (Yields.refuse _).congr fun i => by simp
  | some id => exact (Yields.ok (id : Int)).congr fun i => by simp

/-! ## Types -/

/-- The name of a kind. -/
def TypeKind.name : TypeKind → String
  | classType => "class"
  | interfaceType => "interface"
  | recordType => "record"

theorem TypeKind.name_injective : Function.Injective TypeKind.name := by
  intro k l h
  cases k <;> cases l <;> first | rfl | exact absurd h (by decide)

/-- What is read for a kind under its name. -/
theorem yields_kind {α : Type} (k : TypeKind) (f : TypeKind → α) :
    Yields (fun a => ∃ l : TypeKind, l.name = k.name ∧ a = f l) (.ok (f k)) := by
  refine (Yields.ok (f k)).congr fun a => ⟨fun ha => ⟨k, rfl, ha⟩, ?_⟩
  rintro ⟨l, hl, rfl⟩
  rw [TypeKind.name_injective hl]

/-- A function that counts references, which only a class has. -/
def TypeKind.functionAt (v : Json) (key : String) : TypeKind → Json
  | classType => valueAt v key
  | _ => .null

/-- Whether a type is the one that a value describes, under the id of the namespace that is named
there. -/
structure TypeEntry.Matches (ns : List NamespaceEntry) (v : Json) (t : Int × TypeEntry) :
    Prop where
  exists_id : ∃ (n : String) (id : Nat),
    textAt? v "namespace" = some n ∧ idOf? ns n = some id ∧ t.1 = id
  kind : textAt? v "kind" = some t.2.kind.name
  name : field? v "name" = some t.2.name
  cType : field? v "c_type" = some t.2.cType
  getType : t.2.getType = valueAt v "glib_get_type"
  refFn : t.2.refFn = t.2.kind.functionAt v "ref_fn"
  unrefFn : t.2.unrefFn = t.2.kind.functionAt v "unref_fn"

/-- A type of a kind that is not known is refused. -/
theorem yields_readType (h : typeForm v = true) :
    Yields (TypeEntry.Matches ns v) (readType ns v) := by
  unfold readType
  simp only [getD_eq_valueAt h, get_eq_valueAt h, ok_bind]
  refine (yields_require_text h (by simp) fun n _ => yields_namespaceId.bind fun i _ =>
    yields_require_text h (by simp) fun kind _ => (yields_require h).bind fun name _ =>
      (yields_require h).bind fun cType _ => (?_ : Yields (fun t : Int × TypeEntry =>
        ∃ k : TypeKind, k.name = kind ∧ t = (i, ⟨k, name, cType, valueAt v "glib_get_type",
          k.functionAt v "ref_fn", k.functionAt v "unref_fn"⟩)) _)).congr fun t =>
            ⟨?_, fun ht => ?_⟩
  · have hkind := fun k : TypeKind => yields_kind k fun k => ((i, ⟨k, name, cType,
      valueAt v "glib_get_type", k.functionAt v "ref_fn", k.functionAt v "unref_fn"⟩) :
        Int × TypeEntry)
    split
    · next heq =>
      cases heq
      exact hkind .classType
    · next heq =>
      cases heq
      exact hkind .interfaceType
    · next heq =>
      cases heq
      exact hkind .recordType
    · next hclass hinterface hrecord =>
      refine (Yields.refuse _).congr fun t => iff_of_false id ?_
      rintro ⟨k, rfl, -⟩
      cases k with
      | classType => exact hclass rfl
      | interfaceType => exact hinterface rfl
      | recordType => exact hrecord rfl
  · rintro ⟨n, hn, i, ⟨id, hid, rfl⟩, _, hkind, name, hname, cType, hcType, k, rfl, rfl⟩
    exact ⟨⟨n, id, hn, hid, rfl⟩, hkind, hname, hcType, rfl, rfl, rfl⟩
  · obtain ⟨n, id, hn, hid, heq⟩ := ht.exists_id
    refine ⟨n, hn, t.1, ⟨id, hid, heq⟩, _, ht.kind, _, ht.name, _, ht.cType, t.2.kind, rfl, ?_⟩
    rw [← ht.getType, ← ht.refFn, ← ht.unrefFn]

/-- The types that are read, in the table that they are added to. -/
theorem yields_readTypes {vs : List Json} (h : ∀ x ∈ vs, typeForm x = true) :
    Yields (fun types => ∃ ts, List.Forall₂ (TypeEntry.Matches ns) vs ts ∧
      types = TypeTable.ofList ts) (readTypes ns vs) := by
  have htypes : Yields (List.Forall₂ (TypeEntry.Matches ns) vs) (vs.mapM (readType ns)) :=
    .mapM fun x hx => yields_readType (h x hx)
  exact htypes.bind fun ts _ => .ok _

/-! ## Imports -/

/-- Whether a call asks for what a value describes. -/
structure AskMatches (v : Json) (a : Ask) : Prop where
  name : textAt? v "name" = some a.name
  version : WritesVersion v "version" a.version
  constraints : a.constraints.map Json.string = listAt v "constraints"

theorem yields_readAsk (h : importForm v = true) : Yields (AskMatches v) (readAsk v) := by
  obtain ⟨cs, hlist, hcs⟩ :=
    mapM_text (forall_listAt (f := isText) (k := "constraints") h (by simp))
  unfold readAsk
  simp only [itemsAt_eq (f := isText) (k := "constraints") h (by simp), hcs, ok_bind]
  refine (yields_require_text h (by simp) fun name _ =>
    (yields_versionAt h (by simp)).bind fun w _ => .ok _).congr fun a => ⟨?_, fun ha => ?_⟩
  · rintro ⟨name, hname, w, hw, rfl⟩
    exact ⟨hname, hw, hlist.symm⟩
  · have hconstraints : a.constraints = cs :=
      List.map_injective_iff.2 (fun _ _ => Json.string.inj) (ha.constraints.trans hlist)
    refine ⟨a.name, ha.name, a.version, ha.version, ?_⟩
    rw [← hconstraints]

/-- The imports that are read are those of the calls that are described. -/
theorem yields_readImports {vs : List Json} (h : ∀ x ∈ vs, importForm x = true) :
    Yields (fun i => ∃ asks, List.Forall₂ AskMatches vs asks ∧ i = (Imports.ofAsks asks).labels)
      (vs.foldlM readImport {}) := by
  rw [readImports_eq h]
  have hasks : Yields (List.Forall₂ AskMatches vs) (vs.mapM readAsk) :=
    .mapM fun x hx => yields_readAsk (h x hx)
  exact hasks.map

/-! ## Ancestors -/

/-- Whether an ancestor is the one that a value describes: the first type that has the name given
there in the namespace given there, with the status given there in any case. -/
structure AncestorEntry.Matches (ns : List NamespaceEntry) (types : TypeTable TypeEntry) (v : Json)
    (e : AncestorEntry) : Prop where
  exists_type : ∃ (n s : String) (id : Nat), textAt? v "namespace" = some n ∧
    textAt? v "name" = some s ∧ idOf? ns n = some id ∧ e.name = .string s ∧
    types.find? id (fun t => t.name.same (.string s)) = some e.id
  status : statusNamed? (Text.upper ((textAt? v "status").getD "active")) = some e.status

theorem yields_readStatus {name : String} :
    Yields (fun status => statusNamed? (Text.upper name) = some status)
      (readStatus (.string name) place) := by
  have heq : readStatus (.string name) place = (statusNamed? (Text.upper name)).elim
      (refuse (.unknownStatus place (Text.lower (Text.upper name)))) .ok := by
    simp only [readStatus, text, ok_bind]
    cases statusNamed? (Text.upper name) <;> rfl
  rw [heq]
  exact .elim _ _

theorem yields_readAncestor (h : ancestorForm v = true) :
    Yields (AncestorEntry.Matches ns types v) (readAncestor ns types place v) := by
  unfold readAncestor
  simp only [getD_eq_valueAt h, valueAt_text (k := "status") h (by simp), ok_bind]
  refine (yields_require_text h (by simp) fun n _ => yields_namespaceId.bind fun i _ =>
    yields_require_text h (by simp) fun s _ => (?_ : Yields (fun e : AncestorEntry =>
      e.name = .string s ∧ types.find? i (fun t => t.name.same (.string s)) = some e.id ∧
      statusNamed? (Text.upper ((textAt? v "status").getD "active")) = some e.status) _)).congr
        fun e => ⟨?_, fun he => ?_⟩
  · cases types.find? i fun t => t.name.same (.string s) with
    | none =>
      refine (Yields.refuse _).congr fun e => iff_of_false id ?_
      rintro ⟨-, hnone, -⟩
      cases hnone
    | some id =>
      refine (yields_readStatus.bind fun status _ => .ok _).congr fun e => ⟨?_, ?_⟩
      · rintro ⟨status, hstatus, rfl⟩
        exact ⟨rfl, rfl, hstatus⟩
      · rintro ⟨hname, hid, hstatus⟩
        refine ⟨e.status, hstatus, ?_⟩
        rw [← hname, Option.some.inj hid]
  · rintro ⟨n, hn, i, ⟨id, hid, rfl⟩, s, hs, hname, hfind, hstatus⟩
    exact ⟨⟨n, s, id, hn, hs, hid, hname, hfind⟩, hstatus⟩
  · obtain ⟨n, s, id, hn, hs, hid, hname, hfind⟩ := he.exists_type
    exact ⟨n, hn, id, ⟨id, hid, rfl⟩, s, hs, hname, hfind, he.status⟩

theorem yields_readAncestors {fields : List (String × Form)} (h : objectOf fields v = true)
    (hkey : ("parents", listOf ancestorForm) ∈ fields) :
    Yields (List.Forall₂ (AncestorEntry.Matches ns types) (listAt v "parents"))
      (readAncestors ns types place v) := by
  unfold readAncestors
  rw [itemsAt_eq h hkey, ok_bind]
  exact yields_mapM_listAt h hkey fun _ => yields_readAncestor

/-! ## Shapes -/

/-- The expressions that a value describes. -/
def inlineAt (v : Json) : InlineEntry where
  isInline := valueAt v "boxed_inline" (.bool false)
  init := valueAt v "init_function_expression"
  copyInto := valueAt v "copy_into_function_expression"
  clear := valueAt v "clear_function_expression"

theorem readInline_eq {fields : List (String × Form)} (h : objectOf fields v = true) :
    readInline v = .ok (inlineAt v) := by
  unfold readInline
  simp only [getD_eq_valueAt h, get_eq_valueAt h, ok_bind]
  rfl

/-- Whether a function that copies is the one that a value describes, or names. -/
def CopyEntry.Matches (v : Json) (e : CopyEntry) : Prop :=
  match v with
  | .string s => e = ⟨.string s, none, .bool false⟩
  | v => field? v "name" = some e.name ∧ WritesVersion v "version" e.version ∧
      e.takesMut = valueAt v "first_parameter_mut" (.bool false)

theorem yields_readCopy (h : copyForm v = true) :
    Yields (CopyEntry.Matches v) (readCopy v place) := by
  unfold copyForm at h
  rcases Bool.or_eq_true_iff.1 h with htext | hobject
  · obtain ⟨s, rfl⟩ := isText_iff.1 htext
    exact .ok _
  · obtain ⟨ms, rfl⟩ := exists_members hobject
    unfold readCopy
    simp only [getD_eq_valueAt hobject, ok_bind]
    refine ((yields_require hobject).bind fun name _ =>
      (yields_versionAt hobject (by simp)).bind fun w _ => .ok _).congr fun e => ⟨?_, ?_⟩
    · rintro ⟨name, hname, w, hw, rfl⟩
      exact ⟨hname, hw, rfl⟩
    · rintro ⟨hname, hw, htakesMut⟩
      refine ⟨e.name, hname, e.version, hw, ?_⟩
      rw [← htakesMut]

/-- Whether a shape is the one that the keys of an object or an interface describe. -/
def ObjectMatches (ns : List NamespaceEntry) (types : TypeTable TypeEntry) (v : Json)
    (isInterface : Bool) (s : ShapeEntry) : Prop :=
  ∃ getTypeFn, field? v "get_type_fn" = some getTypeFn ∧
    ∃ parents, List.Forall₂ (AncestorEntry.Matches ns types) (listAt v "parents") parents ∧
      s = .object getTypeFn isInterface parents (valueAt v "class_struct")

/-- Whether a shape is the one that the keys of a wrapper describe under a kind. -/
def ShapeMatches (ns : List NamespaceEntry) (types : TypeTable TypeEntry) (v : Json)
    (kind : String) (s : ShapeEntry) : Prop :=
  match kind with
  | "fundamental" =>
    ∃ getTypeFn, field? v "get_type_fn" = some getTypeFn ∧
      ∃ parents, List.Forall₂ (AncestorEntry.Matches ns types) (listAt v "parents") parents ∧
        s = .fundamental getTypeFn (valueAt v "ref_fn") (valueAt v "unref_fn") parents
  | "object" => ObjectMatches ns types v false s
  | "interface" => ObjectMatches ns types v true s
  | "boxed" =>
    ∃ x, field? v "copy_fn" = some x ∧ ∃ copy : CopyEntry, copy.Matches x ∧
      ∃ freeFn, field? v "free_fn" = some freeFn ∧
        ∃ w, WritesVersion v "get_type_version" w ∧
          s = .boxed copy freeFn (inlineAt v) (valueAt v "get_type_fn") w
  | "auto_boxed" =>
    ∃ getTypeFn, field? v "get_type_fn" = some getTypeFn ∧ s = .autoBoxed getTypeFn (inlineAt v)
  | "shared" =>
    ∃ refFn, field? v "ref_fn" = some refFn ∧ ∃ unrefFn, field? v "unref_fn" = some unrefFn ∧
      ∃ w, WritesVersion v "get_type_version" w ∧
        s = .shared refFn unrefFn (valueAt v "get_type_fn") w
  | _ => False

theorem yields_readObject {fields : List (String × Form)} {isInterface : Bool}
    (h : objectOf fields v = true) (hkey : ("parents", listOf ancestorForm) ∈ fields) :
    Yields (ObjectMatches ns types v isInterface) (readObject ns types isInterface v place) := by
  unfold readObject
  simp only [get_eq_valueAt h, ok_bind]
  exact (yields_require h).bind fun getTypeFn _ => (yields_readAncestors h hkey).bind fun ps _ =>
    .ok _

/-- A shape of a kind that is not known is refused. -/
theorem yields_readShape (h : wrapperForm v = true) :
    Yields (fun s => ∃ kind, textAt? v "kind" = some kind ∧ ShapeMatches ns types v kind s)
      (readShape ns types v place) := by
  unfold wrapperForm at h
  unfold readShape
  simp only [get_eq_valueAt h, readInline_eq h, ok_bind]
  refine yields_require_text h (by simp) fun kind hkind => ?_
  rw [hkind] at h
  split
  · next heq =>
    cases heq
    exact (yields_require h).bind fun getTypeFn _ =>
      (yields_readAncestors h (by simp [shapeFields])).bind fun parents _ => .ok _
  · next heq =>
    cases heq
    exact yields_readObject h (by simp [shapeFields])
  · next heq =>
    cases heq
    exact yields_readObject h (by simp [shapeFields])
  · next heq =>
    cases heq
    refine (yields_require h).bind fun x hx => ?_
    have hcopy : copyForm x = true := form_of_field? h (by simp [shapeFields]) hx
    exact (yields_readCopy hcopy).bind fun copy _ => (yields_require h).bind fun freeFn _ =>
      (yields_versionAt h (by simp [shapeFields])).bind fun w _ => .ok _
  · next heq =>
    cases heq
    exact (yields_require h).bind fun getTypeFn _ => .ok _
  · next heq =>
    cases heq
    exact (yields_require h).bind fun refFn _ => (yields_require h).bind fun unrefFn _ =>
      (yields_versionAt h (by simp [shapeFields])).bind fun w _ => .ok _
  · next hfundamental hobject hinterface hboxed hautoBoxed hshared =>
    refine (Yields.refuse _).congr fun s => iff_of_false id ?_
    unfold ShapeMatches
    split
    · exact absurd rfl hfundamental
    · exact absurd rfl hobject
    · exact absurd rfl hinterface
    · exact absurd rfl hboxed
    · exact absurd rfl hautoBoxed
    · exact absurd rfl hshared
    · exact id

/-! ## Wrappers -/

/-- Whether a derive attribute is the one that a value describes. -/
structure DeriveEntry.Matches (v : Json) (e : DeriveEntry) : Prop where
  names : field? v "names" = some (.array e.names)
  cfg : e.cfg = valueAt v "cfg_condition"

theorem yields_readDerive (h : deriveForm v = true) :
    Yields (DeriveEntry.Matches v) (readDerive place v) := by
  unfold readDerive
  simp only [get_eq_valueAt h, ok_bind]
  refine ((yields_require h).bind fun x hx => (?_ : Yields (fun e : DeriveEntry =>
    x = .array e.names ∧ e.cfg = valueAt v "cfg_condition") _)).congr fun e => ⟨?_, fun he => ?_⟩
  · obtain ⟨vs, rfl, -⟩ := listOf_iff.1 (form_of_field? (f := listOf isText) h (by simp) hx)
    refine (Yields.ok _).congr fun e => ⟨?_, ?_⟩
    · rintro rfl
      exact ⟨rfl, rfl⟩
    · rintro ⟨hnames, hcfg⟩
      rw [← hcfg, Json.array.inj hnames]
  · rintro ⟨_, hx, rfl, hcfg⟩
    exact ⟨hx, hcfg⟩
  · exact ⟨_, he.names, rfl, he.cfg⟩

/-- Whether a function is the one that a value describes. -/
structure FunctionEntry.Matches (v : Json) (e : FunctionEntry) : Prop where
  name : field? v "name" = some e.name
  parameterCount : e.parameterCount = valueAt v "parameter_count" (.int 0)
  hidden : e.hidden = valueAt v "hidden" (.bool false)
  needGenerate : e.needGenerate = valueAt v "need_generate" (.bool true)
  returnsValue : e.returnsValue = valueAt v "returns_value" (.bool true)
  nullable : e.nullable = valueAt v "ret_nullable" (.bool false)
  version : WritesVersion v "version" e.version

theorem yields_readFunction (h : functionForm v = true) :
    Yields (FunctionEntry.Matches v) (readFunction place v) := by
  unfold readFunction
  simp only [getD_eq_valueAt h, ok_bind]
  refine ((yields_require h).bind fun name _ => (yields_versionAt h (by simp)).bind fun w _ =>
    .ok _).congr fun e => ⟨?_, fun he => ?_⟩
  · rintro ⟨name, hname, w, hw, rfl⟩
    exact ⟨hname, rfl, rfl, rfl, rfl, rfl, hw⟩
  · refine ⟨e.name, he.name, e.version, he.version, ?_⟩
    rw [← he.parameterCount, ← he.hidden, ← he.needGenerate, ← he.returnsValue, ← he.nullable]

theorem yields_readVisibility {keyword : String} :
    Yields (fun visibility => Visibility.parse? keyword = some visibility)
      (readVisibility (.string keyword) place) := by
  have heq : readVisibility (.string keyword) place = (Visibility.parse? keyword).elim
      (refuse (.unknownVisibility place keyword)) .ok := by
    simp only [readVisibility, text, ok_bind]
    cases Visibility.parse? keyword <;> rfl
  rw [heq]
  exact .elim _ _

/-- Whether a wrapper is the one that a value describes. -/
structure WrapperEntry.Matches (ns : List NamespaceEntry) (types : TypeTable TypeEntry) (v : Json)
    (e : WrapperEntry) : Prop where
  typeName : field? v "type_name" = some e.typeName
  cName : field? v "glib_name" = some e.cName
  visibility : Visibility.parse? ((textAt? v "visibility").getD "pub") = some e.visibility
  docAlias : e.docAlias = valueAt v "doc_alias"
  derives : List.Forall₂ DeriveEntry.Matches (listAt v "derives") e.derives
  functions : List.Forall₂ FunctionEntry.Matches (listAt v "functions") e.functions
  shape : ∃ kind, textAt? v "kind" = some kind ∧ ShapeMatches ns types v kind e.shape
  hasBuilder : e.hasBuilder = valueAt v "has_builder" (.bool false)

theorem yields_readWrapper (h : wrapperForm v = true) :
    Yields (WrapperEntry.Matches ns types v) (readWrapper ns types v) := by
  have hobject := h
  unfold wrapperForm at hobject
  unfold readWrapper
  simp only [getD_eq_valueAt hobject, get_eq_valueAt hobject,
    valueAt_text (k := "visibility") hobject (by simp),
    itemsAt_eq (f := deriveForm) (k := "derives") hobject (by simp),
    itemsAt_eq (f := functionForm) (k := "functions") hobject (by simp), ok_bind]
  have hderives : ∀ place, Yields (List.Forall₂ DeriveEntry.Matches (listAt v "derives"))
      ((listAt v "derives").mapM (readDerive place)) :=
    fun _ => yields_mapM_listAt hobject (by simp) fun _ => yields_readDerive
  have hfunctions : ∀ place, Yields (List.Forall₂ FunctionEntry.Matches (listAt v "functions"))
      ((listAt v "functions").mapM (readFunction place)) :=
    fun _ => yields_mapM_listAt hobject (by simp) fun _ => yields_readFunction
  refine ((yields_require hobject).bind fun typeName _ => yields_readVisibility.bind
    fun visibility _ => (yields_require hobject).bind fun cName _ => (hderives _).bind
      fun derives _ => (hfunctions _).bind fun functions _ => (yields_readShape h).bind
        fun shape _ => .ok _).congr fun e => ⟨?_, fun he => ?_⟩
  · rintro ⟨typeName, htypeName, visibility, hvisibility, cName, hcName, derives, hderives,
      functions, hfunctions, shape, hshape, rfl⟩
    exact ⟨htypeName, hcName, hvisibility, rfl, hderives, hfunctions, hshape, rfl⟩
  · refine ⟨e.typeName, he.typeName, e.visibility, he.visibility, e.cName, he.cName, e.derives,
      he.derives, e.functions, he.functions, e.shape, he.shape, ?_⟩
    rw [← he.docAlias, ← he.hasBuilder]

end Bindery.Description
