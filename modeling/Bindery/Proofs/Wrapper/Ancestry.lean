import Bindery.Proofs.Library
import Bindery.Proofs.Wrapper.Shapes

/-!
# The ancestors that a declaration names

An interface names all its active ancestors. An object names those that are classes and those that
are interfaces, each group in the order of the ancestors. None is named twice, left out or moved.
-/

namespace Bindery

theorem Label.text_eq_ok_iff {l : Label} {s : String} : l.text = .ok s ↔ l = .string s := by
  cases l <;> simp [Label.text, Label.text?, Cause.throw]

/-- Whether an ancestor is a class of a library. -/
def Library.isClass (l : Library) (p : Ancestor) : Bool :=
  match l.types.get? p.id with
  | some (.classType _ _ _) => true
  | _ => false

/-- Whether an ancestor is an interface of a library. -/
def Library.isInterface (l : Library) (p : Ancestor) : Bool :=
  match l.types.get? p.id with
  | some (.interfaceType _) => true
  | _ => false

/-- Whether an ancestor is neither. -/
def Library.isOther (l : Library) (p : Ancestor) : Bool := !l.isClass p && !l.isInterface p

namespace Wrapper

open Emit

/-! ## Names -/

/-- What an ancestor is called: its name, which stands behind the crate of its namespace unless
this is the one being bound. -/
inductive Names (l : Library) (p : Ancestor) : String → Prop
  | main {s : String} (hns : p.id.ns = mainId) (hname : p.name = .string s) : Names l p s
  | foreign {n : Namespace} (hns : p.id.ns ≠ mainId) (hnamespace : l.namespace? p.id.ns = some n) :
    Names l p (n.crateName ++ "::" ++ p.name.display)

variable {env : Env} {ps : List Ancestor} {s : String}

theorem names_iff {p : Ancestor} :
    (∃ name, qualifiedName env p = .ok name ∧ name.text = .ok s) ↔ Names env.library p s := by
  unfold qualifiedName
  constructor
  · rintro ⟨name, hname, htext⟩
    obtain rfl := Label.text_eq_ok_iff.1 htext
    split at hname
    · next hns => exact .main hns (Except.ok.inj hname)
    · next hns =>
      obtain ⟨n, hn, heq⟩ := map_eq_ok_iff.1 hname
      cases heq
      exact .foreign hns (Library.findNamespace_eq_ok.1 hn)
  · intro h
    cases h with
    | main hns hname => exact ⟨p.name, if_pos hns, Label.text_eq_ok_iff.2 hname⟩
    | foreign hns hnamespace =>
      refine ⟨_, (if_neg hns).trans (map_eq_ok_iff.2
        ⟨_, Library.findNamespace_eq_ok.2 hnamespace, rfl⟩), rfl⟩

/-- The names of some ancestors, with commas between them. -/
theorem joined_iff :
    (∃ names, ps.mapM (qualifiedName env) = .ok names ∧ Label.joined names = .ok s) ↔
      ∃ ss, List.Forall₂ (Names env.library) ps ss ∧ ", ".intercalate ss = s := by
  have hcomp : ∀ ss, (∃ names, ps.mapM (qualifiedName env) = .ok names ∧
      names.mapM Label.text = .ok ss) ↔ List.Forall₂ (Names env.library) ps ss := by
    intro ss
    simp only [mapM_eq_ok_iff, forall₂_comp_iff, names_iff]
  constructor
  · rintro ⟨names, hnames, hjoined⟩
    obtain ⟨ss, hss, heq⟩ := map_eq_ok_iff.1 hjoined
    exact ⟨ss, (hcomp ss).1 ⟨names, hnames, hss⟩, heq⟩
  · rintro ⟨ss, hss, heq⟩
    obtain ⟨names, hnames, htexts⟩ := (hcomp ss).2 hss
    exact ⟨names, hnames, map_eq_ok_iff.2 ⟨ss, htexts, heq⟩⟩

/-! ## Classes and interfaces -/

section Lineage

variable {p : Ancestor}

theorem lineage_class {named : NamedType} {refFn unrefFn : Option String}
    (h : env.library.types.get? p.id = some (.classType named refFn unrefFn))
    (ps : List Ancestor) : lineage env (p :: ps) = (do
      let name ← qualifiedName env p
      let rest ← lineage env ps
      return { rest with classes := name :: rest.classes }) := by
  rw [lineage, Library.findType_eq_ok.2 h]
  rfl

theorem lineage_interface {named : NamedType}
    (h : env.library.types.get? p.id = some (.interfaceType named)) (ps : List Ancestor) :
    lineage env (p :: ps) = (do
      let name ← qualifiedName env p
      let rest ← lineage env ps
      return { rest with interfaces := name :: rest.interfaces }) := by
  rw [lineage, Library.findType_eq_ok.2 h]
  rfl

theorem isOther_iff {l : Library} :
    l.isOther p = true ↔ ¬l.isClass p = true ∧ ¬l.isInterface p = true := by
  simp [Library.isOther]

theorem not_isOther_iff {l : Library} :
    ¬l.isOther p = true ↔ l.isClass p = true ∨ l.isInterface p = true := by
  rw [isOther_iff, not_and_or, not_not, not_not]

/-- What is known to be a class or an interface. -/
theorem exists_kind {l : Library} {t : LibraryType} (h : l.types.get? p.id = some t)
    (hother : ¬l.isOther p = true) :
    (∃ named refFn unrefFn, t = .classType named refFn unrefFn) ∨
      ∃ named, t = .interfaceType named := by
  unfold Library.isOther Library.isClass Library.isInterface at hother
  rw [h] at hother
  cases t with
  | classType named refFn unrefFn => exact .inl ⟨named, refFn, unrefFn, rfl⟩
  | interfaceType named => exact .inr ⟨named, rfl⟩
  | recordType named => exact absurd rfl hother
  | bare => exact absurd rfl hother

/-- What is known to be neither is left out. -/
theorem lineage_other {t : LibraryType} (h : env.library.types.get? p.id = some t)
    (hother : env.library.isOther p = true) (ps : List Ancestor) :
    lineage env (p :: ps) = lineage env ps := by
  rw [lineage, Library.findType_eq_ok.2 h]
  unfold Library.isOther Library.isClass Library.isInterface at hother
  rw [h] at hother
  cases t with
  | classType named refFn unrefFn => cases hother
  | interfaceType named => cases hother
  | recordType named => rfl
  | bare => rfl

theorem lineage_missing (h : env.library.types.get? p.id = none) (ps : List Ancestor) :
    lineage env (p :: ps) = .error
      ⟨.unknownType p.id, some ⟨(env.library.namespace? p.id.ns).map (·.name), none⟩⟩ := by
  rw [lineage, Library.findType, h]
  rfl

theorem listed_eq_ok_iff {put : Label → Lineage → Lineage} {l : Lineage} :
    (do
      let name ← qualifiedName env p
      let rest ← lineage env ps
      return put name rest) = .ok l ↔
      ∃ name rest, qualifiedName env p = .ok name ∧ lineage env ps = .ok rest ∧
        put name rest = l := by
  constructor
  · intro h
    obtain ⟨name, hname, h⟩ := bind_eq_ok_iff.1 h
    obtain ⟨rest, hrest, h⟩ := bind_eq_ok_iff.1 h
    exact ⟨name, rest, hname, hrest, Except.ok.inj h⟩
  · rintro ⟨name, rest, hname, hrest, rfl⟩
    exact bind_eq_ok_iff.2 ⟨name, hname, bind_eq_ok_iff.2 ⟨rest, hrest, rfl⟩⟩

/-- A lineage has the classes and the interfaces among some ancestors, all of which are known. -/
theorem lineage_eq_ok_iff {l : Lineage} : lineage env ps = .ok l ↔
    (∀ p ∈ ps, env.library.types.get? p.id ≠ none) ∧
      (ps.filter env.library.isClass).mapM (qualifiedName env) = .ok l.classes ∧
      (ps.filter env.library.isInterface).mapM (qualifiedName env) = .ok l.interfaces := by
  induction ps generalizing l with
  | nil =>
    obtain ⟨classes, interfaces⟩ := l
    simp [lineage, pure, Except.pure, eq_comm]
  | cons p ps ih =>
    rw [List.forall_mem_cons]
    cases ht : env.library.types.get? p.id with
    | none => simp [lineage_missing ht]
    | some t =>
      by_cases hother : env.library.isOther p = true
      · obtain ⟨hclass, hinterface⟩ := isOther_iff.1 hother
        rw [lineage_other ht hother, ih, List.filter_cons_of_neg hclass,
          List.filter_cons_of_neg hinterface]
        simp
      · rcases exists_kind ht hother with ⟨named, refFn, unrefFn, rfl⟩ | ⟨named, rfl⟩
        · rw [lineage_class ht, listed_eq_ok_iff,
            List.filter_cons_of_pos (by simp [Library.isClass, ht]),
            List.filter_cons_of_neg (by simp [Library.isInterface, ht]), mapM_cons_eq_ok_iff]
          constructor
          · rintro ⟨name, rest, hname, hrest, rfl⟩
            obtain ⟨hknown, hclasses, hinterfaces⟩ := ih.1 hrest
            exact ⟨⟨by simp, hknown⟩, ⟨name, _, hname, hclasses, rfl⟩, hinterfaces⟩
          · rintro ⟨⟨-, hknown⟩, ⟨name, names, hname, hnames, heq⟩, hinterfaces⟩
            exact ⟨name, ⟨names, l.interfaces⟩, hname, ih.2 ⟨hknown, hnames, hinterfaces⟩,
              congrArg (Lineage.mk · l.interfaces) heq.symm⟩
        · rw [lineage_interface ht, listed_eq_ok_iff,
            List.filter_cons_of_neg (by simp [Library.isClass, ht]),
            List.filter_cons_of_pos (by simp [Library.isInterface, ht]), mapM_cons_eq_ok_iff]
          constructor
          · rintro ⟨name, rest, hname, hrest, rfl⟩
            obtain ⟨hknown, hclasses, hinterfaces⟩ := ih.1 hrest
            exact ⟨⟨by simp, hknown⟩, hclasses, ⟨name, _, hname, hinterfaces, rfl⟩⟩
          · rintro ⟨⟨-, hknown⟩, hclasses, ⟨name, names, hname, hnames, heq⟩⟩
            exact ⟨name, ⟨l.classes, names⟩, hname, ih.2 ⟨hknown, hclasses, hnames⟩,
              congrArg (Lineage.mk l.classes) heq.symm⟩

end Lineage

/-! ## Clauses -/

/-- A keyword and the names that it governs, if there are any. -/
def clausePart (keyword : String) (ss : List String) : String :=
  if ss = [] then "" else " " ++ keyword ++ " " ++ ", ".intercalate ss

/-- What an object extends and what it implements, with a comma between the two. -/
def lineageText (classes interfaces : List String) : String :=
  clausePart "@extends" classes ++ (if classes = [] ∨ interfaces = [] then "" else ",") ++
    clausePart "@implements" interfaces

theorem clause_iff {keyword : String} {c : Option String} :
    (∃ names, ps.mapM (qualifiedName env) = .ok names ∧ clause keyword names = .ok c) ↔
      ∃ ss, List.Forall₂ (Names env.library) ps ss ∧
        (if ss = [] then none else some (clausePart keyword ss)) = c := by
  cases ps with
  | nil => simp [clause, pure, Except.pure]
  | cons p ps =>
    constructor
    · rintro ⟨names, hnames, hclause⟩
      obtain ⟨name, rest, -, -, rfl⟩ := mapM_cons_eq_ok_iff.1 hnames
      obtain ⟨s, hs, rfl⟩ := map_eq_ok_iff.1 hclause
      obtain ⟨ss, hss, rfl⟩ := joined_iff.1 ⟨_, hnames, hs⟩
      cases hss
      exact ⟨_, .cons ‹_› ‹_›, rfl⟩
    · rintro ⟨ss, hss, rfl⟩
      obtain ⟨names, hnames, hjoined⟩ := joined_iff.2 ⟨ss, hss, rfl⟩
      obtain ⟨name, rest, -, -, rfl⟩ := mapM_cons_eq_ok_iff.1 hnames
      refine ⟨_, hnames, map_eq_ok_iff.2 ⟨_, hjoined, ?_⟩⟩
      cases hss
      rfl

theorem intercalate_clauses (classes interfaces : List String) :
    ",".intercalate
        ((if classes = [] then none else some (clausePart "@extends" classes)).toList ++
          (if interfaces = [] then none else some (clausePart "@implements" interfaces)).toList) =
      lineageText classes interfaces := by
  unfold lineageText
  cases classes <;> cases interfaces <;> simp [clausePart]

/-- The lineage of some ancestors as it ends a declaration. -/
theorem lineageText_iff : (∃ l, lineage env ps = .ok l ∧ l.text = .ok s) ↔
    (∀ p ∈ ps, env.library.types.get? p.id ≠ none) ∧ ∃ classes interfaces,
      List.Forall₂ (Names env.library) (ps.filter env.library.isClass) classes ∧
        List.Forall₂ (Names env.library) (ps.filter env.library.isInterface) interfaces ∧
          lineageText classes interfaces = s := by
  constructor
  · rintro ⟨l, hl, htext⟩
    obtain ⟨hknown, hclasses, hinterfaces⟩ := lineage_eq_ok_iff.1 hl
    obtain ⟨c, hc, htext⟩ := bind_eq_ok_iff.1 htext
    obtain ⟨i, hi, htext⟩ := bind_eq_ok_iff.1 htext
    obtain rfl := Except.ok.inj htext
    obtain ⟨cs, hcs, rfl⟩ := clause_iff.1 ⟨l.classes, hclasses, hc⟩
    obtain ⟨is, his, rfl⟩ := clause_iff.1 ⟨l.interfaces, hinterfaces, hi⟩
    exact ⟨hknown, cs, is, hcs, his, (intercalate_clauses cs is).symm⟩
  · rintro ⟨hknown, cs, is, hcs, his, rfl⟩
    obtain ⟨classes, hclasses, hc⟩ := clause_iff.2 ⟨cs, hcs, rfl⟩
    obtain ⟨interfaces, hinterfaces, hi⟩ := clause_iff.2 ⟨is, his, rfl⟩
    refine ⟨⟨classes, interfaces⟩, lineage_eq_ok_iff.2 ⟨hknown, hclasses, hinterfaces⟩, ?_⟩
    refine bind_eq_ok_iff.2 ⟨_, hc, bind_eq_ok_iff.2 ⟨_, hi, ?_⟩⟩
    exact congrArg Except.ok (intercalate_clauses cs is)

/-! ## Behind the storage -/

/-- What follows the storage of an object or an interface. -/
inductive Follows (env : Env) (k : Object) : String → Prop
  /-- There are no ancestors to name. -/
  | nothing (hnil : activeAncestors k.parents = []) : Follows env k ""
  /-- An interface requires all of them. -/
  | requires {ss : List String} (hinterface : k.isInterface = true)
    (hne : activeAncestors k.parents ≠ [])
    (hnames : List.Forall₂ (Names env.library) (activeAncestors k.parents) ss) :
    Follows env k (" @requires " ++ ", ".intercalate ss)
  /-- An object extends the classes among them and implements the interfaces, and it names no
  others. -/
  | lineage {classes interfaces : List String} (hobject : k.isInterface = false)
    (hne : activeAncestors k.parents ≠ [])
    (hknown : ∀ p ∈ activeAncestors k.parents, env.library.types.get? p.id ≠ none)
    (hclasses : List.Forall₂ (Names env.library)
      ((activeAncestors k.parents).filter env.library.isClass) classes)
    (hinterfaces : List.Forall₂ (Names env.library)
      ((activeAncestors k.parents).filter env.library.isInterface) interfaces) :
    Follows env k (lineageText classes interfaces)

theorem ancestryText_of_interface {k : Object} (hinterface : k.isInterface = true)
    (hne : activeAncestors k.parents ≠ []) : ancestryText env k = (do
      let names ← (activeAncestors k.parents).mapM (qualifiedName env)
      return " @requires " ++ (← Label.joined names)) := by
  unfold ancestryText
  cases hps : activeAncestors k.parents with
  | nil => exact absurd hps hne
  | cons p ps => exact if_pos hinterface

theorem ancestryText_of_object {k : Object} (hobject : k.isInterface = false)
    (hne : activeAncestors k.parents ≠ []) :
    ancestryText env k = (do (← lineage env (activeAncestors k.parents)).text) := by
  unfold ancestryText
  cases hps : activeAncestors k.parents with
  | nil => exact absurd hps hne
  | cons p ps => exact if_neg (by simp [hobject])

theorem ancestryText_eq_ok_iff {k : Object} : ancestryText env k = .ok s ↔ Follows env k s := by
  by_cases hnil : activeAncestors k.parents = []
  · have htext : ancestryText env k = .ok "" := by
      unfold ancestryText
      rw [hnil]
    rw [htext]
    constructor
    · intro h
      obtain rfl := Except.ok.inj h
      exact .nothing hnil
    · intro h
      cases h with
      | nothing _ => rfl
      | requires _ hne _ => exact absurd hnil hne
      | lineage _ hne _ _ _ => exact absurd hnil hne
  · cases hinterface : k.isInterface with
    | true =>
      rw [ancestryText_of_interface hinterface hnil]
      constructor
      · intro h
        obtain ⟨names, hnames, h⟩ := bind_eq_ok_iff.1 h
        obtain ⟨text, htext, h⟩ := bind_eq_ok_iff.1 h
        obtain rfl := Except.ok.inj h
        obtain ⟨ss, hss, rfl⟩ := joined_iff.1 ⟨names, hnames, htext⟩
        exact .requires hinterface hnil hss
      · intro h
        cases h with
        | nothing h => exact absurd h hnil
        | requires _ _ hss =>
          obtain ⟨names, hnames, htext⟩ := joined_iff.2 ⟨_, hss, rfl⟩
          exact bind_eq_ok_iff.2 ⟨names, hnames, bind_eq_ok_iff.2 ⟨_, htext, rfl⟩⟩
        | lineage hobject _ _ _ _ => simp [hinterface] at hobject
    | false =>
      rw [ancestryText_of_object hinterface hnil, bind_eq_ok_iff, lineageText_iff]
      constructor
      · rintro ⟨hknown, classes, interfaces, hclasses, hinterfaces, rfl⟩
        exact .lineage hinterface hnil hknown hclasses hinterfaces
      · intro h
        cases h with
        | nothing h => exact absurd h hnil
        | requires h _ _ => simp [hinterface] at h
        | lineage _ _ hknown hclasses hinterfaces =>
          exact ⟨hknown, _, _, hclasses, hinterfaces, rfl⟩

/-! ## The whole declaration -/

/-- Of the ancestors only those that are active count. -/
theorem render_object_eq_of_active {info : Info} {k : Object}
    (h : activeAncestors k.parents = activeAncestors ps) :
    render env info (.object k) = render env info (.object { k with parents := ps }) := by
  show renderObject env info k = renderObject env info { k with parents := ps }
  unfold renderObject ancestryText
  rw [h]
  rfl

/-- Each ancestor is a class, an interface or something else, as often as it occurs. -/
theorem kinds_perm (l : Library) (ps : List Ancestor) :
    (ps.filter l.isClass ++ (ps.filter l.isInterface ++ ps.filter l.isOther)).Perm ps := by
  have hinterface : (ps.filter (!l.isClass ·)).filter l.isInterface = ps.filter l.isInterface := by
    rw [List.filter_filter]
    refine List.filter_congr fun p _ => ?_
    unfold Library.isClass Library.isInterface
    cases l.types.get? p.id with
    | none => rfl
    | some t => cases t <;> rfl
  have hother : (ps.filter (!l.isClass ·)).filter (!l.isInterface ·) = ps.filter l.isOther := by
    rw [List.filter_filter]
    exact List.filter_congr fun p _ => Bool.and_comm _ _
  have hrest := List.filter_append_perm l.isInterface (ps.filter (!l.isClass ·))
  rw [hinterface, hother] at hrest
  exact (hrest.append_left _).trans (List.filter_append_perm l.isClass ps)

/-- How an object or an interface that can be declared names its ancestors. -/
structure ListsAncestors (env : Env) (main : Namespace) (info : Info) (k : Object) : Prop where
  /-- What it prints is a header, the struct with what follows its storage, and the functions. -/
  lines : ∃ header suffix, Prints (opening env info) () header ∧ Follows env k suffix ∧
    Prints (render env info (.object k)) ()
      (header ++ structLine info (objectStorage main.sysCrateName info k) suffix ::
        functionLines [typeEntry main.sysCrateName k.getTypeFn])
  /-- No active ancestor is lost or repeated when they are told apart by their kinds. -/
  kinds : ((activeAncestors k.parents).filter env.library.isClass ++
    ((activeAncestors k.parents).filter env.library.isInterface ++
      (activeAncestors k.parents).filter env.library.isOther)).Perm (activeAncestors k.parents)
  /-- The classes and the interfaces stand in their order among the ancestors. -/
  ordered : ((activeAncestors k.parents).filter env.library.isClass).Sublist k.parents ∧
    ((activeAncestors k.parents).filter env.library.isInterface).Sublist k.parents
  /-- Ancestors that are not active can be replaced wherever they stand. -/
  unwanted : ∀ before hidden after hidden', k.parents = before ++ hidden ++ after →
    (∀ p ∈ hidden, p.status ≠ .active) → (∀ p ∈ hidden', p.status ≠ .active) →
    render env info (.object { k with parents := before ++ hidden' ++ after }) =
      render env info (.object k)

/-- A declaration that is rendered names the ancestors that it should, each in its place. -/
theorem ancestors_listed {env : Env} {main : Namespace} {info : Info} {k : Object}
    (hmain : env.library.namespace? mainId = some main)
    (hrender : (render env info (.object k)).result = .ok ()) :
    ListsAncestors env main info k := by
  refine ⟨?_, kinds_perm _ _, ⟨List.filter_sublist.trans List.filter_sublist,
    List.filter_sublist.trans List.filter_sublist⟩,
    fun before hidden after hidden' hps hhidden hhidden' => ?_⟩
  · obtain ⟨sysCrate, ls, suffix, hcrate, hsuffix, -, hheader, hprints⟩ := prints_object hrender
    rw [mainSysCrate_eq (Library.findNamespace_eq_ok.2 hmain)] at hcrate
    obtain rfl := Except.ok.inj hcrate
    rw [blockLines_eq] at hprints
    exact ⟨_, suffix, hheader, ancestryText_eq_ok_iff.1 hsuffix, hprints⟩
  · refine (render_object_eq_of_active ?_).symm
    rw [hps]
    exact activeAncestors_unwanted hhidden hhidden' before after

/-- An object among whose ancestors there are two classes, one of another namespace, an interface
between them, a record, and a missing type that is not wanted. -/
theorem ancestors_listed_button :
    let env : Env :=
      { library :=
          { namespaces :=
              [⟨"Gtk", "gtk", "ffi", none⟩, ⟨"GObject", "gobject", "gobject_ffi", none⟩]
            types := ⟨[(⟨0, 0⟩, .classType ⟨"Widget", "GtkWidget", none⟩ none none),
              (⟨0, 1⟩, .interfaceType ⟨"Buildable", "GtkBuildable", none⟩),
              (⟨1, 0⟩, .classType ⟨"Object", "GObject", none⟩ none none),
              (⟨1, 1⟩, .recordType ⟨"TypeInstance", "GTypeInstance", none⟩)]⟩ } }
    let info : Info := { typeName := .string "Button", cName := "GtkButton" }
    let k : Object :=
      { getTypeFn := "gtk_button_get_type"
        parents := [⟨⟨0, 0⟩, .string "Widget", .active⟩, ⟨⟨9, 9⟩, .string "Gone", .ignored⟩,
          ⟨⟨0, 1⟩, .string "Buildable", .active⟩, ⟨⟨1, 1⟩, .string "TypeInstance", .active⟩,
          ⟨⟨1, 0⟩, .string "Object", .active⟩] }
    env.library.namespace? mainId = some ⟨"Gtk", "gtk", "ffi", none⟩ ∧
      (render env info (.object k)).result = .ok () ∧
      ListsAncestors env ⟨"Gtk", "gtk", "ffi", none⟩ info k ∧
      Follows env k " @extends Widget, gobject::Object, @implements Buildable" := by
  intro env info k
  have hlists : ListsAncestors env ⟨"Gtk", "gtk", "ffi", none⟩ info k := ancestors_listed rfl rfl
  exact ⟨rfl, rfl, hlists, ancestryText_eq_ok_iff.1 rfl⟩

end Wrapper

end Bindery
