import Bindery.Import.Labelled
import Bindery.Proofs.Description.Form
import Bindery.Proofs.Import.Registered

/-!
# Imports of texts under labels

Where all names and constraints are texts, imports under labels are those of the texts: asking for a
name never fails, and a description makes the calls that its imports stand for.
-/

namespace Bindery

/-! ## Increasing lists of images -/

namespace Ordered

variable {α β κ ι : Type}

section Sets

variable {cmp : α → α → Ordering} {cmp' : β → β → Ordering} {f : α → β}
  (h : ∀ a b, cmp' (f a) (f b) = cmp a b)

include h

theorem insert_map (a : α) (as : List α) :
    insert cmp' (f a) (as.map f) = (insert cmp a as).map f := by
  induction as with
  | nil => rfl
  | cons b as ih =>
    rw [List.map_cons, insert, insert, h]
    cases cmp a b with
    | lt => rfl
    | eq => rfl
    | gt => exact congrArg _ ih

theorem ofList_map (as : List α) : ofList cmp' (as.map f) = (ofList cmp as).map f := by
  induction as with
  | nil => rfl
  | cons a as ih =>
    show insert cmp' (f a) (ofList cmp' (as.map f)) = (insert cmp a (ofList cmp as)).map f
    rw [ih, insert_map h]

end Sets

section Maps

variable {cmp : κ → κ → Ordering} {cmp' : ι → ι → Ordering} {f : κ → ι} {g : α → β}
  (h : ∀ k l, cmp' (f k) (f l) = cmp k l)

include h

theorem alter_map {u : Option α → α} {u' : Option β → β} (hu : ∀ o, u' (o.map g) = g (u o)) (k : κ)
    (ps : List (κ × α)) :
    alter cmp' (f k) u' (ps.map (Prod.map f g)) = (alter cmp k u ps).map (Prod.map f g) := by
  have hnone : u' none = g (u none) := hu none
  induction ps with
  | nil => simp [alter, hnone]
  | cons p ps ih =>
    rw [List.map_cons, alter, alter, Prod.map_fst, h]
    cases cmp k p.1 with
    | lt => simp [hnone]
    | eq => simp [← hu]
    | gt => exact congrArg _ ih

theorem find?_map (k : κ) (ps : List (κ × α)) :
    find? cmp' (f k) (ps.map (Prod.map f g)) = (find? cmp k ps).map g := by
  unfold find?
  simp [List.find?_map, Function.comp_def, h]

end Maps

end Ordered

/-! ## Texts as labels -/

/-- The scope with its constraints as labels. -/
def Scope.labels (s : Scope String) : Scope Label := ⟨s.constraints.map Json.string, s.version⟩

/-- The imports with their names and constraints as labels. -/
def Imports.labels (i : Imports String) : Imports Label :=
  ⟨i.entries.map (Prod.map Json.string Scope.labels)⟩

theorem compare_labels (s t : String) :
    (compare (Json.string s : Label) (Json.string t) : Ordering) = compare s t := rfl

theorem Scope.labels_of (cs : List String) (v : Option Version) :
    (Scope.of cs v).labels = Scope.of (cs.map Json.string) v := by
  unfold Scope.of Scope.labels
  rw [Ordered.ofList_map compare_labels]

theorem Scope.labels_weaken (s t : Scope String) :
    (s.weaken t).labels = s.labels.weaken t.labels := by
  unfold Scope.weaken
  rw [Scope.labels_of]
  congr 1
  unfold Scope.mergeConstraints Scope.labels
  cases s.constraints with
  | nil => rfl
  | cons c cs =>
    cases t.constraints with
    | nil => rfl
    | cons d ds => simp

theorem Imports.labels_add (i : Imports String) (name : String) (v : Option Version)
    (cs : List String) :
    i.labels.add (.string name) v (cs.map Json.string) = (i.add name v cs).labels := by
  unfold Imports.add Imports.labels
  refine congrArg Imports.mk (Ordered.alter_map compare_labels (fun o => ?_) name i.entries)
  rw [← Scope.labels_of]
  cases o with
  | none => rfl
  | some s => exact (Scope.labels_weaken s (Scope.of cs v)).symm

theorem areSortable_strings (cs : List String) : Label.areSortable (cs.map Json.string) = true := by
  cases cs with
  | nil => rfl
  | cons c cs => simp [Label.areSortable, Label.rank]

/-- Asking for a text never fails among texts. -/
theorem Imports.addLabel?_labels (i : Imports String) (name : String) (v : Option Version)
    (cs : List String) :
    i.labels.addLabel? (.string name) v (cs.map Json.string) = some (i.add name v cs).labels := by
  have hplain : (cs.map Json.string).all Label.isPlain = true := by
    simp [Label.isPlain]
  have hafter : (((i.add name v cs).labels.scope? (.string name)).all fun s =>
      Label.areSortable s.constraints) = true := by
    unfold Imports.scope? Imports.labels
    rw [Ordered.find?_map compare_labels]
    cases Ordered.find? compare name (i.add name v cs).entries with
    | none => rfl
    | some s => exact areSortable_strings s.constraints
  unfold Imports.addLabel?
  rw [hplain, areSortable_strings, Imports.labels_add]
  simp [Label.isPlain, hafter]

theorem mapM_text?_strings (cs : List String) :
    (cs.map Json.string).mapM Label.text? = some cs := by
  induction cs with
  | nil => rfl
  | cons c cs ih =>
    rw [List.map_cons, List.mapM_cons, ih]
    rfl

theorem Imports.texts?_labels (i : Imports String) : i.labels.texts? = some i := by
  have hentries : ∀ es : List (String × Scope String),
      ((es.map (Prod.map Json.string Scope.labels)).mapM fun (e : Label × Scope Label) => do
        return (← Label.text? e.1, ← e.2.texts?)) = some es := by
    intro es
    induction es with
    | nil => rfl
    | cons e es ih =>
      have hscope : e.2.labels.texts? = some e.2 := by
        unfold Scope.texts? Scope.labels
        rw [mapM_text?_strings]
        rfl
      rw [List.map_cons, List.mapM_cons, ih, Prod.map_snd, hscope]
      rfl
  unfold Imports.texts? Imports.labels
  rw [hentries]
  rfl

/-! ## The calls of a description -/

namespace Description

/-- The call that an import of a description stands for. -/
def readAsk (v : Json) : Except Failure Ask := do
  let name ← text (← require v "name" "imports")
  let version ← versionAt v "version" "imports.version"
  let constraints ← (← itemsAt v "constraints").mapM text
  return ⟨name, version, constraints⟩

theorem mapM_text {vs : List Json} (h : ∀ v ∈ vs, isText v = true) :
    ∃ ss, vs = ss.map Json.string ∧ vs.mapM text = .ok ss := by
  induction vs with
  | nil => exact ⟨[], rfl, rfl⟩
  | cons v vs ih =>
    obtain ⟨s, rfl⟩ := isText_iff.1 (h v (by simp))
    obtain ⟨ss, rfl, hss⟩ := ih fun x hx => h x (by simp [hx])
    refine ⟨s :: ss, rfl, ?_⟩
    rw [List.mapM_cons, hss]
    rfl

theorem readImport_labels {v : Json} (h : importForm v = true) (i : Imports String) :
    readImport i.labels v =
      (readAsk v).map fun a => (i.add a.name a.version a.constraints).labels := by
  obtain ⟨cs, hlist, hcs⟩ :=
    mapM_text (forall_listAt (f := isText) (k := "constraints") h (by simp))
  unfold readImport readAsk
  cases hname : require v "name" "imports" with
  | error e => rfl
  | ok x =>
    obtain ⟨name, rfl, -⟩ := require_text h (by simp) hname
    cases versionAt v "version" "imports.version" with
    | error e => rfl
    | ok version =>
      have htext : text (.string name) = .ok name := rfl
      rw [itemsAt_eq (f := isText) h (by simp)]
      simp only [ok_bind, htext]
      rw [hcs, hlist, Imports.addLabel?_labels]
      rfl

/-- Reading imports is making their calls. -/
theorem foldlM_readImport {vs : List Json} (h : ∀ v ∈ vs, importForm v = true)
    (i : Imports String) : vs.foldlM readImport i.labels =
      (vs.mapM readAsk).map fun asks =>
        (asks.foldl (fun i a => i.add a.name a.version a.constraints) i).labels := by
  induction vs generalizing i with
  | nil => rfl
  | cons v vs ih =>
    rw [List.foldlM_cons, List.mapM_cons, readImport_labels (h v (by simp))]
    cases readAsk v with
    | error e => rfl
    | ok a =>
      show vs.foldlM readImport (i.add a.name a.version a.constraints).labels = _
      rw [ih fun x hx => h x (by simp [hx])]
      cases vs.mapM readAsk <;> rfl

/-- The imports that are read are those of the calls. -/
theorem readImports_eq {vs : List Json} (h : ∀ v ∈ vs, importForm v = true) :
    vs.foldlM readImport {} =
      (vs.mapM readAsk).map fun asks => (Imports.ofAsks asks).labels :=
  foldlM_readImport h {}

end Description

end Bindery
