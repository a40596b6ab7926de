import Bindery.Bindings
import Bindery.Proofs.Guard.Version
import Bindery.Proofs.Result

/-!
# What a module depends on

Of the library, renderers look at the namespace being bound and at what the ids of ancestors lead
to. The ids themselves are never seen.
-/

namespace Bindery

/-! ## Agreement -/

/-- Whether two environments have the same configuration and bind the same namespace. -/
structure Env.Agrees (env env' : Env) : Prop where
  config : env.config = env'.config
  main : env.library.findNamespace mainId = env'.library.findNamespace mainId
  isGlib : env.library.isGlib = env'.library.isGlib

/-- Whether two ancestors, each in a library of its own, stand for the same type. -/
structure Ancestor.Alike (l l' : Library) (p p' : Ancestor) : Prop where
  name : p.name = p'.name
  status : p.status = p'.status
  main : p.id.ns = mainId ↔ p'.id.ns = mainId
  ns : l.findNamespace p.id.ns = l'.findNamespace p'.id.ns
  type : l.findType p.id = l'.findType p'.id

namespace Wrapper

/-- Whether two shapes differ in the ids of their ancestors at most. -/
inductive Kind.Alike (l l' : Library) : Kind → Kind → Prop
  | fundamental {getTypeFn : String} {refFn unrefFn : Option String} {ps ps' : List Ancestor}
    (hps : List.Forall₂ (Ancestor.Alike l l') ps ps') :
    Alike l l' (.fundamental ⟨getTypeFn, refFn, unrefFn, ps⟩)
      (.fundamental ⟨getTypeFn, refFn, unrefFn, ps'⟩)
  | object {getTypeFn : String} {isInterface : Bool} {classStruct : Option String}
    {ps ps' : List Ancestor} (hps : List.Forall₂ (Ancestor.Alike l l') ps ps') :
    Alike l l' (.object ⟨getTypeFn, isInterface, ps, classStruct⟩)
      (.object ⟨getTypeFn, isInterface, ps', classStruct⟩)
  | boxed (k : Boxed) : Alike l l' (.boxed k) (.boxed k)
  | autoBoxed (k : AutoBoxed) : Alike l l' (.autoBoxed k) (.autoBoxed k)
  | shared (k : Shared) : Alike l l' (.shared k) (.shared k)

theorem Kind.Alike.isSeparated_eq {l l' : Library} {kind kind' : Kind}
    (h : Kind.Alike l l' kind kind') : kind.isSeparated = kind'.isSeparated := by
  cases h <;> rfl

end Wrapper

/-- Whether two wrappers differ in the ids of ancestors at most. -/
structure WrapperSpec.Alike (l l' : Library) (w w' : WrapperSpec) : Prop where
  info : w.info = w'.info
  kind : Wrapper.Kind.Alike l l' w.kind w'.kind
  functions : w.functions = w'.functions
  hasBuilder : w.hasBuilder = w'.hasBuilder

/-- Environments agree where their libraries begin with the same namespace. -/
theorem Env.agrees_of_head? {env env' : Env} (hconfig : env.config = env'.config)
    (hhead : env.library.namespaces.head? = env'.library.namespaces.head?) : env.Agrees env' where
  config := hconfig
  main := by
    have hmain : ∀ l : Library, l.namespace? mainId = l.namespaces.head? := fun l =>
      List.head?_eq_getElem?.symm
    unfold Library.findNamespace
    rw [hmain, hmain, hhead]
  isGlib := by
    have hglib : ∀ l : Library, l.isGlib = l.namespaces.head?.any (·.name == "GLib") := by
      intro l
      unfold Library.isGlib
      cases l.namespaces <;> rfl
    rw [hglib, hglib, hhead]

variable {env env' : Env} (h : env.Agrees env')

include h

/-! ## Paths and guards -/

theorem glibPath_congr (item : String) : env.glibPath item = env'.glibPath item := by
  unfold Env.glibPath
  rw [h.isGlib]

theorem mainSysCrate_congr : env.mainSysCrate = env'.mainSysCrate := by
  unfold Env.mainSysCrate
  rw [h.main]

theorem guard?_congr (version : Option Version) :
    env.guard? none version = env'.guard? none version := by
  rw [guard?_main, guard?_main, h.config]

theorem sysCratePath_congr {p p' : Ancestor} (hp : p.Alike env.library env'.library p') :
    env.sysCratePath p.id = env'.sysCratePath p'.id := by
  unfold Env.sysCratePath
  rw [hp.ns]
  simp only [glibPath_congr h]

namespace Emit

theorem versionCondition_congr (version : Option Version) (m : Margin) :
    versionCondition env none version m = versionCondition env' none version m := by
  unfold versionCondition versionText
  rw [guard?_congr h]

theorem versionConditionNoDoc_congr (version : Option Version) (m : Margin) :
    versionConditionNoDoc env none version m = versionConditionNoDoc env' none version m := by
  unfold versionConditionNoDoc
  rw [guard?_congr h]

end Emit

/-! ## Declarations -/

namespace Wrapper

open Emit

variable {info : Info} {ps ps' : List Ancestor}

theorem failAt_congr {α : Type} (c : Cause) :
    (failAt env info c : Except InternalError α) = failAt env' info c := by
  unfold failAt
  rw [h.main]

theorem opening_congr : opening env info = opening env' info := by
  unfold opening
  rw [glibPath_congr h]

theorem inlineGroup_congr (e : Inline) : inlineGroup env info e = inlineGroup env' info e := by
  unfold inlineGroup
  rw [failAt_congr h]

theorem straddled_congr {block block' : Option String → Emit Unit} (hblock : block = block')
    (fn : Option String) (version : Option Version) :
    straddled env fn version block = straddled env' fn version block' := by
  unfold straddled
  rw [hblock, guard?_congr h, versionCondition_congr h]
  rfl

theorem boxedBlock_congr (k : Boxed) (group : Option InlineGroup) :
    boxedBlock env info k group = boxedBlock env' info k group := by
  funext fn
  unfold boxedBlock
  rw [mainSysCrate_congr h, opening_congr h]

theorem sharedBlock_congr (k : Shared) : sharedBlock env info k = sharedBlock env' info k := by
  funext fn
  unfold sharedBlock
  rw [mainSysCrate_congr h, opening_congr h]

theorem staticTypeImpl_congr (sysCrate getTypeFn : String) :
    staticTypeImpl env sysCrate info getTypeFn = staticTypeImpl env' sysCrate info getTypeFn := by
  unfold staticTypeImpl
  rw [glibPath_congr h, glibPath_congr h]

omit h in
theorem activeAncestors_congr {l l' : Library} (hps : List.Forall₂ (Ancestor.Alike l l') ps ps') :
    List.Forall₂ (Ancestor.Alike l l') (activeAncestors ps) (activeAncestors ps') :=
  List.rel_filter (fun p p' hp => by simp [hp.status]) hps

omit h in
theorem qualifiedName_congr {p p' : Ancestor} (hp : p.Alike env.library env'.library p') :
    qualifiedName env p = qualifiedName env' p' := by
  unfold qualifiedName
  rw [hp.name, hp.ns]
  simp only [hp.main]

omit h in
theorem lineage_congr (hps : List.Forall₂ (Ancestor.Alike env.library env'.library) ps ps') :
    lineage env ps = lineage env' ps' := by
  induction hps with
  | nil => rfl
  | cons hp _ ih => rw [lineage, lineage, hp.type, qualifiedName_congr hp, ih]

omit h in
theorem ancestryText_congr {k k' : Object} (hinterface : k.isInterface = k'.isInterface)
    (hps : List.Forall₂ (Ancestor.Alike env.library env'.library) k.parents k'.parents) :
    ancestryText env k = ancestryText env' k' := by
  have hactive := activeAncestors_congr hps
  unfold ancestryText
  rw [hinterface]
  generalize activeAncestors k.parents = as at hactive ⊢
  generalize activeAncestors k'.parents = as' at hactive ⊢
  cases hactive with
  | nil => rfl
  | cons hp hps =>
    have hall := List.Forall₂.cons hp hps
    have hnames := mapM_congr (hall.imp fun _ _ => qualifiedName_congr)
    simp only [hnames, lineage_congr hall]

theorem inheritFrom_congr (hps : List.Forall₂ (Ancestor.Alike env.library env'.library) ps ps') :
    inheritFrom env info ps = inheritFrom env' info ps' := by
  induction hps with
  | nil => rw [inheritFrom, inheritFrom, failAt_congr h]
  | cons hp _ ih =>
    rw [inheritFrom, inheritFrom, hp.type, ih, hp.name]
    unfold inherited
    rw [sysCratePath_congr h hp]

theorem resolveLifetime_congr {k k' : Fundamental} (hrefFn : k.refFn = k'.refFn)
    (hunrefFn : k.unrefFn = k'.unrefFn)
    (hps : List.Forall₂ (Ancestor.Alike env.library env'.library) k.parents k'.parents) :
    resolveLifetime env info k = resolveLifetime env' info k' := by
  have hactive := activeAncestors_congr hps
  unfold resolveLifetime
  rw [mainSysCrate_congr h, hrefFn, hunrefFn]
  generalize activeAncestors k.parents = as at hactive ⊢
  generalize activeAncestors k'.parents = as' at hactive ⊢
  cases hactive with
  | nil => simp only [failAt_congr h]
  | cons hp hps => simp only [inheritFrom_congr h (List.Forall₂.cons hp hps)]

/-- Declarations are the same where the environments agree. -/
theorem render_congr {kind kind' : Kind} (hkind : Kind.Alike env.library env'.library kind kind') :
    render env info kind = render env' info kind' := by
  cases hkind with
  | @fundamental getTypeFn refFn unrefFn ps ps' hps =>
    have hlifetime : resolveLifetime env info ⟨getTypeFn, refFn, unrefFn, ps⟩ =
        resolveLifetime env' info ⟨getTypeFn, refFn, unrefFn, ps'⟩ :=
      resolveLifetime_congr h rfl rfl hps
    show renderFundamental env info _ = renderFundamental env' info _
    unfold renderFundamental
    rw [mainSysCrate_congr h, hlifetime, opening_congr h]
    simp only [staticTypeImpl_congr h]
  | @object getTypeFn isInterface classStruct ps ps' hps =>
    have hancestry : ancestryText env ⟨getTypeFn, isInterface, ps, classStruct⟩ =
        ancestryText env' ⟨getTypeFn, isInterface, ps', classStruct⟩ :=
      ancestryText_congr rfl hps
    show renderObject env info _ = renderObject env' info _
    unfold renderObject
    rw [mainSysCrate_congr h, opening_congr h, hancestry]
    rfl
  | boxed k =>
    show renderBoxed env info k = renderBoxed env' info k
    unfold renderBoxed
    rw [inlineGroup_congr h]
    simp only [straddled_congr h (boxedBlock_congr h k _)]
  | autoBoxed k =>
    show renderAutoBoxed env info k = renderAutoBoxed env' info k
    unfold renderAutoBoxed
    rw [mainSysCrate_congr h, inlineGroup_congr h, opening_congr h]
    simp only [glibPath_congr h]
  | shared k =>
    show renderShared env info k = renderShared env' info k
    unfold renderShared
    rw [straddled_congr h (sharedBlock_congr h k)]

end Wrapper

/-! ## Imports and wrappers -/

namespace Emit

theorem aggregate_congr {κ : Type} [Ord κ] (rs : List (ImportRequest κ)) (outer : Option Version) :
    ImportGroup.aggregate env rs outer = ImportGroup.aggregate env' rs outer := by
  have hkey : ImportGroup.keyOf (κ := κ) env outer = ImportGroup.keyOf env' outer := by
    funext r
    unfold ImportGroup.keyOf Scope.normalize? Scope.neededVersion
    rw [h.config]
  unfold ImportGroup.aggregate
  rw [hkey]

theorem importGroup_congr (g : ImportGroup String) : importGroup env g = importGroup env' g := by
  unfold importGroup scopeAttributes
  simp only [versionConditionNoDoc_congr h]

theorem uses_congr (i : Imports String) : uses env i none = uses env' i none := by
  have hgroups : ∀ gs, importGroups env gs = importGroups env' gs := by
    intro gs
    induction gs with
    | nil => rfl
    | cons g gs ih => rw [importGroups, importGroups, importGroup_congr h, ih]
  unfold uses
  simp only [aggregate_congr h, hgroups]

theorem labelUses_congr (i : Imports Label) : labelUses env i = labelUses env' i := by
  have hgroups : ∀ gs, labelGroups env gs = labelGroups env' gs := by
    intro gs
    induction gs with
    | nil => rfl
    | cons g gs ih => rw [labelGroups, labelGroups, ih]; simp only [importGroup_congr h]
  unfold labelUses
  simp only [aggregate_congr h, hgroups]

theorem importBlock_congr (i : Imports Label) : importBlock env i = importBlock env' i := by
  unfold importBlock
  simp only [uses_congr h, labelUses_congr h]

theorem defaultImpl_congr (typeName : String) (fs : List Function) (hasBuilder : Bool) :
    defaultImpl env typeName fs hasBuilder = defaultImpl env' typeName fs hasBuilder := by
  unfold defaultImpl defaultBody?
  simp only [versionCondition_congr h, glibPath_congr h]

theorem wrapper_congr {w w' : WrapperSpec} (hw : w.Alike env.library env'.library w') :
    wrapper env w = wrapper env' w' := by
  unfold wrapper
  rw [hw.info, hw.functions, hw.hasBuilder, hw.kind.isSeparated_eq, Wrapper.render_congr h hw.kind,
    defaultImpl_congr h]

theorem wrappers_congr {ws ws' : List WrapperSpec}
    (hws : List.Forall₂ (WrapperSpec.Alike env.library env'.library) ws ws') :
    wrappers env ws = wrappers env' ws' := by
  induction hws with
  | nil => rfl
  | cons hw _ ih => rw [wrappers, wrappers, wrapper_congr h hw, ih]

omit h in
/-- Modules are the same where their parts are, whatever the ids of their ancestors. -/
theorem bindings_congr {b b' : Bindings} (henv : b.env.Agrees b'.env)
    (himports : b.imports = b'.imports)
    (hws : List.Forall₂ (WrapperSpec.Alike b.env.library b'.env.library) b.wrappers b'.wrappers) :
    bindings b = bindings b' := by
  unfold bindings
  rw [henv.config, himports, importBlock_congr henv, wrappers_congr henv hws]

end Emit

end Bindery
