import Bindery.Proofs.Guard.Version
import Bindery.Proofs.Wrapper.Block

/-!
# The declarations of each shape

Whatever its shape, a rendered type is one block of lines, or two where its type accessor is newer
than the baseline.
-/

namespace Bindery.Wrapper

open Emit

variable {env : Env} {info : Info}

/-- The entries of a declaration: some of its own, and the type accessor where it has one. -/
def entriesWith (sysCrate : String) (front : List String) (fn : Option String) : List String :=
  front ++ (fn.map (typeEntry sysCrate)).toList

/-- A renderer of one declaration, which registers the type accessor that it is given. -/
structure Declares (env : Env) (sysCrate : String) (parts front : List String)
    (block : Option String → Emit Unit) : Prop where
  crate : env.mainSysCrate = .ok sysCrate
  isPart : ∀ l ∈ parts, IsPart l
  isEntry : ∀ e ∈ front, IsPart ("\t\t" ++ e)
  prints : ∀ fn, Prints (block fn) () (blockLines env parts (entriesWith sysCrate front fn))

/-! ## The namespace being bound -/

section Main

variable {main : Namespace}

theorem failAt_eq {α : Type} (info : Info) (hmain : env.library.findNamespace mainId = .ok main)
    (c : Cause) : (failAt env info c : Except InternalError α) =
      .error ⟨c, some ⟨main.name, info.typeName⟩⟩ := by
  unfold failAt
  rw [hmain]
  rfl

theorem mainSysCrate_eq (hmain : env.library.findNamespace mainId = .ok main) :
    env.mainSysCrate = .ok main.sysCrateName := by
  unfold Env.mainSysCrate
  rw [hmain]
  rfl

theorem failAt_ne_ok {α : Type} {c : Cause} {a : α} : failAt env info c ≠ .ok a := by
  intro h
  unfold failAt at h
  cases hn : env.library.findNamespace mainId <;> rw [hn] at h <;> cases h

end Main

/-! ## One block -/

/-- A declaration from what its renderers print. -/
theorem blockLines_eq (env : Env) (ls entries : List String) (l : String) :
    blockLines env (ls ++ [l]) entries =
      (openingLine env :: ls) ++ ([l] ++ functionLines entries) := by
  simp [blockLines]

theorem isPart_parts {ls : List String} (h : ∀ l ∈ ls, IsPart l) (storage suffix : String) :
    ∀ l ∈ ls ++ [structLine info storage suffix], IsPart l := by
  intro l hl
  rcases List.mem_append.1 hl with hl | hl
  · exact h l hl
  · obtain rfl := List.mem_singleton.1 hl
    exact isPart_structLine info storage suffix

theorem isPart_inlineEntries {group : Option InlineGroup} :
    ∀ e ∈ inlineEntries group, IsPart ("\t\t" ++ e) := by
  cases group with
  | none => simp [inlineEntries]
  | some g =>
    intro e he
    simp only [inlineEntries, List.mem_cons, List.not_mem_nil, or_false] at he
    obtain rfl | rfl | rfl := he
    all_goals exact isPart_entry (by simp)

/-- A declaration with its own storage and entries, both given the sys crate. -/
def blockWith (env : Env) (info : Info) (storage : String → String)
    (entries : String → List String) (fn : Option String) : Emit Unit := do
  let sysCrate ← env.mainSysCrate
  opening env info
  line (structLine info (storage sysCrate) "")
  functions (entriesWith sysCrate (entries sysCrate) fn)

theorem declares_blockWith {storage : String → String} {entries : String → List String}
    {fn : Option String} (h : (blockWith env info storage entries fn).result = .ok ())
    (hentries : ∀ sysCrate, ∀ e ∈ entries sysCrate, IsPart ("\t\t" ++ e)) :
    ∃ sysCrate parts, Declares env sysCrate parts (entries sysCrate)
      (blockWith env info storage entries) := by
  unfold blockWith at h
  obtain ⟨sysCrate, hcrate, h⟩ := result_bind.1 h
  obtain ⟨_, hopening, -⟩ := result_bind.1 h
  obtain ⟨ls, hls, hparts⟩ := prints_opening hopening
  refine ⟨sysCrate, ls ++ [structLine info (storage sysCrate) ""], hcrate,
    isPart_parts hparts _ _, hentries sysCrate, fun fn => ?_⟩
  unfold blockWith
  rw [blockLines_eq]
  exact .lift_bind hcrate (hls.bind ((prints_line _).bind (prints_functions _)))

/-! ## Boxed and shared types -/

/-- The entries of a boxed type. -/
def boxedEntries (k : Boxed) (group : Option InlineGroup) (sysCrate : String) : List String :=
  ["copy => |ptr| " ++ sysCrate ++ "::" ++ k.copyFn ++ "(" ++
      (if k.copyTakesMut then "mut_override(ptr)" else "ptr") ++ "),",
    "free => |ptr| " ++ sysCrate ++ "::" ++ k.freeFn ++ "(ptr),"] ++ inlineEntries group

theorem boxedBlock_eq (k : Boxed) (group : Option InlineGroup) : boxedBlock env info k group =
    blockWith env info (boxedStorage · info k.isInline) (boxedEntries k group) := rfl

theorem isPart_boxedEntries {k : Boxed} {group : Option InlineGroup} (sysCrate : String) :
    ∀ e ∈ boxedEntries k group sysCrate, IsPart ("\t\t" ++ e) := by
  intro e he
  simp only [boxedEntries, List.cons_append, List.nil_append, List.mem_cons] at he
  obtain rfl | rfl | he := he
  · exact isPart_entry (by simp)
  · exact isPart_entry (by simp)
  · exact isPart_inlineEntries e he

/-- The entries of a shared type. -/
def sharedEntries (k : Shared) (sysCrate : String) : List String :=
  ["ref => |ptr| " ++ sysCrate ++ "::" ++ k.refFn ++ "(ptr),",
    "unref => |ptr| " ++ sysCrate ++ "::" ++ k.unrefFn ++ "(ptr),"]

theorem sharedBlock_eq (k : Shared) : sharedBlock env info k =
    blockWith env info (fun sysCrate => "Shared<" ++ sysCrate ++ "::" ++ info.cName ++ ">")
      (sharedEntries k) := rfl

theorem isPart_sharedEntries {k : Shared} (sysCrate : String) :
    ∀ e ∈ sharedEntries k sysCrate, IsPart ("\t\t" ++ e) := by
  intro e he
  simp only [sharedEntries, List.mem_cons, List.not_mem_nil, or_false] at he
  obtain rfl | rfl := he
  all_goals exact isPart_entry (by simp)

/-! ## Declared once or twice -/

/-- Prints one declaration, with empty lines before it and no other declaration after it. -/
def PrintsOnce (env : Env) (fn : Option String) (x : Emit Unit) : Prop :=
  ∃ sysCrate parts front before after, env.mainSysCrate = .ok sysCrate ∧
    (∀ l ∈ parts, IsPart l) ∧ (∀ e ∈ front, IsPart ("\t\t" ++ e)) ∧
    (∀ l ∈ before, l = "") ∧ openingLine env ∉ after ∧
    Prints x () (before ++ blockLines env parts (entriesWith sysCrate front fn) ++ after)

/-- The lines of a type declared twice: with its type accessor under the attributes of a version,
and without it under their complement. -/
def straddledLines (env : Env) (sysCrate : String) (parts front : List String) (fn : String)
    (v : Version) : List String :=
  let g : Guard := ⟨v.predicate none⟩
  "" :: g.render true {} :: (blockLines env parts (entriesWith sysCrate front (some fn)) ++
    "" :: g.complementAttribute {} :: blockLines env parts (entriesWith sysCrate front none))

/-- Prints two declarations that differ in the type accessor. -/
def PrintsTwice (env : Env) (fn : String) (v : Version) (x : Emit Unit) : Prop :=
  ∃ sysCrate parts front, env.mainSysCrate = .ok sysCrate ∧
    (∀ l ∈ parts, IsPart l) ∧ (∀ e ∈ front, IsPart ("\t\t" ++ e)) ∧
    Prints x () (straddledLines env sysCrate parts front fn v)

/-- Prints two declarations where the type accessor is newer than the baseline, and else one. -/
def PrintsLayout (env : Env) (fn : Option String) (version : Option Version) (x : Emit Unit) :
    Prop :=
  (PrintsOnce env fn x ∧
    ∀ f v, fn = some f → version = some v → Guard.isNeeded version env.config.minVersion = false) ∨
  ∃ f v, fn = some f ∧ version = some v ∧ Guard.isNeeded version env.config.minVersion = true ∧
    PrintsTwice env f v x

theorem prints_straddled {storage : String → String} {entries : String → List String}
    {fn : Option String} {version : Option Version}
    (hentries : ∀ sysCrate, ∀ e ∈ entries sysCrate, IsPart ("\t\t" ++ e))
    (h : (do line ""; straddled env fn version (blockWith env info storage entries)).result =
      .ok ()) :
    PrintsLayout env fn version
      (do line ""; straddled env fn version (blockWith env info storage entries)) := by
  obtain ⟨_, -, h⟩ := result_bind.1 h
  unfold straddled at h ⊢
  cases fn with
  | none =>
    obtain ⟨sysCrate, parts, hd⟩ := declares_blockWith h hentries
    refine .inl ⟨⟨sysCrate, parts, _, [""], [], hd.crate, hd.isPart, hd.isEntry, by simp, by simp,
      ?_⟩, by simp⟩
    rw [List.append_nil]
    exact (prints_line "").bind (hd.prints none)
  | some f =>
    obtain ⟨guard, hguard, h⟩ := result_bind.1 h
    rw [guard?_main] at hguard
    obtain rfl := Except.ok.inj hguard
    cases hg : Guard.resolve? version env.config.minVersion none with
    | none =>
      simp only [hg] at h
      obtain ⟨sysCrate, parts, hd⟩ := declares_blockWith h hentries
      refine .inl ⟨⟨sysCrate, parts, _, [""], [], hd.crate, hd.isPart, hd.isEntry, by simp, by simp,
        ?_⟩, fun _ _ _ _ => resolve?_eq_none.1 hg⟩
      rw [List.append_nil]
      refine (prints_line "").bind (.lift_bind (guard?_main env version) ?_)
      simp only [hg]
      exact hd.prints (some f)
    | some g =>
      obtain ⟨v, rfl, hneeded, rfl⟩ := resolve?_eq_some hg
      simp only [hg] at h
      obtain ⟨_, -, h⟩ := result_bind.1 h
      obtain ⟨_, hblock, -⟩ := result_bind.1 h
      obtain ⟨sysCrate, parts, hd⟩ := declares_blockWith hblock hentries
      refine .inr ⟨f, v, rfl, rfl, hneeded, sysCrate, parts, _, hd.crate, hd.isPart, hd.isEntry, ?_⟩
      refine (prints_line "").bind (.lift_bind (guard?_main env (some v)) ?_)
      have hcondition := prints_versionCondition env (some v) {}
      rw [hg] at hcondition
      simp only [hg]
      exact hcondition.bind ((hd.prints (some f)).bind ((prints_line "").bind
        ((prints_notVersionConditionNoDocs env {} v).bind (hd.prints none))))

/-! ## The other shapes -/

/-- Nothing is written in search of the functions that count references, however it ends. -/
theorem writes_inheritFrom (env : Env) (info : Info) (ps : List Ancestor) :
    (inheritFrom env info ps).writes = [] := by
  induction ps with
  | nil => rfl
  | cons p ps ih =>
    rw [inheritFrom]
    refine writes_bind_eq_nil rfl fun t => ?_
    split
    · exact writes_bind_eq_nil rfl fun lifetime => rfl
    · exact writes_bind_eq_nil rfl fun _ => ih

theorem writes_resolveLifetime (env : Env) (info : Info) (k : Fundamental) :
    (resolveLifetime env info k).writes = [] := by
  unfold resolveLifetime
  refine writes_bind_eq_nil rfl fun sysCrate => ?_
  split
  · rfl
  · split
    · rfl
    · exact writes_inheritFrom env info _

theorem prints_resolveLifetime {l : Lifetime} {k : Fundamental}
    (h : (resolveLifetime env info k).result = .ok l) :
    Prints (resolveLifetime env info k) l [] :=
  ⟨h, writes_resolveLifetime env info k⟩

/-- The lines of an implementation that gives a runtime type are no declaration. -/
theorem prints_staticTypeImpl (env : Env) (info : Info) (sysCrate getTypeFn : String) :
    ∃ ls, Prints (staticTypeImpl env sysCrate info getTypeFn) () ls ∧ openingLine env ∉ ls := by
  refine ⟨_, (prints_line _).bind ((prints_line _).bind ((prints_line _).bind
    ((prints_line _).bind (prints_line _)))), ?_⟩
  simp only [List.cons_append, List.nil_append, List.mem_cons, List.not_mem_nil, or_false, not_or]
  refine ⟨openingLine_ne ?_, openingLine_ne ?_, openingLine_ne ?_, openingLine_ne ?_,
    openingLine_ne ?_⟩
  all_goals simp

/-- The entries of a fundamental type. -/
def fundamentalEntries (l : Lifetime) : List String :=
  ["ref => |ptr| " ++ l.crate ++ "::" ++ l.refFn ++ "(" ++ l.pointer ++ "),",
    "unref => |ptr| " ++ l.crate ++ "::" ++ l.unrefFn ++ "(" ++ l.pointer ++ "),"]

theorem isPart_fundamentalEntries {l : Lifetime} :
    ∀ e ∈ fundamentalEntries l, IsPart ("\t\t" ++ e) := by
  intro e he
  simp only [fundamentalEntries, List.mem_cons, List.not_mem_nil, or_false] at he
  obtain rfl | rfl := he
  all_goals exact isPart_entry (by simp)

/-- A fundamental type is declared with the functions of its lifetime, in front of the
implementation that gives its runtime type. -/
theorem prints_fundamental {k : Fundamental}
    (h : (renderFundamental env info k).result = .ok ()) :
    ∃ sysCrate l parts after, env.mainSysCrate = .ok sysCrate ∧
      (resolveLifetime env info k).result = .ok l ∧ (∀ p ∈ parts, IsPart p) ∧
      openingLine env ∉ after ∧
      Prints (renderFundamental env info k) ()
        (blockLines env parts (fundamentalEntries l) ++ after) := by
  unfold renderFundamental at h ⊢
  obtain ⟨sysCrate, hcrate, h⟩ := result_bind.1 h
  obtain ⟨l, hl, h⟩ := result_bind.1 h
  obtain ⟨_, hopening, -⟩ := result_bind.1 h
  obtain ⟨ls, hls, hparts⟩ := prints_opening hopening
  obtain ⟨ms, hms, hafter⟩ := prints_staticTypeImpl env info sysCrate k.getTypeFn
  refine ⟨sysCrate, l,
    ls ++ [structLine info ("Shared<" ++ sysCrate ++ "::" ++ info.cName ++ ">") ""],
    "" :: "" :: ms, hcrate, hl, isPart_parts hparts _ _, ?_, ?_⟩
  · simp only [List.mem_cons, not_or]
    exact ⟨openingLine_ne (by simp), openingLine_ne (by simp), hafter⟩
  · have hlines : blockLines env
          (ls ++ [structLine info ("Shared<" ++ sysCrate ++ "::" ++ info.cName ++ ">") ""])
          (fundamentalEntries l) ++ "" :: "" :: ms =
        (openingLine env :: ls) ++ ([structLine info ("Shared<" ++ sysCrate ++ "::" ++
          info.cName ++ ">") ""] ++
            (functionLines (fundamentalEntries l) ++ ([""] ++ ([""] ++ ms)))) := by
      simp [blockLines_eq]
    rw [hlines]
    exact .lift_bind hcrate ((prints_resolveLifetime hl).quiet_bind (hls.bind ((prints_line _).bind
      ((prints_functions _).bind ((prints_line "").bind ((prints_line "").bind hms))))))

theorem printsOnce_fundamental {k : Fundamental}
    (h : (renderFundamental env info k).result = .ok ()) :
    PrintsOnce env none (renderFundamental env info k) := by
  obtain ⟨sysCrate, l, parts, after, hcrate, -, hparts, hafter, hprints⟩ := prints_fundamental h
  have hblock : entriesWith sysCrate (fundamentalEntries l) none = fundamentalEntries l := by
    simp [entriesWith]
  exact ⟨sysCrate, parts, fundamentalEntries l, [], after, hcrate, hparts,
    isPart_fundamentalEntries, by simp, hafter, by rwa [hblock, List.nil_append]⟩

/-- An object or an interface is declared with its lineage behind its storage. -/
theorem prints_object {k : Object} (h : (renderObject env info k).result = .ok ()) :
    ∃ sysCrate ls suffix, env.mainSysCrate = .ok sysCrate ∧ ancestryText env k = .ok suffix ∧
      (∀ l ∈ ls, IsPart l) ∧ Prints (opening env info) () (openingLine env :: ls) ∧
      Prints (renderObject env info k) ()
        (blockLines env (ls ++ [structLine info (objectStorage sysCrate info k) suffix])
          [typeEntry sysCrate k.getTypeFn]) := by
  unfold renderObject at h ⊢
  obtain ⟨sysCrate, hcrate, h⟩ := result_bind.1 h
  obtain ⟨_, hopening, h⟩ := result_bind.1 h
  obtain ⟨suffix, hsuffix, -⟩ := result_bind.1 h
  obtain ⟨ls, hls, hparts⟩ := prints_opening hopening
  refine ⟨sysCrate, ls, suffix, hcrate, hsuffix, hparts, hls, ?_⟩
  rw [blockLines_eq]
  exact .lift_bind hcrate
    (hls.bind (.lift_bind hsuffix ((prints_line _).bind (prints_functions _))))

theorem printsOnce_object {k : Object} (h : (renderObject env info k).result = .ok ()) :
    PrintsOnce env (some k.getTypeFn) (renderObject env info k) := by
  obtain ⟨sysCrate, ls, suffix, hcrate, -, hparts, -, hprints⟩ := prints_object h
  refine ⟨sysCrate, ls ++ [structLine info (objectStorage sysCrate info k) suffix], [], [], [],
    hcrate, isPart_parts hparts _ _, by simp, by simp, by simp, ?_⟩
  rwa [List.nil_append, List.append_nil]

/-- The entries of a type that its runtime type copies and frees. -/
def autoBoxedEntries (env : Env) (info : Info) (k : AutoBoxed) (group : Option InlineGroup)
    (sysCrate : String) : List String :=
  let typeId := sysCrate ++ "::" ++ k.getTypeFn ++ "()"
  ["copy => |ptr| " ++ env.glibPath "gobject_ffi::g_boxed_copy" ++ "(" ++ typeId ++
      ", ptr as *mut _) as *mut " ++ sysCrate ++ "::" ++ info.cName ++ ",",
    "free => |ptr| " ++ env.glibPath "gobject_ffi::g_boxed_free" ++ "(" ++ typeId ++
      ", ptr as *mut _),"] ++ inlineEntries group

theorem isPart_autoBoxedEntries {k : AutoBoxed} {group : Option InlineGroup} {sysCrate : String} :
    ∀ e ∈ autoBoxedEntries env info k group sysCrate, IsPart ("\t\t" ++ e) := by
  intro e he
  simp only [autoBoxedEntries, List.cons_append, List.nil_append, List.mem_cons] at he
  obtain rfl | rfl | he := he
  · exact isPart_entry (by simp)
  · exact isPart_entry (by simp)
  · exact isPart_inlineEntries e he

theorem printsOnce_autoBoxed {k : AutoBoxed} (h : (renderAutoBoxed env info k).result = .ok ()) :
    PrintsOnce env (some k.getTypeFn) (renderAutoBoxed env info k) := by
  unfold renderAutoBoxed at h ⊢
  obtain ⟨sysCrate, hcrate, h⟩ := result_bind.1 h
  obtain ⟨group, hgroup, h⟩ := result_bind.1 h
  obtain ⟨_, -, h⟩ := result_bind.1 h
  obtain ⟨_, hopening, -⟩ := result_bind.1 h
  obtain ⟨ls, hls, hparts⟩ := prints_opening hopening
  refine ⟨sysCrate, ls ++ [structLine info (boxedStorage sysCrate info k.isInline) ""],
    autoBoxedEntries env info k group sysCrate, [""], [], hcrate, isPart_parts hparts _ _,
    isPart_autoBoxedEntries, by simp, by simp, ?_⟩
  rw [List.append_nil, blockLines_eq]
  exact .lift_bind hcrate (.lift_bind hgroup
    ((prints_line "").bind (hls.bind ((prints_line _).bind (prints_functions _)))))

/-! ## All shapes -/

/-- The type accessor of a declaration and the version that it is from. Only boxed and shared types
have a version for it; a fundamental type never has one. -/
def Kind.accessor : Kind → Option String × Option Version
  | .fundamental _ => (none, none)
  | .object k => (some k.getTypeFn, none)
  | .boxed k => (k.getTypeFn, k.getTypeVersion)
  | .autoBoxed k => (some k.getTypeFn, none)
  | .shared k => (k.getTypeFn, k.getTypeVersion)
  | .other _ => (none, none)

theorem PrintsOnce.layout {fn : Option String} {x : Emit Unit} (h : PrintsOnce env fn x) :
    PrintsLayout env fn none x := .inl ⟨h, by simp⟩

/-- A type that is rendered is declared twice where its type accessor is newer than the baseline,
and else once. -/
theorem prints_render {kind : Kind} (h : (render env info kind).result = .ok ()) :
    PrintsLayout env kind.accessor.1 kind.accessor.2 (render env info kind) := by
  cases kind with
  | fundamental k => exact (printsOnce_fundamental h).layout
  | object k => exact (printsOnce_object h).layout
  | boxed k =>
    obtain ⟨group, hgroup, h⟩ := result_bind.1 h
    have hrender : render env info (.boxed k) =
        (do line ""; straddled env k.getTypeFn k.getTypeVersion (boxedBlock env info k group)) :=
      lift_bind hgroup
    rw [boxedBlock_eq] at h hrender
    rw [hrender]
    exact prints_straddled isPart_boxedEntries h
  | autoBoxed k => exact (printsOnce_autoBoxed h).layout
  | shared k =>
    have hrender : render env info (.shared k) =
        (do line ""; straddled env k.getTypeFn k.getTypeVersion (sharedBlock env info k)) := rfl
    rw [hrender, sharedBlock_eq] at h ⊢
    exact prints_straddled isPart_sharedEntries h
  | other name => exact absurd h failAt_ne_ok

end Bindery.Wrapper
