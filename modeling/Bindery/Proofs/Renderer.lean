import Bindery.Bindings
import Bindery.Proofs.Sink

/-!
# What a failing sink sees

Every renderer writes in whole lines, each of which is two writes, even if it ends with an error.
A sink that fails after some writes has seen these and no other, and the run ends with the failure
of the sink whatever would have come after it.
-/

namespace Bindery

open Emit Wrapper

/-! ## What renderers are made of -/

namespace Emit

variable {α β : Type} {x : Emit α} {f : α → Emit β}

/-- Made of lines, of what is looked up and may fail, and of messages on the stages and the details
of the work. -/
inductive Composed : {α : Type} → Emit α → Prop
  | pure {α : Type} (a : α) : Composed (Pure.pure a)
  | lift {α : Type} (r : Except InternalError α) : Composed (liftM r : Emit α)
  | line (l : String) : Composed (Emit.line l)
  | stage (what : String) (subject : Option String) : Composed (Emit.stage what subject)
  | debug (text : String) : Composed (Emit.debug text)
  | bind {α β : Type} {x : Emit α} {f : α → Emit β} (hx : Composed x) (hf : ∀ a, Composed (f a)) :
    Composed (x >>= f)

theorem Composed.lift_bind {r : Except InternalError α} (hf : ∀ a, Composed (f a)) :
    Composed (liftM r >>= f) := (Composed.lift r).bind hf

theorem composed_line? (l : Option String) : Composed (line? l) := by
  cases l with
  | none => exact .pure ()
  | some l => exact .line l

theorem composed_eachLine (ls : List String) : Composed (eachLine ls) := by
  induction ls with
  | nil => exact .pure ()
  | cons l ls ih => exact (Composed.line l).bind fun _ => ih

/-! ## Whole lines -/

/-- Writes lines only, however it ends. -/
def InLines (x : Emit α) : Prop := ∃ ls : List String, x.writes = ls.flatMap fun l => [l, "\n"]

/-- One renderer after another. If the first ends with an error, the second is not run. -/
theorem InLines.bind (hx : InLines x) (hf : ∀ a, InLines (f a)) : InLines (x >>= f) := by
  obtain ⟨ls, hls⟩ := hx
  cases h : x.result with
  | ok a =>
    obtain ⟨ms, hms⟩ := hf a
    exact ⟨ls ++ ms, by rw [writes_bind_of_ok h, hls, hms, List.flatMap_append]⟩
  | error e => exact ⟨ls, by rw [writes_bind_of_error h, hls]⟩

theorem Composed.inLines (h : Composed x) : InLines x := by
  induction h with
  | pure | lift | stage | debug => exact ⟨[], rfl⟩
  | line l => exact ⟨[l], (prints_line l).writes⟩
  | bind _ _ hx hf => exact hx.bind hf

end Emit

/-! ## Attributes -/

section Attributes

variable (env : Env) (ns : Option Int) (version : Option Version) (m : Margin)

theorem composed_versionCondition : Composed (versionCondition env ns version m) :=
  .lift_bind composed_line?

theorem composed_versionConditionNoDoc : Composed (versionConditionNoDoc env ns version m) :=
  .lift_bind fun _ => composed_line? _

theorem composed_notVersionConditionNoDocs :
    Composed (notVersionConditionNoDocs env ns version m) := by
  cases version with
  | none => exact .pure ()
  | some v => exact .lift_bind fun _ => .line _

theorem composed_derives (ds : List Derive) : Composed (derives ds m) := by
  induction ds with
  | nil => exact .pure ()
  | cons d ds ih => exact .lift_bind fun _ => (Composed.line _).bind fun _ => ih

theorem composed_docAlias (name : Label) : Composed (docAlias name m) :=
  .lift_bind fun _ => .line _

end Attributes

/-! ## Headers and default values -/

theorem composed_versions (c : Config) (lead : String) : Composed (versions c lead) :=
  (Composed.line _).bind fun _ => composed_eachLine _

theorem composed_headerNoVersions (c : Config) : Composed (headerNoVersions c) :=
  (Composed.line _).bind fun _ => (composed_eachLine _).bind fun _ => .line _

theorem composed_header (c : Config) : Composed (header c) := by
  unfold header
  split
  · exact composed_headerNoVersions c
  · exact (composed_versions c _).bind fun _ => .line _

theorem composed_defaultImpl (env : Env) (typeName : String) (fs : List Function)
    (hasBuilder : Bool) : Composed (defaultImpl env typeName fs hasBuilder) := by
  unfold defaultImpl
  split
  · exact .pure ()
  · split
    · exact .pure ()
    · refine (Composed.line _).bind fun _ => (composed_versionCondition _ _ _ _).bind fun _ => ?_
      exact (Composed.line _).bind fun _ => (Composed.line _).bind fun _ =>
        (Composed.line _).bind fun _ => (Composed.line _).bind fun _ => .line _

/-! ## Imports -/

section Imports

variable (env : Env)

theorem composed_constraintAttributes (cs : List String) : Composed (constraintAttributes cs) := by
  unfold constraintAttributes
  split
  · exact .pure ()
  · exact (Composed.line _).bind fun _ => .line _

theorem composed_importGroup (g : ImportGroup String) : Composed (importGroup env g) := by
  unfold importGroup
  split
  · exact .line _
  · refine Composed.bind ?_ fun _ => .line _
    exact (composed_constraintAttributes _).bind fun _ => composed_versionConditionNoDoc _ _ _ _

theorem composed_importGroups (gs : List (ImportGroup String)) :
    Composed (importGroups env gs) := by
  induction gs with
  | nil => exact .pure ()
  | cons g gs ih => exact (composed_importGroup env g).bind fun _ => ih

theorem composed_uses (i : Imports String) (outer : Option Version) : Composed (uses env i outer) :=
  (Composed.line _).bind fun _ => .lift_bind fun _ => composed_importGroups env _

theorem composed_labelGroups (gs : List (ImportGroup Label)) : Composed (labelGroups env gs) := by
  induction gs with
  | nil => exact .pure ()
  | cons g gs ih => exact .lift_bind fun _ => (composed_importGroup env _).bind fun _ => ih

theorem composed_labelUses (i : Imports Label) : Composed (labelUses env i) := by
  refine (Composed.line _).bind fun _ => .lift_bind fun rs => ?_
  show Composed (if _ then _ else _)
  split
  · exact composed_labelGroups env _
  · exact .lift _

end Imports

/-! ## Wrappers -/

section Wrappers

variable (env : Env) (info : Info)

theorem composed_opening : Composed (opening env info) := by
  unfold opening
  refine (Composed.line _).bind fun _ => ?_
  split
  · exact composed_derives _ _
  · exact (composed_docAlias _ _).bind fun _ => composed_derives _ _

theorem composed_functions (entries : List String) : Composed (functions entries) :=
  (Composed.line _).bind fun _ => (Composed.line _).bind fun _ =>
    (composed_eachLine _).bind fun _ => (Composed.line _).bind fun _ => .line _

/-- A declaration that is written twice is in whole lines if the block is. -/
theorem composed_straddled (fn : Option String) (version : Option Version)
    {block : Option String → Emit Unit} (h : ∀ fn, Composed (block fn)) :
    Composed (straddled env fn version block) := by
  unfold straddled
  split
  · exact h none
  · refine .lift_bind fun guard => ?_
    split
    · exact h _
    · exact (composed_versionCondition _ _ _ _).bind fun _ => (h _).bind fun _ =>
        (Composed.line _).bind fun _ => (composed_notVersionConditionNoDocs _ _ _ _).bind fun _ =>
          h none

theorem composed_staticTypeImpl (sysCrate getTypeFn : String) :
    Composed (staticTypeImpl env sysCrate info getTypeFn) :=
  (Composed.line _).bind fun _ => (Composed.line _).bind fun _ => (Composed.line _).bind fun _ =>
    (Composed.line _).bind fun _ => .line _

theorem composed_inheritFrom (ps : List Ancestor) : Composed (inheritFrom env info ps) := by
  induction ps with
  | nil => exact .lift _
  | cons p ps ih =>
    refine .lift_bind fun t => ?_
    split
    · exact .lift_bind fun _ => (Composed.debug _).bind fun _ => .pure _
    · exact (Composed.debug _).bind fun _ => ih

theorem composed_resolveLifetime (k : Fundamental) : Composed (resolveLifetime env info k) := by
  refine .lift_bind fun sysCrate => ?_
  split
  · exact .pure _
  · split
    · exact .lift _
    · exact composed_inheritFrom env info _

theorem composed_renderFundamental (k : Fundamental) : Composed (renderFundamental env info k) :=
  .lift_bind fun _ => (composed_resolveLifetime env info k).bind fun _ =>
    (composed_opening env info).bind fun _ => (Composed.line _).bind fun _ =>
      (composed_functions _).bind fun _ => (Composed.line _).bind fun _ =>
        (Composed.line _).bind fun _ => composed_staticTypeImpl _ _ _ _

theorem composed_renderObject (k : Object) : Composed (renderObject env info k) :=
  .lift_bind fun _ => (composed_opening env info).bind fun _ => .lift_bind fun _ =>
    (Composed.line _).bind fun _ => composed_functions _

theorem composed_boxedBlock (k : Boxed) (group : Option InlineGroup) (fn : Option String) :
    Composed (boxedBlock env info k group fn) :=
  .lift_bind fun _ => (composed_opening env info).bind fun _ => (Composed.line _).bind fun _ =>
    composed_functions _

theorem composed_renderBoxed (k : Boxed) : Composed (renderBoxed env info k) :=
  .lift_bind fun _ => (Composed.line _).bind fun _ =>
    composed_straddled env _ _ (composed_boxedBlock env info k _)

theorem composed_renderAutoBoxed (k : AutoBoxed) : Composed (renderAutoBoxed env info k) :=
  .lift_bind fun _ => .lift_bind fun _ => (Composed.line _).bind fun _ =>
    (composed_opening env info).bind fun _ => (Composed.line _).bind fun _ => composed_functions _

theorem composed_sharedBlock (k : Shared) (fn : Option String) :
    Composed (sharedBlock env info k fn) :=
  .lift_bind fun _ => (composed_opening env info).bind fun _ => (Composed.line _).bind fun _ =>
    composed_functions _

theorem composed_renderShared (k : Shared) : Composed (renderShared env info k) :=
  (Composed.line _).bind fun _ => composed_straddled env _ _ (composed_sharedBlock env info k)

theorem composed_render (kind : Kind) : Composed (Wrapper.render env info kind) := by
  cases kind with
  | fundamental k => exact composed_renderFundamental env info k
  | object k => exact composed_renderObject env info k
  | boxed k => exact composed_renderBoxed env info k
  | autoBoxed k => exact composed_renderAutoBoxed env info k
  | shared k => exact composed_renderShared env info k
  | other name => exact .lift _

end Wrappers

/-! ## Modules -/

section Modules

variable (env : Env)

theorem composed_wrapper (w : WrapperSpec) : Composed (wrapper env w) := by
  unfold wrapper
  refine (Composed.stage _ _).bind fun _ => ?_
  split
  · exact (composed_render env _ _).bind fun _ => composed_defaultImpl env _ _ _
  · exact (Composed.line _).bind fun _ => (composed_render env _ _).bind fun _ =>
      composed_defaultImpl env _ _ _

theorem composed_wrappers (ws : List WrapperSpec) : Composed (wrappers env ws) := by
  induction ws with
  | nil => exact .pure ()
  | cons w ws ih => exact (composed_wrapper env w).bind fun _ => ih

theorem composed_importBlock (i : Imports Label) : Composed (importBlock env i) := by
  unfold importBlock
  split
  · exact .pure ()
  · refine (Composed.stage _ _).bind fun _ => ?_
    split
    · exact composed_uses env _ none
    · exact composed_labelUses env i

theorem composed_bindings (b : Bindings) : Composed (Emit.bindings b) :=
  (Composed.stage _ _).bind fun _ => (composed_header _).bind fun _ =>
    (composed_importBlock _ _).bind fun _ => composed_wrappers _ _

end Modules

/-! ## All renderers -/

/-- What writes generated code: lines, the attributes of a declaration, headers, default values,
imports, wrappers, and whole modules. -/
inductive IsRenderer : Emit Unit → Prop
  | line (l : String) : IsRenderer (line l)
  | eachLine (ls : List String) : IsRenderer (eachLine ls)
  | condition (cfg : Option String) (m : Margin) : IsRenderer (condition cfg m)
  | conditionNoDoc (cfg : Option String) (m : Margin) : IsRenderer (conditionNoDoc cfg m)
  | conditionDoc (cfg : Option String) (m : Margin) : IsRenderer (conditionDoc cfg m)
  | versionCondition (env : Env) (ns : Option Int) (version : Option Version) (m : Margin) :
    IsRenderer (versionCondition env ns version m)
  | versionConditionNoDoc (env : Env) (ns : Option Int) (version : Option Version) (m : Margin) :
    IsRenderer (versionConditionNoDoc env ns version m)
  | versionConditionDoc (env : Env) (version : Option Version) (m : Margin) :
    IsRenderer (versionConditionDoc env version m)
  | notVersionCondition (version : Option Version) (m : Margin) :
    IsRenderer (notVersionCondition version m)
  | notVersionConditionNoDocs (env : Env) (ns : Option Int) (version : Option Version)
    (m : Margin) : IsRenderer (notVersionConditionNoDocs env ns version m)
  | deprecated (env : Env) (ns : Option Int) (since : Option Version) (m : Margin) :
    IsRenderer (deprecated env ns since m)
  | allowDeprecated (since : Option Version) (m : Margin) : IsRenderer (allowDeprecated since m)
  | derives (ds : List Derive) (m : Margin) : IsRenderer (derives ds m)
  | docAlias (name : Label) (m : Margin) : IsRenderer (docAlias name m)
  | docHidden (hidden : Bool) (m : Margin) : IsRenderer (docHidden hidden m)
  | header (c : Config) : IsRenderer (header c)
  | headerNoVersions (c : Config) : IsRenderer (headerNoVersions c)
  | versions (c : Config) (lead : String) : IsRenderer (versions c lead)
  | versionsFile (c : Config) : IsRenderer (versionsFile c)
  | defaultImpl (env : Env) (typeName : String) (fs : List Function) (hasBuilder : Bool) :
    IsRenderer (defaultImpl env typeName fs hasBuilder)
  | uses (env : Env) (i : Imports String) (outer : Option Version) : IsRenderer (uses env i outer)
  | labelUses (env : Env) (i : Imports Label) : IsRenderer (labelUses env i)
  | render (env : Env) (info : Info) (kind : Kind) : IsRenderer (Wrapper.render env info kind)
  | bindings (b : Bindings) : IsRenderer (bindings b)

theorem IsRenderer.composed {x : Emit Unit} (h : IsRenderer x) : Composed x := by
  cases h with
  | line l => exact .line l
  | eachLine ls => exact composed_eachLine ls
  | condition | conditionNoDoc | conditionDoc | versionConditionDoc | notVersionCondition
  | allowDeprecated | docHidden => exact composed_line? _
  | versionCondition env ns version m => exact composed_versionCondition env ns version m
  | versionConditionNoDoc env ns version m => exact composed_versionConditionNoDoc env ns version m
  | notVersionConditionNoDocs env ns version m =>
    exact composed_notVersionConditionNoDocs env ns version m
  | deprecated => exact .lift_bind fun _ => composed_line? _
  | derives ds m => exact composed_derives m ds
  | docAlias name m => exact composed_docAlias m name
  | header c => exact composed_header c
  | headerNoVersions c => exact composed_headerNoVersions c
  | versions c lead => exact composed_versions c lead
  | versionsFile c => exact composed_versions c ""
  | defaultImpl env typeName fs hasBuilder => exact composed_defaultImpl env typeName fs hasBuilder
  | uses env i outer => exact composed_uses env i outer
  | labelUses env i => exact composed_labelUses env i
  | render env info kind => exact composed_render env info kind
  | bindings b => exact composed_bindings b

theorem IsRenderer.inLines {x : Emit Unit} (h : IsRenderer x) : InLines x := h.composed.inLines

/-- What sinks see of a renderer that writes some lines and has an outcome. -/
structure ShowsPrefixes (x : Emit Unit) (ls cs : List String) (o : Outcome Unit) : Prop where
  /-- The end of a line is a write of its own. -/
  in_lines : cs = ls.flatMap fun l => [l, "\n"]
  ends : o = .done () ∨ ∃ e, o = .failed e
  unlimited : x.deliver Sink.unlimited [] = (cs, o)
  /-- A sink with room for all writes sees what one without a limit sees, and the run ends as it
  would there. -/
  roomy : ∀ n, cs.length ≤ n → x.deliver (Sink.limited n) [] = (cs, o)
  /-- A sink that fails after some writes has seen these and nothing else, and the run ends with its
  failure. -/
  full : ∀ n, n < cs.length → x.deliver (Sink.limited n) [] = (cs.take n, .sinkFull)
  run_eq : ∀ n, x.deliver (Sink.limited n) [] =
    (texts (x.run (some n)).events, (x.run (some n)).outcome)

/-- A sink that fails has seen the first writes of a renderer, and nothing is done afterwards. -/
theorem failing_sink_sees_prefix {x : Emit Unit} (h : IsRenderer x) :
    (∀ (σ : Type) (sink : Sink σ), IsStepwise sink) ∧
      ∃ (ls cs : List String) (o : Outcome Unit), ShowsPrefixes x ls cs o := by
  obtain ⟨ls, hls⟩ := h.inLines
  refine ⟨fun σ sink => isStepwise sink, ls, x.writes, x.outcome, hls, ?_, deliver_unlimited x,
    fun n hn => ?_, fun n hn => ?_, deliver_eq_run x⟩
  · cases hresult : x.result with
    | ok a => exact .inl (outcome_of_ok hresult)
    | error e => exact .inr ⟨e, outcome_of_error hresult⟩
  · rw [deliver_limited, if_pos hn]
  · rw [deliver_limited, if_neg (Nat.not_le_of_lt hn)]

/-- An import without a crate, which is reported behind the empty line. -/
def unqualifiedUses : Emit Unit := uses ⟨{}, {}⟩ ⟨[("Widget", ⟨[], none⟩)]⟩ none

theorem failing_sink_sees_prefix_unqualified : IsRenderer unqualifiedUses ∧
    unqualifiedUses.outcome = .failed ⟨.unqualifiedImport "Widget", none⟩ ∧
    unqualifiedUses.deliver (Sink.limited 1) [] = ([""], .sinkFull) := by
  have hrenderer : IsRenderer unqualifiedUses := .uses _ _ _
  have hwrites : unqualifiedUses.writes = ["", "\n"] := rfl
  obtain ⟨-, ls, cs, o, hshows⟩ := failing_sink_sees_prefix hrenderer
  obtain ⟨rfl, -⟩ := Prod.mk.inj ((deliver_unlimited unqualifiedUses).symm.trans hshows.unlimited)
  refine ⟨hrenderer, rfl, ?_⟩
  rw [hshows.full 1 (by rw [hwrites]; decide), hwrites]
  rfl

end Bindery
