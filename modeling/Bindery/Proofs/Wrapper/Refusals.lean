import Bindery.Proofs.Wrapper.Lifetime
import Bindery.Proofs.Wrapper.Unnamable

/-!
# Declarations that are refused

A declaration is refused before anything of it is printed, or, where an ancestor cannot be named,
behind its header. Any other is printed whole. The outline:

1. Each refusal stops the rendering (`Refused.stops`).
2. Without one, only labels that are no texts can fail (`render_error_cases`).
3. What does not fail is printed down to its last brace (`endsClosed_render`).
-/

namespace Bindery.Wrapper

open Emit

/-! ## Refusals -/

/-- Whether one or two of three expressions are given. -/
def Inline.IsPartial (e : Inline) : Prop :=
  (e.init ≠ none ∨ e.copyInto ≠ none ∨ e.clear ≠ none) ∧
    (e.init = none ∨ e.copyInto = none ∨ e.clear = none)

/-- The declarations that are refused, with the error and the lines that have been printed. `main`
is the namespace being bound. -/
inductive Refused (env : Env) (main : Namespace) (info : Info) :
    Kind → InternalError → List String → Prop
  | boxed {k : Boxed} (hpartial : k.inline.IsPartial) :
    Refused env main info (.boxed k) ⟨.partialInline, some ⟨main.name, info.typeName⟩⟩ []
  | autoBoxed {k : AutoBoxed} (hpartial : k.inline.IsPartial) :
    Refused env main info (.autoBoxed k) ⟨.partialInline, some ⟨main.name, info.typeName⟩⟩ []
  /-- The type has no lifetime. -/
  | fundamental {k : Fundamental} {e : InternalError}
    (hlifetime : (resolveLifetime env info k).result = .error e) :
    Refused env main info (.fundamental k) e []
  | other {name : String} :
    Refused env main info (.other name) ⟨.unknownWrapper name, some ⟨main.name, info.typeName⟩⟩ []
  /-- An active ancestor cannot be named, and it is the first such. -/
  | object {k : Object} {front back : List Ancestor} {p : Ancestor} {e : InternalError}
    (hps : activeAncestors k.parents = front ++ p :: back)
    (hfront : ∀ q ∈ front, ∀ e', ¬Unnamable env.library k.isInterface q e')
    (hp : Unnamable env.library k.isInterface p e) :
    Refused env main info (.object k) e (headerLines env info)

/-- Whether all that a declaration joins or escapes are texts. -/
structure AreTexts (info : Info) (kind : Kind) : Prop where
  info : info.IsPlain
  ancestors : ∀ k, kind = .object k → ∀ p ∈ activeAncestors k.parents, ∃ s, p.name = .string s

/-! ## Groups of expressions and type accessors -/

section Parts

variable {env : Env} {info : Info} {main : Namespace} {S : InternalError → Prop}

theorem inlineGroup_partial (info : Info) (hmain : env.library.findNamespace mainId = .ok main)
    {e : Inline} (h : e.IsPartial) : inlineGroup env info e =
      .error ⟨.partialInline, some ⟨main.name, info.typeName⟩⟩ := by
  have hfail := failAt_eq (α := Option InlineGroup) info hmain .partialInline
  obtain ⟨init, copyInto, clear⟩ := e
  unfold Inline.IsPartial at h
  unfold inlineGroup
  cases init <;> cases copyInto <;> cases clear <;> simp_all

/-- A group that is complete or empty. -/
theorem exists_inlineGroup (env : Env) (info : Info) {e : Inline} (h : ¬e.IsPartial) :
    ∃ group, inlineGroup env info e = .ok group := by
  obtain ⟨init, copyInto, clear⟩ := e
  unfold Inline.IsPartial at h
  unfold inlineGroup
  cases init <;> cases copyInto <;> cases clear <;> simp_all

theorem inlineGroup_error_cases (hmain : env.library.findNamespace mainId = .ok main)
    {inline : Inline} {e : InternalError} (h : inlineGroup env info inline = .error e) :
    inline.IsPartial ∧ e = ⟨.partialInline, some ⟨main.name, info.typeName⟩⟩ := by
  by_cases hpartial : inline.IsPartial
  · rw [inlineGroup_partial info hmain hpartial] at h
    exact ⟨hpartial, (Except.error.inj h).symm⟩
  · obtain ⟨group, hgroup⟩ := exists_inlineGroup env info hpartial
    rw [hgroup] at h
    cases h

theorem failsWith_functions (entries : List String) : FailsWith S (functions entries) :=
  failsWith_of_ok (prints_functions entries).result

/-- A declaration that is printed twice fails as the declaration does. -/
theorem failsWith_straddled {block : Option String → Emit Unit}
    (h : ∀ fn, FailsWith S (block fn)) (fn : Option String) (version : Option Version) :
    FailsWith S (straddled env fn version block) := by
  unfold straddled
  cases fn with
  | none => exact h none
  | some fn =>
    simp only [lift_bind (guard?_main env version)]
    cases hg : Guard.resolve? version env.config.minVersion none with
    | none => exact h (some fn)
    | some g =>
      obtain ⟨v, rfl, -, -⟩ := resolve?_eq_some hg
      exact (failsWith_of_ok (prints_versionCondition env (some v) {}).result).bind fun _ =>
        (h (some fn)).bind fun _ => (failsWith_of_ok rfl).bind fun _ =>
          (failsWith_of_ok (prints_notVersionConditionNoDocs env {} v).result).bind fun _ => h none

theorem failsWith_blockWith (hmain : env.library.findNamespace mainId = .ok main)
    (h : FailsWith S (opening env info)) (storage : String → String)
    (entries : String → List String) (fn : Option String) :
    FailsWith S (blockWith env info storage entries fn) := by
  unfold blockWith
  rw [lift_bind (mainSysCrate_eq hmain)]
  exact h.bind fun _ => (failsWith_of_ok rfl).bind fun _ => failsWith_functions _

end Parts

/-! ## What becomes of a declaration -/

section Render

variable {env : Env} {info : Info} {main : Namespace} {kind : Kind}

/-- A refusal stops the rendering, with its error and behind its lines. -/
theorem Refused.stops (hmain : env.library.findNamespace mainId = .ok main)
    (hinfo : (∃ k, kind = .object k) → info.IsPlain) {e : InternalError} {ls : List String}
    (h : Refused env main info kind e ls) : Stops (render env info kind) e ls := by
  cases h with
  | boxed hpartial => exact (stops_lift (inlineGroup_partial info hmain hpartial)).bind _
  | autoBoxed hpartial =>
    exact .lift_bind (mainSysCrate_eq hmain)
      ((stops_lift (inlineGroup_partial info hmain hpartial)).bind _)
  | @fundamental k e hlifetime =>
    have hstops : Stops (resolveLifetime env info k) e [] :=
      ⟨hlifetime, writes_resolveLifetime env info k⟩
    exact .lift_bind (mainSysCrate_eq hmain) (hstops.bind _)
  | other => exact stops_lift (failAt_eq info hmain _)
  | @object k front back p e hps hfront hp =>
    have hheader := prints_header env (hinfo ⟨k, rfl⟩)
    have htext := ancestryText_eq_error hps hfront hp
    rw [← List.append_nil (headerLines env info)]
    exact .lift_bind (mainSysCrate_eq hmain) (hheader.bind_stops ((stops_lift htext).bind _))

/-- All errors are those of refusals, apart from labels that are no texts. -/
theorem render_error_cases (hmain : env.library.findNamespace mainId = .ok main) :
    FailsWith (fun e => (∃ ls, Refused env main info kind e ls) ∨
      ¬AreTexts info kind ∧ e.IsUnfit) (render env info kind) := by
  have hcrate := mainSysCrate_eq hmain
  have hopening : FailsWith (fun e => (∃ ls, Refused env main info kind e ls) ∨
      ¬AreTexts info kind ∧ e.IsUnfit) (opening env info) :=
    (failsWith_opening env info).mono fun e he => .inr ⟨fun htexts => he.1 htexts.info, he.2⟩
  cases kind with
  | fundamental k =>
    show FailsWith _ (renderFundamental env info k)
    unfold renderFundamental
    rw [lift_bind hcrate]
    refine FailsWith.bind (fun e he => .inl ⟨[], .fundamental he⟩) fun l => ?_
    obtain ⟨ls, hls, -⟩ := prints_staticTypeImpl env info main.sysCrateName k.getTypeFn
    exact hopening.bind fun _ => (failsWith_of_ok rfl).bind fun _ =>
      (failsWith_functions _).bind fun _ => (failsWith_of_ok rfl).bind fun _ =>
        (failsWith_of_ok rfl).bind fun _ => failsWith_of_ok hls.result
  | object k =>
    show FailsWith _ (renderObject env info k)
    unfold renderObject
    rw [lift_bind hcrate]
    refine hopening.bind fun _ => FailsWith.bind (fun e he => ?_) fun suffix =>
      (failsWith_of_ok rfl).bind fun _ => failsWith_functions _
    rcases ancestryText_error_cases he with ⟨front, p, back, hps, hfront, hp⟩ | ⟨hnames, hunfit⟩
    · exact .inl ⟨_, .object hps hfront hp⟩
    · exact .inr ⟨fun htexts => hnames (htexts.ancestors k rfl), hunfit⟩
  | boxed k =>
    refine FailsWith.bind (fun e he => ?_) fun group => (failsWith_of_ok rfl).bind fun _ => ?_
    · obtain ⟨hpartial, rfl⟩ := inlineGroup_error_cases hmain he
      exact .inl ⟨[], .boxed hpartial⟩
    · rw [boxedBlock_eq]
      exact failsWith_straddled (failsWith_blockWith hmain hopening _ _) _ _
  | autoBoxed k =>
    show FailsWith _ (renderAutoBoxed env info k)
    unfold renderAutoBoxed
    rw [lift_bind hcrate]
    refine FailsWith.bind (fun e he => ?_) fun group => (failsWith_of_ok rfl).bind fun _ =>
      hopening.bind fun _ => (failsWith_of_ok rfl).bind fun _ => failsWith_functions _
    obtain ⟨hpartial, rfl⟩ := inlineGroup_error_cases hmain he
    exact .inl ⟨[], .autoBoxed hpartial⟩
  | shared k =>
    refine (failsWith_of_ok rfl).bind fun _ => ?_
    rw [sharedBlock_eq]
    exact failsWith_straddled (failsWith_blockWith hmain hopening _ _) _ _
  | other name =>
    intro e he
    obtain rfl := Except.error.inj ((failAt_eq info hmain _).symm.trans he)
    exact .inl ⟨[], .other⟩

/-- What texts describe is rendered where it is not refused. -/
theorem render_ok (hmain : env.library.findNamespace mainId = .ok main)
    (htexts : AreTexts info kind) (h : ∀ e ls, ¬Refused env main info kind e ls) :
    (render env info kind).result = .ok () := by
  cases hresult : (render env info kind).result with
  | ok a => rfl
  | error e =>
    rcases render_error_cases hmain e hresult with ⟨ls, hrefused⟩ | ⟨hnone, -⟩
    · exact absurd hrefused (h e ls)
    · exact absurd htexts hnone

theorem render_eq_error_iff (hmain : env.library.findNamespace mainId = .ok main)
    (htexts : AreTexts info kind) {e : InternalError} :
    (render env info kind).result = .error e ↔ ∃ ls, Refused env main info kind e ls := by
  constructor
  · intro h
    rcases render_error_cases hmain e h with hrefused | ⟨hnone, -⟩
    · exact hrefused
    · exact absurd htexts hnone
  · rintro ⟨ls, hrefused⟩
    exact (hrefused.stops hmain fun _ => htexts.info).result

end Render

/-! ## The last line -/

section Closing

variable {env : Env} {info : Info}

/-- Whether the last line is a closing brace, when there is no error. -/
def EndsClosed (x : Emit Unit) : Prop :=
  x.result = .ok () → ∃ front, x.writes = front ++ ["\x7d", "\n"]

theorem endsClosed_bind {α : Type} {x : Emit α} {f : α → Emit Unit} (h : ∀ a, EndsClosed (f a)) :
    EndsClosed (x >>= f) := by
  intro hresult
  obtain ⟨a, hx, ha⟩ := result_bind.1 hresult
  obtain ⟨front, hfront⟩ := h a ha
  exact ⟨x.writes ++ front, by rw [writes_bind_of_ok hx, hfront, List.append_assoc]⟩

theorem endsClosed_functions (entries : List String) : EndsClosed (functions entries) := by
  unfold functions
  exact endsClosed_bind fun _ => endsClosed_bind fun _ => endsClosed_bind fun _ =>
    endsClosed_bind fun _ _ => ⟨[], rfl⟩

theorem endsClosed_staticTypeImpl (sysCrate getTypeFn : String) :
    EndsClosed (staticTypeImpl env sysCrate info getTypeFn) := by
  unfold staticTypeImpl
  exact endsClosed_bind fun _ => endsClosed_bind fun _ => endsClosed_bind fun _ =>
    endsClosed_bind fun _ _ => ⟨[], rfl⟩

theorem endsClosed_straddled {block : Option String → Emit Unit} (h : ∀ fn, EndsClosed (block fn))
    (fn : Option String) (version : Option Version) :
    EndsClosed (straddled env fn version block) := by
  unfold straddled
  cases fn with
  | none => exact h none
  | some fn =>
    refine endsClosed_bind fun g => ?_
    cases g with
    | none => exact h (some fn)
    | some g =>
      exact endsClosed_bind fun _ => endsClosed_bind fun _ => endsClosed_bind fun _ =>
        endsClosed_bind fun _ => h none

theorem endsClosed_blockWith (storage : String → String) (entries : String → List String)
    (fn : Option String) : EndsClosed (blockWith env info storage entries fn) :=
  endsClosed_bind fun _ => endsClosed_bind fun _ => endsClosed_bind fun _ =>
    endsClosed_functions _

theorem endsClosed_render (kind : Kind) : EndsClosed (render env info kind) := by
  cases kind with
  | fundamental k =>
    exact endsClosed_bind fun _ => endsClosed_bind fun _ => endsClosed_bind fun _ =>
      endsClosed_bind fun _ => endsClosed_bind fun _ => endsClosed_bind fun _ =>
        endsClosed_bind fun _ => endsClosed_staticTypeImpl _ _
  | object k =>
    exact endsClosed_bind fun _ => endsClosed_bind fun _ => endsClosed_bind fun _ =>
      endsClosed_bind fun _ => endsClosed_functions _
  | boxed k =>
    refine endsClosed_bind fun group => endsClosed_bind fun _ => ?_
    rw [boxedBlock_eq]
    exact endsClosed_straddled (endsClosed_blockWith _ _) _ _
  | autoBoxed k =>
    exact endsClosed_bind fun _ => endsClosed_bind fun _ => endsClosed_bind fun _ =>
      endsClosed_bind fun _ => endsClosed_bind fun _ => endsClosed_functions _
  | shared k =>
    refine endsClosed_bind fun _ => ?_
    rw [sharedBlock_eq]
    exact endsClosed_straddled (endsClosed_blockWith _ _) _ _
  | other name => exact fun h => absurd h failAt_ne_ok

end Closing

/-! ## All declarations -/

/-- What becomes of a declaration: it is refused or printed whole. -/
structure RefusesExactly (env : Env) (main : Namespace) (info : Info) (kind : Kind) : Prop where
  /-- It ends with an error where it is refused with this error. -/
  error_iff : AreTexts info kind →
    ∀ e, (render env info kind).result = .error e ↔ ∃ ls, Refused env main info kind e ls
  /-- Where not all labels are texts, there is no other error but that one of them is not fit. -/
  error_cases : ∀ e, (render env info kind).result = .error e →
    (∃ ls, Refused env main info kind e ls) ∨ e.IsUnfit
  /-- When it is refused, nothing has been printed or, where an ancestor cannot be named, the
  header, if that can be printed. -/
  stops : ((∃ k, kind = .object k) → info.IsPlain) →
    ∀ e ls, Refused env main info kind e ls → Stops (render env info kind) e ls
  /-- No line of the header is one of a struct. -/
  noStruct : ∀ info' storage suffix, structLine info' storage suffix ∉ headerLines env info
  /-- When it is not refused it is printed, in one block or in two, down to the last brace. -/
  declared : AreTexts info kind → (¬∃ e ls, Refused env main info kind e ls) →
    (render env info kind).result = .ok () ∧
      PrintsLayout env kind.accessor.1 kind.accessor.2 (render env info kind) ∧
      ∃ front, (render env info kind).writes = front ++ ["\x7d", "\n"]

/-- A declaration is refused in the cases above and in no other. -/
theorem refusals_exact {env : Env} {main : Namespace}
    (hmain : env.library.namespace? mainId = some main) (info : Info) (kind : Kind) :
    RefusesExactly env main info kind := by
  have hfind := Library.findNamespace_eq_ok.2 hmain
  refine ⟨fun htexts e => render_eq_error_iff hfind htexts, fun e he => ?_,
    fun hinfo e ls hrefused => hrefused.stops hfind hinfo, structLine_notMem_header env info,
    fun htexts hnone => ?_⟩
  · exact (render_error_cases hfind e he).imp_right And.right
  · have hok := render_ok hfind htexts fun e ls hrefused => hnone ⟨e, ls, hrefused⟩
    exact ⟨hok, prints_render hok, endsClosed_render kind hok⟩

/-- An object whose third ancestor is a missing type. The second is a record of a missing namespace,
which is not named. -/
theorem refusals_exact_missingAncestor :
    let env : Env :=
      { library :=
          { namespaces := [⟨"Gtk", "gtk", "ffi", none⟩]
            types := ⟨[(⟨0, 0⟩, .classType ⟨"Widget", "GtkWidget", none⟩ none none),
              (⟨4, 0⟩, .recordType ⟨"Matrix", "GraMatrix", none⟩)]⟩ } }
    let info : Info :=
      { typeName := .string "Button"
        cName := "GtkButton"
        docAlias := some (.string "GtkButton") }
    let k : Object :=
      { getTypeFn := "gtk_button_get_type"
        parents := [⟨⟨0, 0⟩, .string "Widget", .active⟩, ⟨⟨4, 0⟩, .string "Matrix", .active⟩,
          ⟨⟨0, 7⟩, .string "Gone", .active⟩] }
    let e : InternalError := ⟨.unknownType ⟨0, 7⟩, some ⟨some "Gtk", none⟩⟩
    env.library.namespace? mainId = some ⟨"Gtk", "gtk", "ffi", none⟩ ∧ AreTexts info (.object k) ∧
      RefusesExactly env ⟨"Gtk", "gtk", "ffi", none⟩ info (.object k) ∧
      Refused env ⟨"Gtk", "gtk", "ffi", none⟩ info (.object k) e
        ["glib::wrapper! \x7b", "\t#[doc(alias = \"GtkButton\")]"] := by
  intro env info k e
  have hinfo : info.IsPlain := ⟨fun name hname => ⟨_, (Option.some.inj hname).symm⟩, nofun⟩
  have htexts : AreTexts info (.object k) := by
    refine ⟨hinfo, fun k' hk' p hp => ?_⟩
    obtain rfl := Kind.object.inj hk'
    have hmem := mem_of_mem_activeAncestors hp
    simp only [k, List.mem_cons, List.not_mem_nil, or_false] at hmem
    obtain rfl | rfl | rfl := hmem
    all_goals exact ⟨_, rfl⟩
  have hexact : RefusesExactly env ⟨"Gtk", "gtk", "ffi", none⟩ info (.object k) :=
    refusals_exact rfl info (.object k)
  have herror : (render env info (.object k)).result = .error e := rfl
  obtain ⟨ls, hrefused⟩ := (hexact.error_iff htexts e).1 herror
  refine ⟨rfl, htexts, hexact, ?_⟩
  cases hrefused with
  | object hps hfront hp => exact .object hps hfront hp

end Bindery.Wrapper
