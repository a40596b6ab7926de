import Bindery.DefaultImpl
import Bindery.Proofs.Wrapper.Reading

/-!
# Default values

An implementation of `Default` is written for the first function that makes a default value, and for
no other.

1. The constructor is the first function of its kind (`defaultConstructor?_eq_some`), so neither
   functions of another kind nor those behind it can change it (`defaultConstructor?_remove`,
   `defaultConstructor?_cut`).
2. What is written is read back as one declaration under the attributes of the constructor's version
   (`declarationsFrom_defaultLines`), and it is compiled where that version is enabled
   (`isCompiled_default`).
-/

namespace Bindery

open Emit Predicate Wrapper

/-! ## The constructor -/

/-- Makes a default value: a visible, generated `new` that returns a value and never null. -/
structure Function.MakesDefault (f : Function) : Prop where
  name : f.name = "new"
  visible : f.hidden = false
  generated : f.needGenerate = true
  returnsValue : f.returnsValue = true
  notNull : f.nullable = false

theorem isDefaultConstructor_iff {f : Function} :
    f.isDefaultConstructor = true ↔ f.MakesDefault := by
  simp only [Function.isDefaultConstructor, Bool.and_eq_true, Bool.not_eq_true', beq_iff_eq]
  constructor
  · rintro ⟨⟨⟨⟨hvisible, hgenerated⟩, hname⟩, hreturns⟩, hnull⟩
    exact ⟨hname, hvisible, hgenerated, hreturns, hnull⟩
  · intro h
    exact ⟨⟨⟨⟨h.visible, h.generated⟩, h.name⟩, h.returnsValue⟩, h.notNull⟩

/-- The first of some functions that makes a default value. -/
def IsConstructor (fs : List Function) (f : Function) : Prop :=
  ∃ before after, fs = before ++ f :: after ∧ f.MakesDefault ∧ ∀ g ∈ before, ¬g.MakesDefault

theorem defaultConstructor?_eq_some {fs : List Function} {f : Function} :
    defaultConstructor? fs = some f ↔ IsConstructor fs f := by
  unfold defaultConstructor? IsConstructor
  rw [List.find?_eq_some_iff_append]
  simp only [Bool.not_eq_true', ← Bool.not_eq_true, isDefaultConstructor_iff]
  constructor
  · rintro ⟨hf, before, after, rfl, hbefore⟩
    exact ⟨before, after, rfl, hf, hbefore⟩
  · rintro ⟨before, after, rfl, hf, hbefore⟩
    exact ⟨hf, before, after, rfl, hbefore⟩

/-- A function that makes no default value plays no part. -/
theorem defaultConstructor?_remove {g : Function} (h : ¬g.MakesDefault)
    (before after : List Function) :
    defaultConstructor? (before ++ g :: after) = defaultConstructor? (before ++ after) := by
  have hg : g.isDefaultConstructor = false := by
    rwa [← Bool.not_eq_true, isDefaultConstructor_iff]
  unfold defaultConstructor?
  rw [List.find?_append, List.find?_append, List.find?_cons_of_neg (by simp [hg])]

/-- Nor does any function behind one that makes a default value. -/
theorem defaultConstructor?_cut {f : Function} (h : f.MakesDefault)
    (before after : List Function) :
    defaultConstructor? (before ++ f :: after) = defaultConstructor? (before ++ [f]) := by
  have hf := isDefaultConstructor_iff.2 h
  unfold defaultConstructor?
  rw [List.find?_append, List.find?_append, List.find?_cons_of_pos hf, List.find?_cons_of_pos hf]

/-- What is written for a list of functions depends on the constructor among them. -/
theorem defaultImpl_of_constructor {fs fs' : List Function}
    (h : defaultConstructor? fs = defaultConstructor? fs') (env : Env) (typeName : String)
    (hasBuilder : Bool) :
    defaultImpl env typeName fs hasBuilder = defaultImpl env typeName fs' hasBuilder := by
  unfold defaultImpl
  rw [h]

/-! ## The implementation -/

/-- The line that opens an implementation of `Default`. -/
def defaultOpening (typeName : String) : String := "impl Default for " ++ typeName ++ " \x7b"

/-- Whether a line opens an implementation of `Default`, for whatever type. -/
def opensDefault (l : String) : Bool := "impl Default for ".toList.isPrefixOf l.toList

/-- The lines of an implementation of `Default` that gives the value of an expression. -/
def defaultBlock (typeName body : String) : List String :=
  [defaultOpening typeName, "\tfn default() -> Self \x7b", "\t\t" ++ body, "\t\x7d", "\x7d"]

/-- The expression of an object with the default properties. -/
def objectBody (env : Env) : String := env.glibPath "object::Object" ++ "::new::<Self>(&[])"

/-- The attributes of a version of the namespace being bound, as they are printed. -/
def guardTexts (env : Env) (version : Option Version) : List String :=
  ((Guard.resolve? version env.config.minVersion none).map (·.render true {})).toList

/-- All that is written for a constructor: an empty line, attributes, and the implementation. -/
def defaultLines (env : Env) (typeName : String) (version : Option Version) (body : String) :
    List String := "" :: (guardTexts env version ++ defaultBlock typeName body)

variable {env : Env} {fs : List Function} {f : Function} {hasBuilder : Bool}

theorem objectBody_ne (env : Env) : objectBody env ≠ "Self::new()" := by
  have hhead : (objectBody env).toList.head? ≠ some 'S' := by
    unfold objectBody Env.glibPath
    split_ifs <;> simp
  intro h
  exact hhead (by rw [h]; rfl)

/-- A constructor allows no expression when it needs arguments and there is no builder. -/
theorem defaultBody?_eq_none :
    defaultBody? env f hasBuilder = none ↔ f.parameterCount ≠ 0 ∧ hasBuilder = false := by
  unfold defaultBody?
  split_ifs <;> simp_all

theorem defaultBody?_spec {body : String} (h : defaultBody? env f hasBuilder = some body) :
    (body = "Self::new()" ↔ f.parameterCount = 0) ∧
      (f.parameterCount ≠ 0 → body = objectBody env) := by
  unfold defaultBody? at h
  split_ifs at h with hcount hbuilder
  · obtain rfl := Option.some.inj h
    exact ⟨iff_of_true rfl hcount, fun hne => absurd hcount hne⟩
  · obtain rfl := Option.some.inj h
    exact ⟨iff_of_false (objectBody_ne env) hcount, fun _ => rfl⟩

/-- Without a constructor that allows an expression nothing is done. -/
theorem defaultImpl_eq_pure
    (h : ∀ f, defaultConstructor? fs = some f → defaultBody? env f hasBuilder = none)
    (typeName : String) : defaultImpl env typeName fs hasBuilder = pure () := by
  unfold defaultImpl
  cases hf : defaultConstructor? fs with
  | none => rfl
  | some f => simp only [h f hf]

theorem prints_defaultImpl {body : String} (hf : defaultConstructor? fs = some f)
    (hbody : defaultBody? env f hasBuilder = some body) (typeName : String) :
    Prints (defaultImpl env typeName fs hasBuilder) ()
      (defaultLines env typeName f.version body) := by
  have hblock : Prints (do
      line (defaultOpening typeName)
      line "\tfn default() -> Self \x7b"
      line ("\t\t" ++ body)
      line "\t\x7d"
      line "\x7d") () (defaultBlock typeName body) :=
    (prints_line _).bind ((prints_line _).bind ((prints_line _).bind
      ((prints_line _).bind (prints_line _))))
  unfold defaultImpl
  simp only [hf, hbody]
  exact (prints_line _).bind ((prints_versionCondition env f.version {}).bind hblock)

/-- What is written: nothing, or the implementation with the expression that the constructor
allows. -/
theorem defaultImpl_spec (env : Env) (typeName : String) (fs : List Function)
    (hasBuilder : Bool) :
    ((∀ f, defaultConstructor? fs = some f → defaultBody? env f hasBuilder = none) ∧
      Prints (defaultImpl env typeName fs hasBuilder) () []) ∨
    ∃ f body, defaultConstructor? fs = some f ∧ defaultBody? env f hasBuilder = some body ∧
      Prints (defaultImpl env typeName fs hasBuilder) ()
        (defaultLines env typeName f.version body) := by
  cases hf : defaultConstructor? fs with
  | none =>
    have hnone : ∀ f, defaultConstructor? fs = some f → defaultBody? env f hasBuilder = none := by
      simp [hf]
    exact .inl ⟨nofun, defaultImpl_eq_pure hnone typeName ▸ prints_pure ()⟩
  | some f =>
    cases hbody : defaultBody? env f hasBuilder with
    | none =>
      have hnone : ∀ g, some f = some g → defaultBody? env g hasBuilder = none := by
        rintro g ⟨rfl⟩
        exact hbody
      refine .inl ⟨hnone, ?_⟩
      exact defaultImpl_eq_pure (hf ▸ hnone) typeName ▸ prints_pure ()
    | some body => exact .inr ⟨f, body, rfl, hbody, prints_defaultImpl hf hbody typeName⟩

/-- Whatever the functions, nothing is refused. -/
theorem defaultImpl_ok (typeName : String) (fs : List Function) (hasBuilder : Bool) :
    (defaultImpl env typeName fs hasBuilder).result = .ok () := by
  obtain ⟨-, h⟩ | ⟨f, body, -, -, h⟩ := defaultImpl_spec env typeName fs hasBuilder
  · exact h.result
  · exact h.result

/-- Nothing is written exactly when there is no constructor, or it allows no expression. -/
theorem writes_eq_nil_iff {typeName : String} :
    (defaultImpl env typeName fs hasBuilder).writes = [] ↔
      (¬∃ f, IsConstructor fs f) ∨
        ∃ f, IsConstructor fs f ∧ f.parameterCount ≠ 0 ∧ hasBuilder = false := by
  simp only [← defaultConstructor?_eq_some, ← @defaultBody?_eq_none env]
  obtain ⟨hnone, h⟩ | ⟨f, body, hf, hbody, h⟩ := defaultImpl_spec env typeName fs hasBuilder
  · refine iff_of_true h.writes ?_
    by_cases hconstructor : ∃ f, defaultConstructor? fs = some f
    · obtain ⟨f, hf⟩ := hconstructor
      exact .inr ⟨f, hf, hnone f hf⟩
    · exact .inl hconstructor
  · refine iff_of_false ?_ ?_
    · rw [h.writes]
      simp [defaultLines]
    · rintro (hnone | ⟨g, hg, hquiet⟩)
      · exact hnone ⟨f, hf⟩
      · obtain rfl := Option.some.inj (hf.symm.trans hg)
        rw [hbody] at hquiet
        cases hquiet

/-! ## What is read back -/

/-- The attributes of a version of the namespace being bound: none where the baseline guarantees it
or it is absent, and otherwise the two of its guard. -/
def IsGuardOf (env : Env) (version : Option Version) (as : List String) : Prop :=
  (Guard.isNeeded version env.config.minVersion = false ∧ as = []) ∨
    ∃ v, version = some v ∧ Guard.isNeeded version env.config.minVersion = true ∧
      as = [(Guard.mk (v.predicate none)).compileAttribute {},
        (Guard.mk (v.predicate none)).docAttribute {}]

section Read

variable (env) (typeName : String) (version : Option Version) (body : String)

/-- An implementation is opened by a line that begins like no other here. -/
theorem head?_of_opensDefault {l : String} (h : opensDefault l = true) :
    l.toList.head? = some 'i' := by
  have hfirst : "impl Default for ".toList.head? = some 'i' := by decide
  obtain ⟨rest, hrest⟩ := List.isPrefixOf_iff_prefix.1 h
  rw [← hrest, List.head?_append, hfirst]
  rfl

theorem opensDefault_eq_false {l : String} (h : l.toList.head? ≠ some 'i') :
    opensDefault l = false := by
  rw [Bool.eq_false_iff]
  intro hopens
  exact h (head?_of_opensDefault hopens)

theorem opensDefault_defaultOpening : opensDefault (defaultOpening typeName) = true := by
  unfold opensDefault defaultOpening
  rw [String.append_assoc, String.toList_append]
  exact List.isPrefixOf_iff_prefix.2 (List.prefix_append _ _)

theorem defaultOpening_ne {l : String} (h : l.toList.head? ≠ some 'i') :
    defaultOpening typeName ≠ l := by
  rintro rfl
  exact h (head?_of_opensDefault (opensDefault_defaultOpening typeName))

/-- One line opens an implementation. -/
theorem filter_opensDefault : (defaultLines env typeName version body).filter opensDefault =
    [defaultOpening typeName] := by
  have hguard : ∀ l ∈ guardTexts env version, opensDefault l = false := by
    intro l hl
    obtain ⟨g, -, rfl⟩ := Option.map_eq_some_iff.1 (Option.mem_toList.1 hl)
    exact opensDefault_eq_false (by rw [head?_render]; decide)
  have hrest : ∀ l ∈ ["\tfn default() -> Self \x7b", "\t\t" ++ body, "\t\x7d", "\x7d"],
      opensDefault l = false := by
    intro l hl
    apply opensDefault_eq_false
    simp only [List.mem_cons, List.not_mem_nil, or_false] at hl
    obtain rfl | rfl | rfl | rfl := hl
    all_goals simp
  unfold defaultLines defaultBlock
  rw [List.filter_cons_of_neg (by decide), List.filter_append,
    List.filter_eq_nil_iff.2 (by simpa using hguard), List.nil_append,
    List.filter_cons_of_pos (opensDefault_defaultOpening typeName),
    List.filter_eq_nil_iff.2 (by simpa using hrest)]

theorem declarationsFrom_defaultBlock (as : List String) :
    declarationsFrom (defaultOpening typeName) as none (defaultBlock typeName body) =
      [⟨as, defaultBlock typeName body⟩] := by
  have hinner : "\x7d" ∉ ["\tfn default() -> Self \x7b", "\t\t" ++ body, "\t\x7d"] := by
    have hbody : IsIndented ("\t\t" ++ body) := .inr ⟨_, by simp; rfl⟩
    simp [hbody.ne_closing]
  exact declarationsFrom_opening.trans (declarationsFrom_inner hinner)

/-- The attributes of a version stand directly before the implementation. -/
theorem declarationsFrom_defaultLines : ∃ as, IsGuardOf env version as ∧
    declarationsFrom (defaultOpening typeName) [] none (defaultLines env typeName version body) =
      [⟨as, defaultBlock typeName body⟩] := by
  have hempty : defaultOpening typeName ≠ "" := defaultOpening_ne typeName (by simp)
  unfold defaultLines guardTexts
  rw [declarationsFrom_empty hempty]
  cases hguard : Guard.resolve? version env.config.minVersion none with
  | none => exact ⟨_, .inl ⟨resolve?_eq_none.1 hguard, rfl⟩,
      declarationsFrom_defaultBlock typeName body []⟩
  | some g =>
    obtain ⟨v, rfl, hneeded, rfl⟩ := resolve?_eq_some hguard
    have hopening : defaultOpening typeName ≠ (Guard.mk (v.predicate none)).render true {} :=
      defaultOpening_ne typeName (by rw [head?_render]; decide)
    refine ⟨_, .inr ⟨v, rfl, hneeded, rfl⟩, ?_⟩
    rw [Option.map_some, Option.toList_some, List.singleton_append,
      declarationsFrom_guarded v hopening, declarationsFrom_defaultBlock]
    rfl

end Read

/-- The implementation is compiled where the version of the constructor is enabled. -/
theorem isCompiled_default {version : Option Version} {as block : List String} (s : Settings)
    (h : IsGuardOf env version as) :
    Declaration.isCompiled s ⟨as, block⟩ = true ↔ version = none ∨
      ∃ v, version = some v ∧ (env.guarantees none (some v) = .ok true ∨
        s.feature v.feature = true ∨ s.feature docsFeature = true) := by
  obtain ⟨hneeded, rfl⟩ | ⟨v, rfl, hneeded, rfl⟩ := h
  · refine iff_of_true rfl ?_
    cases version with
    | none => exact .inl rfl
    | some v =>
      refine .inr ⟨v, rfl, .inl ?_⟩
      rw [guarantees_main, hneeded]
      rfl
  · have hguarantees : env.guarantees none (some v) ≠ .ok true := by
      rw [guarantees_main, hneeded]
      simp
    rw [isCompiled_guarded]
    simp [hguarantees]

/-! ## Which implementation is written -/

/-- What is written for a constructor is an implementation that gives the value of an expression,
under some attributes. -/
structure ImplementsDefault (env : Env) (typeName : String) (f : Function) (x : Emit Unit)
    (body : String) (as : List String) : Prop where
  prints : Prints x () (defaultLines env typeName f.version body)
  /-- It is the only one. -/
  opened_once : (defaultLines env typeName f.version body).filter opensDefault =
    [defaultOpening typeName]
  read_back : declarationsFrom (defaultOpening typeName) [] none
    (defaultLines env typeName f.version body) = [⟨as, defaultBlock typeName body⟩]
  /-- The value is what the constructor gives, if it takes no arguments. -/
  plain_iff : body = "Self::new()" ↔ f.parameterCount = 0
  /-- Otherwise it is an object with the default properties. -/
  object : f.parameterCount ≠ 0 → body = objectBody env
  /-- It is compiled where the version of the constructor is absent, guaranteed or enabled. -/
  compiled_iff : ∀ s, Declaration.isCompiled s ⟨as, defaultBlock typeName body⟩ = true ↔
    f.version = none ∨ ∃ v, f.version = some v ∧ (env.guarantees none (some v) = .ok true ∨
      s.feature v.feature = true ∨ s.feature docsFeature = true)

/-- For the functions of a type the default value of the first that makes one is written. -/
structure GivesDefault (env : Env) (typeName : String) (fs : List Function) (hasBuilder : Bool) :
    Prop where
  ok : (defaultImpl env typeName fs hasBuilder).result = .ok ()
  /-- Nothing is written just when no function makes a default value, or the first that does needs
  arguments and there is no builder. -/
  silent_iff : (defaultImpl env typeName fs hasBuilder).writes = [] ↔
    (¬∃ f, IsConstructor fs f) ∨
      ∃ f, IsConstructor fs f ∧ f.parameterCount ≠ 0 ∧ hasBuilder = false
  written : ∀ f, IsConstructor fs f → (f.parameterCount = 0 ∨ hasBuilder = true) →
    ∃ body as, ImplementsDefault env typeName f (defaultImpl env typeName fs hasBuilder) body as
  /-- Functions that make no default value do not matter. -/
  skips : ∀ before g after, fs = before ++ g :: after → ¬g.MakesDefault →
    defaultImpl env typeName fs hasBuilder = defaultImpl env typeName (before ++ after) hasBuilder
  /-- Neither do those behind the constructor. -/
  stops : ∀ before f after, fs = before ++ f :: after → f.MakesDefault →
    defaultImpl env typeName fs hasBuilder = defaultImpl env typeName (before ++ [f]) hasBuilder

/-- At most one implementation of `Default` is written, and it is the first constructor that
matters. -/
theorem default_of_first_constructor (env : Env) (typeName : String) (fs : List Function)
    (hasBuilder : Bool) : GivesDefault env typeName fs hasBuilder where
  ok := defaultImpl_ok typeName fs hasBuilder
  silent_iff := writes_eq_nil_iff
  written f hf hallowed := by
    have hconstructor := defaultConstructor?_eq_some.2 hf
    cases hbody : defaultBody? env f hasBuilder with
    | none =>
      obtain ⟨hcount, hbuilder⟩ := defaultBody?_eq_none.1 hbody
      rw [hbuilder] at hallowed
      exact absurd hallowed (by simp [hcount])
    | some body =>
      obtain ⟨hnew, hobject⟩ := defaultBody?_spec hbody
      obtain ⟨as, has, hread⟩ := declarationsFrom_defaultLines env typeName f.version body
      exact ⟨body, as, prints_defaultImpl hconstructor hbody typeName,
        filter_opensDefault env typeName f.version body, hread, hnew, hobject,
        fun s => isCompiled_default s has⟩
  skips := by
    rintro before g after rfl hg
    exact defaultImpl_of_constructor (defaultConstructor?_remove hg before after) env typeName
      hasBuilder
  stops := by
    rintro before f after rfl hf
    exact defaultImpl_of_constructor (defaultConstructor?_cut hf before after) env typeName
      hasBuilder

/-- Constructors of a button: one is hidden, one may give null, and the first that makes a default
value needs arguments and came later than the one without. -/
def buttonFunctions : List Function :=
  [{ name := "new", hidden := true }, { name := "new", nullable := true },
    { name := "new", parameterCount := 2, version := some ⟨3, 24, 0⟩ }, { name := "new" }]

theorem default_of_first_constructor_button :
    IsConstructor buttonFunctions
      { name := "new", parameterCount := 2, version := some ⟨3, 24, 0⟩ } ∧
    ∃ as, declarationsFrom (defaultOpening "Button") [] none
        (defaultLines ⟨{}, {}⟩ "Button" (some ⟨3, 24, 0⟩) (objectBody ⟨{}, {}⟩)) =
          [⟨as, defaultBlock "Button" (objectBody ⟨{}, {}⟩)⟩] ∧
      Prints (defaultImpl ⟨{}, {}⟩ "Button" buttonFunctions true) ()
        (defaultLines ⟨{}, {}⟩ "Button" (some ⟨3, 24, 0⟩) (objectBody ⟨{}, {}⟩)) ∧
      ∀ feature flag, Declaration.isCompiled ⟨feature, flag⟩
          ⟨as, defaultBlock "Button" (objectBody ⟨{}, {}⟩)⟩ = true ↔
        feature "v3_24" = true ∨ feature "dox" = true := by
  have hconstructor := defaultConstructor?_eq_some.1
    (show defaultConstructor? buttonFunctions =
      some { name := "new", parameterCount := 2, version := some ⟨3, 24, 0⟩ } by decide)
  have hgives := default_of_first_constructor ⟨{}, {}⟩ "Button" buttonFunctions true
  obtain ⟨body, as, himpl⟩ := hgives.written _ hconstructor (.inr rfl)
  obtain rfl := himpl.object (by decide)
  refine ⟨hconstructor, as, himpl.read_back, himpl.prints, fun feature flag => ?_⟩
  have hneeded : Guard.isNeeded (some ⟨3, 24, 0⟩) (Env.config ⟨{}, {}⟩).minVersion = true := by
    decide
  have hnewer : Env.guarantees ⟨{}, {}⟩ none (some ⟨3, 24, 0⟩) = .ok false := by
    rw [guarantees_main, hneeded]
    rfl
  have hfeature : Version.feature ⟨3, 24, 0⟩ = "v3_24" := by decide
  rw [himpl.compiled_iff]
  simp [hnewer, hfeature, docsFeature]

end Bindery
