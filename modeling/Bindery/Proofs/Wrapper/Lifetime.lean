import Bindery.Proofs.Library
import Bindery.Proofs.Wrapper.Shapes

/-!
# Who counts the references of a fundamental type

The functions of the type itself come first. Without both of them the active ancestors are searched
in their order, and the search ends at the first whose type is missing from the table or is a class
with both functions. What stands behind that ancestor, and what is not active, is not looked at.
-/

namespace Bindery.Wrapper

open Emit

/-! ## What the search comes to -/

/-- Whether a type lacks one of the functions that count its references, or both. -/
def Fundamental.LacksPair (k : Fundamental) : Prop := k.refFn = none ∨ k.unrefFn = none

/-- Whether the search ends at an ancestor: its type is missing from the table, or is a class with
both functions. -/
def EndsSearch (l : Library) (p : Ancestor) : Prop :=
  l.types.get? p.id = none ∨
    ∃ named refFn unrefFn, l.types.get? p.id = some (.classType named (some refFn) (some unrefFn))

/-- Whether the search among some ancestors ends at one of them, behind those that it passes. -/
structure EndsAtFirst (l : Library) (ps passed : List Ancestor) (p : Ancestor) : Prop where
  exists_rest : ∃ rest, ps = passed ++ p :: rest
  passes : ∀ q ∈ passed, ¬EndsSearch l q
  ends : EndsSearch l p

/-- The crate in which the functions of a namespace are called. The one for objects is reached
through glib. -/
def callCrate (env : Env) (n : Namespace) : String :=
  if n.sysCrateName = "gobject_ffi" then env.glibPath "gobject_ffi" else n.sysCrateName

/-- The lifetime of a fundamental type, or why it has none. `main` is the namespace being bound. -/
inductive Owned (env : Env) (main : Namespace) (info : Info) (k : Fundamental) :
    Except InternalError Lifetime → Prop
  /-- The type has both functions, whatever its ancestors are. -/
  | own {refFn unrefFn : String} (hrefFn : k.refFn = some refFn)
    (hunrefFn : k.unrefFn = some unrefFn) :
    Owned env main info k (.ok ⟨refFn, unrefFn, "ptr", main.sysCrateName⟩)
  /-- There is no ancestor to turn to. -/
  | root (hpair : k.LacksPair) (hnil : activeAncestors k.parents = []) :
    Owned env main info k (.error ⟨.rootLifetime, some ⟨main.name, info.typeName⟩⟩)
  /-- The search passes all ancestors. -/
  | nobody (hpair : k.LacksPair) (hne : activeAncestors k.parents ≠ [])
    (hpasses : ∀ p ∈ activeAncestors k.parents, ¬EndsSearch env.library p) :
    Owned env main info k (.error ⟨.inheritedLifetime, some ⟨main.name, info.typeName⟩⟩)
  /-- The search comes to a type that is missing. -/
  | unknownType {passed : List Ancestor} {p : Ancestor} (hpair : k.LacksPair)
    (hfirst : EndsAtFirst env.library (activeAncestors k.parents) passed p)
    (htype : env.library.types.get? p.id = none) :
    Owned env main info k (.error
      ⟨.unknownType p.id, some ⟨(env.library.namespace? p.id.ns).map (·.name), none⟩⟩)
  /-- The search comes to a class with both functions, of a namespace that is missing. -/
  | unknownNamespace {passed : List Ancestor} {p : Ancestor} {named : NamedType}
    {refFn unrefFn : String} (hpair : k.LacksPair)
    (hfirst : EndsAtFirst env.library (activeAncestors k.parents) passed p)
    (htype : env.library.types.get? p.id = some (.classType named (some refFn) (some unrefFn)))
    (hns : env.library.namespace? p.id.ns = none) :
    Owned env main info k (.error ⟨.unknownNamespace p.id.ns, none⟩)
  /-- The search comes to a class with both functions. They are called in the crate of its
  namespace, with the pointer cast to its type in that crate. -/
  | inherited {passed : List Ancestor} {p : Ancestor} {named : NamedType}
    {refFn unrefFn : String} {n : Namespace} (hpair : k.LacksPair)
    (hfirst : EndsAtFirst env.library (activeAncestors k.parents) passed p)
    (htype : env.library.types.get? p.id = some (.classType named (some refFn) (some unrefFn)))
    (hns : env.library.namespace? p.id.ns = some n) :
    Owned env main info k (.ok ⟨refFn, unrefFn,
      "ptr as *mut " ++ callCrate env n ++ "::" ++ named.cType, callCrate env n⟩)

/-! ## Steps of the search -/

section Search

variable {env : Env} {info : Info} {main : Namespace} {p : Ancestor} {ps passed : List Ancestor}

/-- A missing type ends the search with an error. -/
theorem inheritFrom_missing (h : env.library.types.get? p.id = none) (ps : List Ancestor) :
    inheritFrom env info (p :: ps) = fail
      ⟨.unknownType p.id, some ⟨(env.library.namespace? p.id.ns).map (·.name), none⟩⟩ := by
  rw [inheritFrom, Library.findType, h]
  rfl

/-- A class with both functions ends the search with them. -/
theorem inheritFrom_class {named : NamedType} {refFn unrefFn : String}
    (h : env.library.types.get? p.id = some (.classType named (some refFn) (some unrefFn)))
    (ps : List Ancestor) :
    inheritFrom env info (p :: ps) = (do
      let lifetime ← inherited env p named.cType refFn unrefFn
      Emit.debug (info.typeName.display ++ ": ref/unref inherited from '" ++ p.name.display ++ "'")
      return lifetime) := by
  rw [inheritFrom, lift_bind (Library.findType_eq_ok.2 h)]

/-- Any other ancestor is passed. -/
theorem inheritFrom_passed (h : ¬EndsSearch env.library p) (ps : List Ancestor) :
    inheritFrom env info (p :: ps) = (do
      Emit.debug (info.typeName.display ++ ": ancestor '" ++ p.name.display ++
        "' has no ref/unref, skipping")
      inheritFrom env info ps) := by
  obtain ⟨hknown, hpair⟩ := not_or.1 h
  obtain ⟨t, ht⟩ := Option.ne_none_iff_exists'.1 hknown
  rw [inheritFrom, lift_bind (Library.findType_eq_ok.2 ht)]
  split
  · next named refFn unrefFn => exact absurd ⟨named, refFn, unrefFn, ht⟩ hpair
  · rfl

/-- Nothing behind the ancestor at which the search ends has a part in it. -/
theorem inheritFrom_congr_rest (hpasses : ∀ q ∈ passed, ¬EndsSearch env.library q)
    (hends : EndsSearch env.library p) (rest rest' : List Ancestor) :
    inheritFrom env info (passed ++ p :: rest) = inheritFrom env info (passed ++ p :: rest') := by
  induction passed with
  | nil =>
    rcases hends with hmissing | ⟨named, refFn, unrefFn, hclass⟩
    · exact (inheritFrom_missing hmissing rest).trans (inheritFrom_missing hmissing rest').symm
    · exact (inheritFrom_class hclass rest).trans (inheritFrom_class hclass rest').symm
  | cons q passed ih =>
    obtain ⟨hq, hpasses⟩ := List.forall_mem_cons.1 hpasses
    rw [List.cons_append, List.cons_append, inheritFrom_passed hq, inheritFrom_passed hq,
      ih hpasses]

/-- What is passed leaves the result to what follows. -/
theorem result_inheritFrom_append (hpasses : ∀ q ∈ passed, ¬EndsSearch env.library q)
    (ps : List Ancestor) :
    (inheritFrom env info (passed ++ ps)).result = (inheritFrom env info ps).result := by
  induction passed with
  | nil => rfl
  | cons q passed ih =>
    obtain ⟨hq, hpasses⟩ := List.forall_mem_cons.1 hpasses
    rw [List.cons_append, inheritFrom_passed hq]
    exact (result_bind_of_ok rfl).trans (ih hpasses)

theorem EndsAtFirst.result_eq (h : EndsAtFirst env.library ps passed p) :
    (inheritFrom env info ps).result = (inheritFrom env info [p]).result := by
  obtain ⟨rest, rfl⟩ := h.exists_rest
  rw [inheritFrom_congr_rest h.passes h.ends rest []]
  exact result_inheritFrom_append h.passes [p]

/-- A class with both functions gives its lifetime where its namespace is known. -/
theorem inherited_eq {n : Namespace} (hns : env.library.namespace? p.id.ns = some n)
    (cType refFn unrefFn : String) : inherited env p cType refFn unrefFn = .ok
      ⟨refFn, unrefFn, "ptr as *mut " ++ callCrate env n ++ "::" ++ cType, callCrate env n⟩ := by
  have hcrate : env.sysCratePath p.id = .ok (callCrate env n) := by
    unfold Env.sysCratePath callCrate
    rw [Library.findNamespace_eq_ok.2 hns]
    refine congrArg Except.ok ?_
    show (if n.sysCrateName = "gobject_ffi" then env.glibPath n.sysCrateName
      else n.sysCrateName) = _
    split
    · next hname => rw [hname]
    · rfl
  unfold inherited
  rw [hcrate]
  rfl

theorem inherited_eq_error (hns : env.library.namespace? p.id.ns = none)
    (cType refFn unrefFn : String) : inherited env p cType refFn unrefFn =
      .error ⟨.unknownNamespace p.id.ns, none⟩ := by
  unfold inherited Env.sysCratePath Library.findNamespace
  rw [hns]
  rfl

end Search

/-! ## The whole search -/

section Resolve

variable {env : Env} {info : Info} {main : Namespace} {k : Fundamental}

theorem resolveLifetime_own (hmain : env.library.findNamespace mainId = .ok main)
    {refFn unrefFn : String} (hrefFn : k.refFn = some refFn) (hunrefFn : k.unrefFn = some unrefFn) :
    resolveLifetime env info k = pure ⟨refFn, unrefFn, "ptr", main.sysCrateName⟩ := by
  unfold resolveLifetime
  rw [lift_bind (mainSysCrate_eq hmain), hrefFn, hunrefFn]

/-- A type that lacks neither function has both. -/
theorem exists_pair (h : ¬k.LacksPair) :
    ∃ refFn unrefFn, k.refFn = some refFn ∧ k.unrefFn = some unrefFn := by
  obtain ⟨hrefFn, hunrefFn⟩ := not_or.1 h
  obtain ⟨refFn, hrefFn⟩ := Option.ne_none_iff_exists'.1 hrefFn
  obtain ⟨unrefFn, hunrefFn⟩ := Option.ne_none_iff_exists'.1 hunrefFn
  exact ⟨refFn, unrefFn, hrefFn, hunrefFn⟩

/-- Without both functions of its own a type depends on its active ancestors. -/
theorem resolveLifetime_search (hmain : env.library.findNamespace mainId = .ok main)
    (hpair : k.LacksPair) : resolveLifetime env info k =
      match activeAncestors k.parents with
      | [] => failAt env info .rootLifetime
      | p :: ps => inheritFrom env info (p :: ps) := by
  unfold resolveLifetime
  rw [lift_bind (mainSysCrate_eq hmain)]
  split
  · next hrefFn hunrefFn => simp [Fundamental.LacksPair, hrefFn, hunrefFn] at hpair
  · rfl

theorem resolveLifetime_inherits (hmain : env.library.findNamespace mainId = .ok main)
    (hpair : k.LacksPair) (hne : activeAncestors k.parents ≠ []) :
    resolveLifetime env info k = inheritFrom env info (activeAncestors k.parents) := by
  rw [resolveLifetime_search hmain hpair]
  cases hps : activeAncestors k.parents with
  | nil => exact absurd hps hne
  | cons p ps => rfl

theorem EndsAtFirst.ne_nil {l : Library} {ps passed : List Ancestor} {p : Ancestor}
    (h : EndsAtFirst l ps passed p) : ps ≠ [] := by
  obtain ⟨rest, rfl⟩ := h.exists_rest
  simp

theorem EndsAtFirst.mem {l : Library} {ps passed : List Ancestor} {p : Ancestor}
    (h : EndsAtFirst l ps passed p) : p ∈ ps := by
  obtain ⟨rest, rfl⟩ := h.exists_rest
  simp

/-- Where the search ends at an ancestor, the result is what this ancestor gives. -/
theorem EndsAtFirst.result_resolveLifetime {passed : List Ancestor} {p : Ancestor}
    (hmain : env.library.findNamespace mainId = .ok main) (hpair : k.LacksPair)
    (h : EndsAtFirst env.library (activeAncestors k.parents) passed p) :
    (resolveLifetime env info k).result = (inheritFrom env info [p]).result := by
  rw [resolveLifetime_inherits hmain hpair h.ne_nil, h.result_eq]

theorem Owned.result_eq (hmain : env.library.findNamespace mainId = .ok main)
    {r : Except InternalError Lifetime} (h : Owned env main info k r) :
    (resolveLifetime env info k).result = r := by
  cases h with
  | own hrefFn hunrefFn =>
    rw [resolveLifetime_own hmain hrefFn hunrefFn]
    rfl
  | root hpair hnil =>
    rw [resolveLifetime_search hmain hpair, hnil]
    exact failAt_eq info hmain _
  | nobody hpair hne hpasses =>
    rw [resolveLifetime_inherits hmain hpair hne,
      ← List.append_nil (activeAncestors k.parents), result_inheritFrom_append hpasses []]
    exact failAt_eq info hmain _
  | unknownType hpair hfirst htype =>
    rw [hfirst.result_resolveLifetime hmain hpair, inheritFrom_missing htype]
    rfl
  | unknownNamespace hpair hfirst htype hns =>
    rw [hfirst.result_resolveLifetime hmain hpair, inheritFrom_class htype,
      inherited_eq_error hns]
    rfl
  | inherited hpair hfirst htype hns =>
    rw [hfirst.result_resolveLifetime hmain hpair, inheritFrom_class htype, inherited_eq hns]
    rfl

/-- One of the cases always holds. -/
theorem exists_owned (env : Env) (main : Namespace) (info : Info) (k : Fundamental) :
    ∃ r, Owned env main info k r := by
  by_cases hpair : k.LacksPair
  · by_cases hnil : activeAncestors k.parents = []
    · exact ⟨_, .root hpair hnil⟩
    · rcases exists_first (EndsSearch env.library) (activeAncestors k.parents) with
        hpasses | ⟨passed, p, rest, hps, hpasses, hends⟩
      · exact ⟨_, .nobody hpair hnil hpasses⟩
      · have hfirst : EndsAtFirst env.library (activeAncestors k.parents) passed p :=
          ⟨⟨rest, hps⟩, hpasses, hends⟩
        rcases hends with htype | ⟨named, refFn, unrefFn, htype⟩
        · exact ⟨_, .unknownType hpair hfirst htype⟩
        · cases hns : env.library.namespace? p.id.ns with
          | none => exact ⟨_, .unknownNamespace hpair hfirst htype hns⟩
          | some n => exact ⟨_, .inherited hpair hfirst htype hns⟩
  · obtain ⟨refFn, unrefFn, hrefFn, hunrefFn⟩ := exists_pair hpair
    exact ⟨_, .own hrefFn hunrefFn⟩

theorem result_resolveLifetime_iff (hmain : env.library.findNamespace mainId = .ok main)
    {r : Except InternalError Lifetime} :
    (resolveLifetime env info k).result = r ↔ Owned env main info k r := by
  refine ⟨?_, Owned.result_eq hmain⟩
  rintro rfl
  obtain ⟨r, hr⟩ := exists_owned env main info k
  rwa [hr.result_eq hmain]

/-- Beside both functions of the type itself no ancestors count. -/
theorem resolveLifetime_eq_of_own (hmain : env.library.findNamespace mainId = .ok main)
    (hpair : ¬k.LacksPair) (ps : List Ancestor) :
    resolveLifetime env info k = resolveLifetime env info { k with parents := ps } := by
  obtain ⟨refFn, unrefFn, hrefFn, hunrefFn⟩ := exists_pair hpair
  rw [resolveLifetime_own hmain hrefFn hunrefFn,
    resolveLifetime_own hmain (k := { k with parents := ps }) hrefFn hunrefFn]

/-- Of the ancestors only those that are active count. -/
theorem resolveLifetime_eq_of_active {ps : List Ancestor}
    (h : activeAncestors k.parents = activeAncestors ps) :
    resolveLifetime env info k = resolveLifetime env info { k with parents := ps } := by
  unfold resolveLifetime
  rw [h]

/-- What stands behind the ancestor at which the search ends does not count. -/
theorem resolveLifetime_eq_of_first (hmain : env.library.findNamespace mainId = .ok main)
    {passed : List Ancestor} {p : Ancestor} {ps : List Ancestor} (hpair : k.LacksPair)
    (h : EndsAtFirst env.library (activeAncestors k.parents) passed p)
    (h' : EndsAtFirst env.library (activeAncestors ps) passed p) :
    resolveLifetime env info k = resolveLifetime env info { k with parents := ps } := by
  obtain ⟨rest, hrest⟩ := h.exists_rest
  obtain ⟨rest', hrest'⟩ := h'.exists_rest
  rw [resolveLifetime_inherits hmain hpair h.ne_nil,
    resolveLifetime_inherits hmain (k := { k with parents := ps }) hpair h'.ne_nil, hrest, hrest']
  exact inheritFrom_congr_rest h.passes h.ends rest rest'

end Resolve

/-! ## The owner that a type gets -/

/-- How a fundamental type gets its lifetime, whatever its ancestors are. -/
structure FindsOwner (env : Env) (main : Namespace) (info : Info) (k : Fundamental) : Prop where
  /-- The result is the one that the cases give, and in each case there is one. -/
  result_iff : ∀ r, (resolveLifetime env info k).result = r ↔ Owned env main info k r
  /-- Nothing is written. -/
  writes_eq : (resolveLifetime env info k).writes = []
  /-- With both functions of its own, a type does not depend on any ancestors. -/
  own : k.refFn ≠ none → k.unrefFn ≠ none → ∀ ps,
    resolveLifetime env info { k with parents := ps } = resolveLifetime env info k
  /-- Ancestors behind the one at which the search ends can be replaced. -/
  behind : ∀ passed p rest rest' ps, activeAncestors k.parents = passed ++ p :: rest →
    (∀ q ∈ passed, ¬EndsSearch env.library q) → EndsSearch env.library p →
    activeAncestors ps = passed ++ p :: rest' →
    resolveLifetime env info { k with parents := ps } = resolveLifetime env info k
  /-- Ancestors that are not active can be replaced wherever they stand. -/
  unwanted : ∀ before hidden after hidden', k.parents = before ++ hidden ++ after →
    (∀ p ∈ hidden, p.status ≠ .active) → (∀ p ∈ hidden', p.status ≠ .active) →
    resolveLifetime env info { k with parents := before ++ hidden' ++ after } =
      resolveLifetime env info k
  /-- A declaration that is printed calls the functions of the lifetime. -/
  declared : (render env info (.fundamental k)).result = .ok () →
    ∃ l parts after, Owned env main info k (.ok l) ∧
      Prints (render env info (.fundamental k)) ()
        (blockLines env parts (fundamentalEntries l) ++ after)

/-- With any ancestors, known or missing, wanted or not, the right owner is found. -/
theorem owner_found {env : Env} {main : Namespace}
    (hmain : env.library.namespace? mainId = some main) (info : Info) (k : Fundamental) :
    FindsOwner env main info k := by
  have hfind := Library.findNamespace_eq_ok.2 hmain
  refine ⟨fun r => result_resolveLifetime_iff hfind, writes_resolveLifetime env info k,
    fun hrefFn hunrefFn ps => ?_, fun passed p rest rest' ps hps hpasses hends hps' => ?_,
    fun before hidden after hidden' hps hhidden hhidden' => ?_, fun hrender => ?_⟩
  · exact (resolveLifetime_eq_of_own hfind (not_or.2 ⟨hrefFn, hunrefFn⟩) ps).symm
  · by_cases hpair : k.LacksPair
    · exact (resolveLifetime_eq_of_first hfind hpair ⟨⟨rest, hps⟩, hpasses, hends⟩
        ⟨⟨rest', hps'⟩, hpasses, hends⟩).symm
    · exact (resolveLifetime_eq_of_own hfind hpair ps).symm
  · refine (resolveLifetime_eq_of_active ?_).symm
    rw [hps]
    exact activeAncestors_unwanted hhidden hhidden' before after
  · obtain ⟨-, l, parts, after, -, hl, -, -, hprints⟩ := prints_fundamental hrender
    exact ⟨l, parts, after, (result_resolveLifetime_iff hfind).1 hl, hprints⟩

/-- A type with one of the functions inherits both. The search passes a class without them, and
neither a missing type that is not wanted nor one behind the owner is looked at. -/
theorem owner_found_oneFunction :
    let env : Env :=
      { library :=
          { namespaces :=
              [⟨"Gst", "gst", "ffi", none⟩, ⟨"GObject", "gobject", "gobject_ffi", none⟩]
            types := ⟨[(⟨0, 0⟩, .classType ⟨"Meta", "GstMeta", none⟩ none (some "unref")),
              (⟨1, 0⟩, .classType ⟨"ParamSpec", "GParamSpec", none⟩ (some "g_param_spec_ref")
                (some "g_param_spec_unref"))]⟩ } }
    let info : Info := { typeName := .string "ParamFraction", cName := "GstParamSpecFraction" }
    let k : Fundamental :=
      { getTypeFn := "get_type"
        refFn := some "gst_param_ref"
        parents := [⟨⟨7, 7⟩, .string "Gone", .ignored⟩, ⟨⟨0, 0⟩, .string "Meta", .active⟩,
          ⟨⟨1, 0⟩, .string "ParamSpec", .active⟩, ⟨⟨8, 8⟩, .string "Missing", .active⟩] }
    env.library.namespace? mainId = some ⟨"Gst", "gst", "ffi", none⟩ ∧
      FindsOwner env ⟨"Gst", "gst", "ffi", none⟩ info k ∧
      (resolveLifetime env info k).result = .ok ⟨"g_param_spec_ref", "g_param_spec_unref",
        "ptr as *mut glib::gobject_ffi::GParamSpec", "glib::gobject_ffi"⟩ := by
  intro env info k
  have hfound : FindsOwner env ⟨"Gst", "gst", "ffi", none⟩ info k := owner_found rfl info k
  have hpasses : ∀ q ∈ [(⟨⟨0, 0⟩, .string "Meta", .active⟩ : Ancestor)],
      ¬EndsSearch env.library q := by
    intro q hq hends
    obtain rfl := List.mem_singleton.1 hq
    rcases hends with hmissing | ⟨named, refFn, unrefFn, hclass⟩
    · cases hmissing
    · cases hclass
  have hends : EndsSearch env.library ⟨⟨1, 0⟩, .string "ParamSpec", .active⟩ :=
    .inr ⟨_, _, _, rfl⟩
  exact ⟨rfl, hfound, (hfound.result_iff _).2
    (.inherited (.inr rfl) ⟨⟨_, rfl⟩, hpasses, hends⟩ rfl rfl)⟩

end Bindery.Wrapper
