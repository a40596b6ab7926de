import Bindery.Proofs.Wrapper.Refusals

/-!
# Types that cannot be declared

Among types whose ancestors are all in the library, those without a way to count their references
and those with an incomplete group of expressions cannot be declared, and no others. These are the
refusals that remain when no ancestor is missing.
-/

namespace Bindery

/-- Whether an ancestor is in a library, under a text. -/
structure Library.Knows (l : Library) (p : Ancestor) : Prop where
  exists_namespace : ∃ n, l.namespace? p.id.ns = some n
  exists_type : ∃ t, l.types.get? p.id = some t
  exists_name : ∃ s, p.name = .string s

/-- What has a pair of functions that count references is a class. -/
theorem LibraryType.eq_of_lifetime? {t : LibraryType} {fns : String × String}
    (h : t.lifetime? = some fns) : ∃ named, t = .classType named (some fns.1) (some fns.2) := by
  unfold LibraryType.lifetime? at h
  split at h
  · cases h
    exact ⟨_, rfl⟩
  · cases h

namespace Wrapper

/-! ## What is wrong with a type -/

/-- Why a type cannot be declared: it lacks its functions and has no active ancestors or none that
is a class with both, or its group of expressions is incomplete. -/
inductive Faulty (l : Library) : Kind → Cause → Prop
  | root {k : Fundamental} (hpair : k.LacksPair) (hnil : activeAncestors k.parents = []) :
    Faulty l (.fundamental k) .rootLifetime
  | inherited {k : Fundamental} (hpair : k.LacksPair) (hne : activeAncestors k.parents ≠ [])
    (hnone : ∀ p ∈ activeAncestors k.parents, ∀ t, l.types.get? p.id = some t →
      t.lifetime? = none) :
    Faulty l (.fundamental k) .inheritedLifetime
  | boxed {k : Boxed} (hpartial : k.inline.IsPartial) : Faulty l (.boxed k) .partialInline
  | autoBoxed {k : AutoBoxed} (hpartial : k.inline.IsPartial) :
    Faulty l (.autoBoxed k) .partialInline

theorem Faulty.cause_eq {l : Library} {kind : Kind} {c : Cause} (h : Faulty l kind c) :
    c = .rootLifetime ∨ c = .inheritedLifetime ∨ c = .partialInline := by
  cases h with
  | root => exact .inl rfl
  | inherited => exact .inr (.inl rfl)
  | boxed => exact .inr (.inr rfl)
  | autoBoxed => exact .inr (.inr rfl)

/-- The ancestors of a type of a shape that has any. -/
def Kind.parents? : Kind → Option (List Ancestor)
  | .fundamental k => some k.parents
  | .object k => some k.parents
  | _ => none

/-- Whether a shape can be declared as far as its ancestors are concerned. -/
structure Kind.IsKnown (l : Library) (kind : Kind) : Prop where
  ne_other : ∀ name, kind ≠ .other name
  knows : ∀ ps ∈ kind.parents?, ∀ p ∈ ps, l.Knows p

/-! ## Ancestors that are known -/

section Ancestors

variable {l : Library} {p : Ancestor}

/-- A known ancestor can be named. -/
theorem not_unnamable (h : l.Knows p) (isInterface : Bool) (e : InternalError) :
    ¬Unnamable l isInterface p e := by
  intro hp
  obtain ⟨n, hn⟩ := h.exists_namespace
  obtain ⟨t, ht⟩ := h.exists_type
  cases hp with
  | unknownType _ htype => simp [ht] at htype
  | unknownNamespace _ _ hnamespace => simp [hn] at hnamespace

/-- The search for functions ends at a known ancestor just where it has them. -/
theorem endsSearch_iff {t : LibraryType} (ht : l.types.get? p.id = some t) :
    EndsSearch l p ↔ t.lifetime? ≠ none := by
  unfold EndsSearch
  rw [ht]
  constructor
  · rintro (hmissing | ⟨named, refFn, unrefFn, hclass⟩)
    · cases hmissing
    · cases hclass
      exact nofun
  · intro h
    obtain ⟨fns, hfns⟩ := Option.ne_none_iff_exists'.1 h
    obtain ⟨named, rfl⟩ := LibraryType.eq_of_lifetime? hfns
    exact .inr ⟨named, _, _, rfl⟩

end Ancestors

/-! ## Any shape -/

section Render

variable {env : Env} {info : Info} {kind : Kind} {n : Namespace}

/-- Among known ancestors a refusal says what is wrong with a type. -/
theorem Refused.exists_faulty (hmain : env.library.findNamespace mainId = .ok n)
    (hkind : kind.IsKnown env.library) {e : InternalError} {ls : List String}
    (h : Refused env n info kind e ls) :
    ∃ c, Faulty env.library kind c ∧ e = ⟨c, some ⟨n.name, info.typeName⟩⟩ := by
  cases h with
  | boxed hpartial => exact ⟨_, .boxed hpartial, rfl⟩
  | autoBoxed hpartial => exact ⟨_, .autoBoxed hpartial, rfl⟩
  | @fundamental k e hlifetime =>
    have hknows : ∀ p ∈ activeAncestors k.parents, env.library.Knows p := fun p hp =>
      hkind.knows _ rfl p (mem_of_mem_activeAncestors hp)
    cases (result_resolveLifetime_iff hmain).1 hlifetime with
    | root hpair hnil => exact ⟨_, .root hpair hnil, rfl⟩
    | nobody hpair hne hpasses =>
      refine ⟨_, .inherited hpair hne fun p hp t ht => ?_, rfl⟩
      by_contra hfns
      exact hpasses p hp ((endsSearch_iff ht).2 hfns)
    | unknownType hpair hfirst htype =>
      obtain ⟨t, ht⟩ := (hknows _ hfirst.mem).exists_type
      simp [htype] at ht
    | unknownNamespace hpair hfirst htype hns =>
      obtain ⟨m, hm⟩ := (hknows _ hfirst.mem).exists_namespace
      simp [hns] at hm
  | other => exact absurd rfl (hkind.ne_other _)
  | @object k front back p e hps hfront hp =>
    have hmem : p ∈ activeAncestors k.parents := by simp [hps]
    exact absurd hp (not_unnamable (hkind.knows _ rfl p (mem_of_mem_activeAncestors hmem)) _ _)

theorem Faulty.exists_refused (hmain : env.library.findNamespace mainId = .ok n)
    (hkind : kind.IsKnown env.library) {c : Cause} (h : Faulty env.library kind c) :
    ∃ ls, Refused env n info kind ⟨c, some ⟨n.name, info.typeName⟩⟩ ls := by
  cases h with
  | root hpair hnil =>
    exact ⟨_, .fundamental (Owned.result_eq hmain (.root hpair hnil))⟩
  | @inherited k hpair hne hnone =>
    refine ⟨_, .fundamental (Owned.result_eq hmain (.nobody hpair hne fun p hp => ?_))⟩
    obtain ⟨t, ht⟩ := (hkind.knows _ rfl p (mem_of_mem_activeAncestors hp)).exists_type
    rw [endsSearch_iff ht, not_not]
    exact hnone p hp t ht
  | boxed hpartial => exact ⟨_, .boxed hpartial⟩
  | autoBoxed hpartial => exact ⟨_, .autoBoxed hpartial⟩

/-- A type that nothing is wrong with is declared; any other is reported with what is wrong. -/
theorem render_spec (hmain : env.library.findNamespace mainId = .ok n) (hinfo : info.IsPlain)
    (hkind : kind.IsKnown env.library) :
    ((∀ c, ¬Faulty env.library kind c) ∧ (render env info kind).result = .ok ()) ∨
      ∃ c, Faulty env.library kind c ∧
        (render env info kind).result = .error ⟨c, some ⟨n.name, info.typeName⟩⟩ := by
  have htexts : AreTexts info kind := by
    refine ⟨hinfo, ?_⟩
    rintro k rfl p hp
    exact (hkind.knows _ rfl p (mem_of_mem_activeAncestors hp)).exists_name
  by_cases hfaulty : ∃ c, Faulty env.library kind c
  · obtain ⟨c, hc⟩ := hfaulty
    exact .inr ⟨c, hc, (render_eq_error_iff hmain htexts).2 (hc.exists_refused hmain hkind)⟩
  · refine .inl ⟨not_exists.1 hfaulty, render_ok hmain htexts fun e ls hrefused => ?_⟩
    obtain ⟨c, hc, -⟩ := hrefused.exists_faulty hmain hkind
    exact hfaulty ⟨c, hc⟩

end Render

end Wrapper

end Bindery
