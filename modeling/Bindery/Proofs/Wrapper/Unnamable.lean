import Bindery.Proofs.Wrapper.Ancestry
import Bindery.Proofs.Wrapper.Header

/-!
# Ancestors that cannot be named

An ancestor cannot be named when its type or its namespace is missing and is asked for. The first
such ancestor decides what becomes of a declaration. When there is none, only a name that is no text
is left to fail.
-/

namespace Bindery.Wrapper

/-- Why an interface or an object cannot name an ancestor. -/
inductive Unnamable (l : Library) (isInterface : Bool) (p : Ancestor) : InternalError → Prop
  /-- An object must know the type. -/
  | unknownType (hobject : isInterface = false) (htype : l.types.get? p.id = none) :
    Unnamable l isInterface p
      ⟨.unknownType p.id, some ⟨(l.namespace? p.id.ns).map (·.name), none⟩⟩
  /-- What is named must be in the namespace being bound or in one that is known. An interface names
  all ancestors, an object names classes and interfaces. -/
  | unknownNamespace
    (hnamed : isInterface = true ∨ l.isClass p = true ∨ l.isInterface p = true)
    (hns : p.id.ns ≠ mainId) (hnamespace : l.namespace? p.id.ns = none) :
    Unnamable l isInterface p ⟨.unknownNamespace p.id.ns, none⟩

section Ancestors

variable {env : Env} {p : Ancestor} {isInterface : Bool} {e : InternalError}

theorem qualifiedName_unknown (hns : p.id.ns ≠ mainId)
    (hnamespace : env.library.namespace? p.id.ns = none) :
    qualifiedName env p = .error ⟨.unknownNamespace p.id.ns, none⟩ := by
  unfold qualifiedName Library.findNamespace
  rw [if_neg hns, hnamespace]
  rfl

/-- What nothing speaks against naming is in a namespace that is known. -/
theorem exists_namespace {l : Library}
    (hnamed : isInterface = true ∨ l.isClass p = true ∨ l.isInterface p = true)
    (h : ∀ e, ¬Unnamable l isInterface p e) (hns : p.id.ns ≠ mainId) :
    ∃ n, l.namespace? p.id.ns = some n := by
  refine Option.ne_none_iff_exists'.1 fun hnamespace => ?_
  exact h _ (.unknownNamespace hnamed hns hnamespace)

theorem exists_qualifiedName
    (hnamed : isInterface = true ∨ env.library.isClass p = true ∨
      env.library.isInterface p = true)
    (h : ∀ e, ¬Unnamable env.library isInterface p e) : ∃ name, qualifiedName env p = .ok name := by
  by_cases hns : p.id.ns = mainId
  · exact ⟨p.name, if_pos hns⟩
  · obtain ⟨n, hn⟩ := exists_namespace hnamed h hns
    exact ⟨_, (if_neg hns).trans
      (map_eq_ok_iff.2 ⟨n, Library.findNamespace_eq_ok.2 hn, rfl⟩)⟩

theorem exists_names {l : Library} (hname : ∃ s, p.name = .string s)
    (hnamed : isInterface = true ∨ l.isClass p = true ∨ l.isInterface p = true)
    (h : ∀ e, ¬Unnamable l isInterface p e) : ∃ s, Names l p s := by
  by_cases hns : p.id.ns = mainId
  · obtain ⟨s, hs⟩ := hname
    exact ⟨s, .main hns hs⟩
  · obtain ⟨n, hn⟩ := exists_namespace hnamed h hns
    exact ⟨_, .foreign hns hn⟩

/-- An ancestor that an object cannot name has no lineage. -/
theorem lineage_unnamable (h : Unnamable env.library false p e) (ps : List Ancestor) :
    lineage env (p :: ps) = .error e := by
  cases h with
  | unknownType _ htype => exact lineage_missing htype ps
  | unknownNamespace hnamed hns hnamespace =>
    have hkind := hnamed.resolve_left Bool.false_ne_true
    cases ht : env.library.types.get? p.id with
    | none => simp [Library.isClass, Library.isInterface, ht] at hkind
    | some t =>
      rcases exists_kind ht (not_isOther_iff.2 hkind) with
        ⟨named, refFn, unrefFn, rfl⟩ | ⟨named, rfl⟩
      · rw [lineage_class ht, qualifiedName_unknown hns hnamespace]
        rfl
      · rw [lineage_interface ht, qualifiedName_unknown hns hnamespace]
        rfl

/-- Nor has what stands in front of it. -/
theorem lineage_eq_error {front : List Ancestor}
    (hfront : ∀ q ∈ front, ∀ e', ¬Unnamable env.library false q e')
    (hp : Unnamable env.library false p e) (back : List Ancestor) :
    lineage env (front ++ p :: back) = .error e := by
  induction front with
  | nil => exact lineage_unnamable hp back
  | cons q front ih =>
    obtain ⟨hq, hfront⟩ := List.forall_mem_cons.1 hfront
    have hrest := ih hfront
    rw [List.cons_append]
    cases ht : env.library.types.get? q.id with
    | none => exact absurd (.unknownType rfl ht) (hq _)
    | some t =>
      by_cases hother : env.library.isOther q = true
      · rw [lineage_other ht hother, hrest]
      · obtain ⟨name, hok⟩ := exists_qualifiedName (.inr (not_isOther_iff.1 hother)) hq
        rcases exists_kind ht hother with ⟨named, refFn, unrefFn, rfl⟩ | ⟨named, rfl⟩
        · rw [lineage_class ht, hok, hrest]
          rfl
        · rw [lineage_interface ht, hok, hrest]
          rfl

/-- The first ancestor that cannot be named decides what becomes of a declaration. -/
theorem ancestryText_eq_error {k : Object} {front back : List Ancestor}
    (hps : activeAncestors k.parents = front ++ p :: back)
    (hfront : ∀ q ∈ front, ∀ e', ¬Unnamable env.library k.isInterface q e')
    (hp : Unnamable env.library k.isInterface p e) : ancestryText env k = .error e := by
  have hne : activeAncestors k.parents ≠ [] := by simp [hps]
  cases hinterface : k.isInterface with
  | true =>
    rw [hinterface] at hfront hp
    have hp' : qualifiedName env p = .error e := by
      cases hp with
      | unknownType hobject _ => cases hobject
      | unknownNamespace _ hns hnamespace => exact qualifiedName_unknown hns hnamespace
    have herror := mapM_eq_error
      (fun q hq => exists_qualifiedName (.inl rfl) (hfront q hq)) hp' back
    rw [ancestryText_of_interface hinterface hne, hps, herror]
    rfl
  | false =>
    rw [hinterface] at hfront hp
    rw [ancestryText_of_object hinterface hne, hps, lineage_eq_error hfront hp back]
    rfl

/-- What holds of some item for each class and each interface holds of their lists. -/
theorem exists_listed {α : Type} {l : Library} {R : Ancestor → α → Prop} {ps : List Ancestor}
    (h : ∀ q ∈ ps, l.isClass q = true ∨ l.isInterface q = true → ∃ a, R q a) :
    (∃ as, List.Forall₂ R (ps.filter l.isClass) as) ∧
      ∃ as, List.Forall₂ R (ps.filter l.isInterface) as := by
  constructor
  · refine exists_forall₂ fun q hq => ?_
    obtain ⟨hmem, hclass⟩ := List.mem_filter.1 hq
    exact h q hmem (.inl hclass)
  · refine exists_forall₂ fun q hq => ?_
    obtain ⟨hmem, hinterface⟩ := List.mem_filter.1 hq
    exact h q hmem (.inr hinterface)

/-- When all ancestors can be named by texts, something follows the storage. -/
theorem exists_follows {k : Object}
    (hnames : ∀ q ∈ activeAncestors k.parents, ∃ s, q.name = .string s)
    (h : ∀ q ∈ activeAncestors k.parents, ∀ e, ¬Unnamable env.library k.isInterface q e) :
    ∃ s, Follows env k s := by
  by_cases hnil : activeAncestors k.parents = []
  · exact ⟨_, .nothing hnil⟩
  · cases hinterface : k.isInterface with
    | true =>
      rw [hinterface] at h
      obtain ⟨ss, hss⟩ := exists_forall₂ fun q hq =>
        exists_names (hnames q hq) (.inl rfl) (h q hq)
      exact ⟨_, .requires hinterface hnil hss⟩
    | false =>
      rw [hinterface] at h
      obtain ⟨⟨classes, hclasses⟩, interfaces, hinterfaces⟩ := exists_listed fun q hq hkind =>
        exists_names (hnames q hq) (.inr hkind) (h q hq)
      exact ⟨_, .lineage hinterface hnil (fun q hq htype => h q hq _ (.unknownType rfl htype))
        hclasses hinterfaces⟩

/-- When all ancestors can be named, they have a lineage. -/
theorem exists_lineage {ps : List Ancestor}
    (h : ∀ q ∈ ps, ∀ e, ¬Unnamable env.library false q e) : ∃ l, lineage env ps = .ok l := by
  obtain ⟨⟨classes, hclasses⟩, interfaces, hinterfaces⟩ := exists_listed fun q hq hkind =>
    exists_qualifiedName (.inr hkind) (h q hq)
  exact ⟨⟨classes, interfaces⟩, lineage_eq_ok_iff.2
    ⟨fun q hq htype => h q hq _ (.unknownType rfl htype), mapM_eq_ok_iff.2 hclasses,
      mapM_eq_ok_iff.2 hinterfaces⟩⟩

theorem isUnfit_of_clause {keyword : String} {names : List Label}
    (h : clause keyword names = .error e) : e.IsUnfit := by
  unfold clause at h
  split at h
  · cases h
  · exact Label.isUnfit_of_joined (map_eq_error_iff.1 h)

theorem isUnfit_of_text {l : Lineage} (h : l.text = .error e) : e.IsUnfit := by
  unfold Lineage.text at h
  cases hclasses : clause "@extends" l.classes with
  | error e' =>
    rw [hclasses] at h
    cases h
    exact isUnfit_of_clause hclasses
  | ok c =>
    cases hinterfaces : clause "@implements" l.interfaces with
    | error e' =>
      rw [hclasses, hinterfaces] at h
      cases h
      exact isUnfit_of_clause hinterfaces
    | ok i =>
      rw [hclasses, hinterfaces] at h
      cases h

/-- When all ancestors can be named, only names that are no texts are left to fail. -/
theorem isUnfit_of_ancestryText {k : Object}
    (hall : ∀ q ∈ activeAncestors k.parents, ∀ e, ¬Unnamable env.library k.isInterface q e)
    (h : ancestryText env k = .error e) : e.IsUnfit := by
  by_cases hnil : activeAncestors k.parents = []
  · unfold ancestryText at h
    rw [hnil] at h
    cases h
  · cases hinterface : k.isInterface with
    | true =>
      rw [hinterface] at hall
      obtain ⟨names, hnames, -⟩ := exists_mapM_eq_ok (f := qualifiedName env) fun q hq =>
        exists_qualifiedName (.inl rfl) (hall q hq)
      rw [ancestryText_of_interface hinterface hnil, hnames, ok_bind] at h
      cases hjoined : Label.joined names with
      | ok s =>
        rw [hjoined] at h
        cases h
      | error e' =>
        rw [hjoined] at h
        cases h
        exact Label.isUnfit_of_joined hjoined
    | false =>
      rw [hinterface] at hall
      obtain ⟨l, hl⟩ := exists_lineage hall
      rw [ancestryText_of_object hinterface hnil, hl, ok_bind] at h
      exact isUnfit_of_text h

/-- Either an ancestor cannot be named or a name is no text. -/
theorem ancestryText_error_cases {k : Object} (h : ancestryText env k = .error e) :
    (∃ front q back, activeAncestors k.parents = front ++ q :: back ∧
        (∀ q' ∈ front, ∀ e', ¬Unnamable env.library k.isInterface q' e') ∧
        Unnamable env.library k.isInterface q e) ∨
      (¬∀ q ∈ activeAncestors k.parents, ∃ s, q.name = .string s) ∧ e.IsUnfit := by
  rcases exists_first (fun q => ∃ e, Unnamable env.library k.isInterface q e)
    (activeAncestors k.parents) with hnone | ⟨front, q, back, hps, hfront, e', hq⟩
  · have hall : ∀ q ∈ activeAncestors k.parents,
        ∀ e, ¬Unnamable env.library k.isInterface q e := fun q hq e he => hnone q hq ⟨e, he⟩
    refine .inr ⟨fun hnames => ?_, isUnfit_of_ancestryText hall h⟩
    obtain ⟨s, hs⟩ := exists_follows hnames hall
    rw [ancestryText_eq_ok_iff.2 hs] at h
    cases h
  · have hfront' : ∀ q' ∈ front, ∀ e, ¬Unnamable env.library k.isInterface q' e :=
      fun q' hq' e he => hfront q' hq' ⟨e, he⟩
    rw [ancestryText_eq_error hps hfront' hq] at h
    obtain rfl := Except.error.inj h
    exact .inl ⟨front, q, back, hps, hfront', hq⟩

end Ancestors

end Bindery.Wrapper
