import Bindery.Bindings
import Bindery.Proofs.DefaultImpl
import Bindery.Proofs.Import.Labelled
import Bindery.Proofs.Import.Qualified
import Bindery.Proofs.Import.Statement
import Bindery.Proofs.Wrapper.Faults

/-!
# The first fault of a module

A module is written from its header to its last wrapper, unless a name that it imports is not
qualified or a type cannot be declared. The first such fault ends it.
-/

namespace Bindery

open Emit Wrapper

/-- Why a module of bindings, which imports some names, cannot be written: the least name that is
not qualified, or else the first type that cannot be declared. -/
inductive FirstFault (names : List String) (b : Bindings) : InternalError → Prop
  | name {name : String} (hleast : LeastUnqualified names name) :
    FirstFault names b ⟨.unqualifiedImport name, none⟩
  | wrapper {front back : List WrapperSpec} {w : WrapperSpec} {c : Cause} {main : Namespace}
    (hnames : ∀ name ∈ names, IsQualified name) (hwrappers : b.wrappers = front ++ w :: back)
    (hfront : ∀ u ∈ front, ∀ c, ¬Faulty b.env.library u.kind c)
    (hfaulty : Faulty b.env.library w.kind c) (hmain : b.env.library.namespaces.head? = some main) :
    FirstFault names b ⟨c, some ⟨main.name, w.info.typeName⟩⟩

namespace Emit

variable {env : Env} {n : Namespace}

/-! ## Header and imports -/

theorem header_ok (c : Config) : (header c).result = .ok () := by
  unfold header
  split
  · exact ((prints_line _).bind ((prints_eachLine _).bind (prints_line _))).result
  · have hversions : (versions c "// ").result = .ok () :=
      result_bind.2 ⟨(), rfl, (prints_eachLine _).result⟩
    exact result_bind.2 ⟨(), hversions, rfl⟩

/-- Imports of texts are written where their requests can be made. -/
theorem importBlock_of_requests {i : Imports String} {rs : List (ImportRequest String)}
    (h : i.requests = .ok rs) : (importBlock env i.labels).result = .ok () := by
  unfold importBlock
  split
  · rfl
  · rw [Imports.texts?_labels]
    exact result_bind.2 ⟨(), rfl, (prints_uses env h none).result⟩

theorem importBlock_of_error {i : Imports String} {e : InternalError}
    (h : i.requests = .error e) : (importBlock env i.labels).result = .error e := by
  have hsize : i.labels.size ≠ 0 := by
    intro hzero
    have hnil : i.entries = [] := by
      simpa [Imports.size, Imports.labels] using hzero
    unfold Imports.requests at h
    rw [hnil] at h
    cases h
  unfold importBlock
  rw [if_neg hsize, Imports.texts?_labels]
  exact (result_bind_of_ok rfl).trans ((result_bind_of_ok rfl).trans (result_bind_of_error h))

/-! ## Wrappers -/

/-- A wrapper is written where nothing is wrong with its type, and else reported. -/
theorem wrapper_spec {w : WrapperSpec} (hmain : env.library.findNamespace mainId = .ok n)
    (hinfo : w.info.IsPlain) (hkind : w.kind.IsKnown env.library) :
    ((∀ c, ¬Faulty env.library w.kind c) ∧ (wrapper env w).result = .ok ()) ∨
      ∃ c, Faulty env.library w.kind c ∧
        (wrapper env w).result = .error ⟨c, some ⟨n.name, w.info.typeName⟩⟩ := by
  have hstep : (wrapper env w).result = (do
      Wrapper.render env w.info w.kind
      defaultImpl env w.info.typeName.display w.functions w.hasBuilder).result := by
    refine (result_bind_of_ok rfl).trans ?_
    split
    · rfl
    · exact result_bind_of_ok rfl
  rw [hstep]
  refine (render_spec hmain hinfo hkind).imp ?_ ?_
  · rintro ⟨hfaulty, hok⟩
    exact ⟨hfaulty, (result_bind_of_ok hok).trans (defaultImpl_ok _ _ _)⟩
  · rintro ⟨c, hc, herror⟩
    exact ⟨c, hc, result_bind_of_error herror⟩

/-- Wrappers are written up to the first that is reported. -/
theorem wrappers_spec {ws : List WrapperSpec} (hmain : env.library.findNamespace mainId = .ok n)
    (hws : ∀ w ∈ ws, w.info.IsPlain ∧ w.kind.IsKnown env.library) :
    ((∀ w ∈ ws, ∀ c, ¬Faulty env.library w.kind c) ∧ (wrappers env ws).result = .ok ()) ∨
      ∃ front w back c, ws = front ++ w :: back ∧
        (∀ u ∈ front, ∀ c, ¬Faulty env.library u.kind c) ∧ Faulty env.library w.kind c ∧
        (wrappers env ws).result = .error ⟨c, some ⟨n.name, w.info.typeName⟩⟩ := by
  induction ws with
  | nil => exact .inl ⟨by simp, rfl⟩
  | cons w ws ih =>
    obtain ⟨hinfo, hkind⟩ := hws w (by simp)
    rw [wrappers]
    rcases wrapper_spec hmain hinfo hkind with ⟨hfaulty, hok⟩ | ⟨c, hc, herror⟩
    · rw [result_bind_of_ok hok]
      refine (ih fun u hu => hws u (by simp [hu])).imp ?_ ?_
      · rintro ⟨hrest, hresult⟩
        exact ⟨List.forall_mem_cons.2 ⟨hfaulty, hrest⟩, hresult⟩
      · rintro ⟨front, u, back, c, rfl, hfront, hu, herror⟩
        exact ⟨w :: front, u, back, c, rfl, List.forall_mem_cons.2 ⟨hfaulty, hfront⟩, hu, herror⟩
    · exact .inr ⟨[], w, ws, c, rfl, by simp, hc, result_bind_of_error herror⟩

end Emit

/-! ## The whole module -/

/-- A module is written where it has no fault, and else its first fault is reported. -/
theorem bindings_spec {b : Bindings} {asks : List Ask} {main : Namespace} {rest : List Namespace}
    (hmain : b.env.library.namespaces = main :: rest)
    (himports : b.imports = (Imports.ofAsks asks).labels)
    (hwrappers : ∀ w ∈ b.wrappers, w.info.IsPlain ∧ w.kind.IsKnown b.env.library) :
    ((∀ name ∈ asks.map Ask.name, IsQualified name) ∧
        (∀ w ∈ b.wrappers, ∀ c, ¬Faulty b.env.library w.kind c) ∧
        (Emit.bindings b).result = .ok ()) ∨
      ∃ e, FirstFault (asks.map Ask.name) b e ∧ (Emit.bindings b).result = .error e := by
  have hfind : b.env.library.findNamespace mainId = .ok main := by
    rw [Library.findNamespace_eq_ok, Library.namespace?, hmain]
    rfl
  have hstep : (Emit.bindings b).result = (do
      importBlock b.env b.imports
      wrappers b.env b.wrappers).result :=
    (result_bind_of_ok rfl).trans (result_bind_of_ok (header_ok _))
  rw [hstep, himports]
  rcases requests_ofAsks_spec asks with ⟨hnames, rs, hrs⟩ | ⟨name, hleast, herror⟩
  · have hqualified : ∀ name ∈ asks.map Ask.name, IsQualified name := by
      simpa using hnames
    rw [result_bind_of_ok (importBlock_of_requests hrs)]
    refine (wrappers_spec hfind hwrappers).imp (fun h => ⟨hqualified, h⟩) ?_
    rintro ⟨front, w, back, c, heq, hfront, hc, herror⟩
    exact ⟨_, .wrapper hqualified heq hfront hc (by rw [hmain]; rfl), herror⟩
  · exact .inr ⟨_, .name hleast, result_bind_of_error (importBlock_of_error herror)⟩

/-- A module with a fault is not without one. -/
theorem FirstFault.not_faultless {names : List String} {b : Bindings} {e : InternalError}
    (h : FirstFault names b e) : ¬((∀ name ∈ names, IsQualified name) ∧
      ∀ w ∈ b.wrappers, ∀ c, ¬Faulty b.env.library w.kind c) := by
  rintro ⟨hnames, hwrappers⟩
  cases h with
  | name hleast => exact hleast.not_qualified (hnames _ hleast.mem)
  | wrapper _ heq _ hfaulty _ => exact hwrappers _ (by rw [heq]; simp) _ hfaulty

end Bindery
