import Bindery.Proofs.Wrapper.Shapes

/-!
# The header of a declaration

Where the alias and the derived traits of a type are texts, its declaration opens with a fixed list
of lines, none of which is that of the struct. Else the header ends with an error.
-/

namespace Bindery

/-! ## Labels -/

/-- Whether an error says that a label is not fit for its use. -/
def InternalError.IsUnfit (e : InternalError) : Prop := ∃ m, e.cause = .unfit m

/-- Texts can be joined. -/
theorem Label.joined_eq_ok {ls : List Label} (h : ∀ l ∈ ls, ∃ s, l = .string s) :
    Label.joined ls = .ok (", ".intercalate (ls.map Json.display)) := by
  refine map_eq_ok_iff.2 ⟨ls.map Json.display, mapM_eq_ok_iff.2 ?_, rfl⟩
  rw [List.forall₂_map_right_iff, List.forall₂_same]
  intro l hl
  obtain ⟨s, rfl⟩ := h l hl
  rfl

theorem Label.isUnfit_of_joined {ls : List Label} {e : InternalError}
    (h : Label.joined ls = .error e) : e.IsUnfit := by
  have hmapM := map_eq_error_iff.1 h
  rcases mapM_ok_or_error Label.text ls with ⟨ss, hss, -⟩ | ⟨-, l, -, e', -, -, hl, herror⟩
  · rw [hss] at hmapM
    cases hmapM
  · rw [herror] at hmapM
    obtain rfl := Except.error.inj hmapM
    unfold Label.text at hl
    split at hl
    · cases hl
    · cases hl
      exact ⟨_, rfl⟩

theorem isUnfit_of_escapedAlias {name : Label} {e : InternalError}
    (h : escapedAlias name = .error e) : e.IsUnfit := by
  unfold escapedAlias at h
  split at h
  · cases h
  · split at h
    · cases h
    · cases h
      exact ⟨_, rfl⟩

namespace Wrapper

open Emit

/-! ## What opens a declaration -/

/-- Whether the alias and the derived traits of a type are texts. -/
structure Info.IsPlain (info : Info) : Prop where
  docAlias : ∀ name ∈ info.docAlias, ∃ s, name = .string s
  derives : ∀ d ∈ info.derives, ∀ name ∈ d.names, ∃ s, name = .string s

/-- The header of a declaration: its first line, its alias, and its derived traits. -/
def headerLines (env : Env) (info : Info) : List String :=
  openingLine env ::
    (info.docAlias.toList.map (fun name =>
        "\t" ++ "#[doc(alias = \"" ++ Text.escape name.display ++ "\")]") ++
      info.derives.map fun d =>
        "\t" ++ d.attributeOf (", ".intercalate (d.names.map Json.display)))

section Header

variable {env : Env} {info : Info}

theorem prints_derivesHeader {ds : List Derive}
    (h : ∀ d ∈ ds, ∀ name ∈ d.names, ∃ s, name = .string s) :
    Prints (derives ds ⟨false, 1⟩) () (ds.map fun d =>
      "\t" ++ d.attributeOf (", ".intercalate (d.names.map Json.display))) := by
  induction ds with
  | nil => exact prints_pure ()
  | cons d ds ih =>
    obtain ⟨hd, hds⟩ := List.forall_mem_cons.1 h
    rw [derives]
    exact .lift_bind (map_eq_ok_iff.2 ⟨_, Label.joined_eq_ok hd, rfl⟩)
      ((prints_line _).bind (ih hds))

theorem prints_header (env : Env) (h : info.IsPlain) :
    Prints (opening env info) () (headerLines env info) := by
  unfold opening headerLines
  refine (prints_line _).bind ?_
  cases halias : info.docAlias with
  | none => exact prints_derivesHeader h.derives
  | some name =>
    obtain ⟨s, rfl⟩ := h.docAlias name halias
    exact (prints_line _).bind (prints_derivesHeader h.derives)

theorem failsWith_derives (ds : List Derive) (m : Margin) :
    FailsWith InternalError.IsUnfit (derives ds m) := by
  induction ds with
  | nil => exact failsWith_of_ok rfl
  | cons d ds ih =>
    rw [derives]
    refine FailsWith.bind (fun e he => ?_) fun _ => (failsWith_of_ok rfl).bind fun _ => ih
    exact Label.isUnfit_of_joined (map_eq_error_iff.1 he)

/-- Only labels that are no texts can keep a header from being printed. -/
theorem failsWith_opening (env : Env) (info : Info) :
    FailsWith (fun e => ¬info.IsPlain ∧ e.IsUnfit) (opening env info) := by
  by_cases hinfo : info.IsPlain
  · exact failsWith_of_ok (prints_header env hinfo).result
  · have hunfit : FailsWith InternalError.IsUnfit (opening env info) := by
      unfold opening
      refine (failsWith_of_ok rfl).bind fun _ => ?_
      cases info.docAlias with
      | none => exact failsWith_derives _ _
      | some name =>
        have halias : FailsWith InternalError.IsUnfit (docAlias name ⟨false, 1⟩) :=
          FailsWith.bind (fun e he => isUnfit_of_escapedAlias he) fun _ => failsWith_of_ok rfl
        exact halias.bind fun _ => failsWith_derives _ _
    exact hunfit.mono fun e he => ⟨hinfo, he⟩

/-- Behind its tab the line of a struct does not begin like an attribute. -/
theorem structLine_ne {l : String} (h : l.toList.tail.head? = some '#') (info : Info)
    (storage suffix : String) : structLine info storage suffix ≠ l := by
  rintro rfl
  unfold structLine Visibility.marker Visibility.keyword Margin.text tabs commentSign at h
  cases hvisibility : info.visibility
  all_goals simp [hvisibility] at h

/-- No struct has been printed when there is only a header. -/
theorem structLine_notMem_header (env : Env) (info info' : Info) (storage suffix : String) :
    structLine info' storage suffix ∉ headerLines env info := by
  intro h
  simp only [headerLines, List.mem_cons, List.mem_append, List.mem_map] at h
  rcases h with h | ⟨name, -, h⟩ | ⟨d, -, h⟩
  · exact (isPart_structLine info' storage suffix).indented.ne_opening h.symm
  · exact structLine_ne (by simp) info' storage suffix h.symm
  · refine structLine_ne ?_ info' storage suffix h.symm
    unfold Derive.attributeOf
    cases d.cfg
    all_goals simp

end Header

end Wrapper

end Bindery
