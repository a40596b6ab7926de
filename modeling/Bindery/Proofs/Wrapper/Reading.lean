import Bindery.Proofs.Guard.Lines
import Bindery.Proofs.Guard.Version
import Bindery.Proofs.Wrapper.Shapes

/-!
# Declarations read back

The declarations of a module are found again in its lines, with the attributes that stand directly
before them.
-/

namespace Bindery.Wrapper

open Predicate Text

/-- A declaration as it stands in a module: the attributes directly before it, and its lines. -/
structure Declaration where
  attributes : List String
  block : List String

/-- Whether all attributes of a declaration let it be compiled. -/
def Declaration.isCompiled (s : Settings) (d : Declaration) : Bool := d.attributes.all (admits s)

/-- Whether a declaration registers a type accessor. -/
def Declaration.hasType (d : Declaration) : Bool := d.block.any registersType

/-- Reads declarations off some lines, given the attributes directly before these and the lines of
the declaration that is open. An empty line parts attributes from what follows. -/
def declarationsFrom (opening : String) :
    List String → Option (List String) → List String → List Declaration
  | _, _, [] => []
  | attributes, some block, l :: ls =>
    if l = "\x7d" then ⟨attributes, block ++ [l]⟩ :: declarationsFrom opening [] none ls
    else declarationsFrom opening attributes (some (block ++ [l])) ls
  | attributes, none, l :: ls =>
    if l = opening then declarationsFrom opening attributes (some [l]) ls
    else if l = "" then declarationsFrom opening [] none ls
    else declarationsFrom opening (attributes ++ (fields '\n' l.toList).map String.ofList) none ls

/-- The declarations in the lines of a module. -/
def declarations (env : Env) (ls : List String) : List Declaration :=
  declarationsFrom (openingLine env) [] none ls

/-! ## One step of reading -/

section Steps

variable {opening l : String} {as ls block : List String}

theorem declarationsFrom_part (h : l ≠ "\x7d") :
    declarationsFrom opening as (some block) (l :: ls) =
      declarationsFrom opening as (some (block ++ [l])) ls := by
  rw [declarationsFrom, if_neg h]

theorem declarationsFrom_closing : declarationsFrom opening as (some block) ("\x7d" :: ls) =
    ⟨as, block ++ ["\x7d"]⟩ :: declarationsFrom opening [] none ls := by
  rw [declarationsFrom, if_pos rfl]

theorem declarationsFrom_opening : declarationsFrom opening as none (opening :: ls) =
    declarationsFrom opening as (some [opening]) ls := by
  rw [declarationsFrom, if_pos rfl]

theorem declarationsFrom_empty (h : opening ≠ "") : declarationsFrom opening as none ("" :: ls) =
    declarationsFrom opening [] none ls := by
  rw [declarationsFrom, if_neg (Ne.symm h), if_pos rfl]

theorem declarationsFrom_attribute (hopening : opening ≠ l) (h : l ≠ "") :
    declarationsFrom opening as none (l :: ls) =
      declarationsFrom opening (as ++ (fields '\n' l.toList).map String.ofList) none ls := by
  rw [declarationsFrom, if_neg (Ne.symm hopening), if_neg h]

/-- A declaration is read up to its end. -/
theorem declarationsFrom_inner {parts : List String} (h : "\x7d" ∉ parts) :
    declarationsFrom opening as (some block) (parts ++ "\x7d" :: ls) =
      ⟨as, block ++ parts ++ ["\x7d"]⟩ :: declarationsFrom opening [] none ls := by
  induction parts generalizing block with
  | nil => rw [List.nil_append, List.append_nil, declarationsFrom_closing]
  | cons l parts ih =>
    simp only [List.mem_cons, not_or] at h
    rw [List.cons_append, declarationsFrom_part (Ne.symm h.1), ih h.2, List.append_assoc block,
      List.singleton_append]

/-- Nothing is read where no declaration is opened. -/
theorem declarationsFrom_eq_nil (h : opening ∉ ls) : declarationsFrom opening as none ls = [] := by
  induction ls generalizing as with
  | nil => rfl
  | cons l ls ih =>
    simp only [List.mem_cons, not_or] at h
    rw [declarationsFrom, if_neg (Ne.symm h.1)]
    split
    · exact ih h.2
    · exact ih h.2

theorem declarationsFrom_blank {before : List String} (hopening : opening ≠ "")
    (h : ∀ l ∈ before, l = "") :
    declarationsFrom opening [] none (before ++ ls) = declarationsFrom opening [] none ls := by
  induction before with
  | nil => rfl
  | cons l before ih =>
    obtain rfl := h l (by simp)
    rw [List.cons_append, declarationsFrom_empty hopening, ih fun l hl => h l (by simp [hl])]

end Steps

/-! ## Under attributes -/

theorem head?_render (g : Guard) : (g.render true {}).toList.head? = some '#' := by
  simp [Guard.render, Guard.compileAttribute, Margin.text, tabs, commentSign]

theorem head?_complementAttribute (g : Guard) :
    (g.complementAttribute {}).toList.head? = some '#' := by
  simp [Guard.complementAttribute, Margin.text, tabs, commentSign]

theorem attribute_ne_empty {l : String} (h : l.toList.head? = some '#') : l ≠ "" := by
  rintro rfl
  cases h

/-- The attributes of a version are read as two. -/
theorem declarationsFrom_guarded {opening : String} {as ls : List String} (v : Version)
    (hopening : opening ≠ (Guard.mk (v.predicate none)).render true {}) :
    declarationsFrom opening as none ((Guard.mk (v.predicate none)).render true {} :: ls) =
      declarationsFrom opening (as ++ [(Guard.mk (v.predicate none)).compileAttribute {},
        (Guard.mk (v.predicate none)).docAttribute {}]) none ls := by
  have hnewline : '\n' ∉ (Guard.mk (v.predicate none)).cfg.toList :=
    Version.newline_notMem_predicate (by simp) v
  rw [declarationsFrom_attribute hopening (attribute_ne_empty (head?_render _)),
    fields_render hnewline]
  simp

/-- What stands under the attributes of a version is compiled with its feature and for
documentation. -/
theorem isCompiled_guarded (s : Settings) (v : Version) (block : List String) :
    Declaration.isCompiled s ⟨[(Guard.mk (v.predicate none)).compileAttribute {},
      (Guard.mk (v.predicate none)).docAttribute {}], block⟩ =
        (s.feature v.feature || s.feature docsFeature) := by
  simp only [Declaration.isCompiled, List.all_cons, List.all_nil, Bool.and_true,
    admits_docAttribute]
  exact admits_versionAttribute s v 0

/-! ## Whole declarations -/

section Blocks

variable (env : Env) {parts front : List String} {sysCrate : String}
  (hparts : ∀ l ∈ parts, IsPart l)

include hparts

/-- All lines of a declaration but its first and its last are indented. -/
theorem blockLines_framed (entries : List String) : ∃ inner,
    blockLines env parts entries = openingLine env :: (inner ++ ["\x7d"]) ∧
      ∀ l ∈ inner, IsIndented l := by
  refine ⟨parts ++ "" :: "\tmatch fn \x7b" :: (entries.map ("\t\t" ++ ·) ++ ["\t\x7d"]), ?_, ?_⟩
  · simp [blockLines, functionLines]
  · intro l hl
    simp only [List.mem_append, List.mem_cons, List.mem_map, List.not_mem_nil, or_false] at hl
    obtain hl | rfl | rfl | ⟨e, -, rfl⟩ | rfl := hl
    · exact (hparts l hl).indented
    · exact .inl rfl
    · exact .inr ⟨_, by simp; rfl⟩
    · exact .inr ⟨_, by simp; rfl⟩
    · exact .inr ⟨_, by simp; rfl⟩

theorem declarationsFrom_blockLines (as entries ls : List String) :
    declarationsFrom (openingLine env) as none (blockLines env parts entries ++ ls) =
      ⟨as, blockLines env parts entries⟩ :: declarationsFrom (openingLine env) [] none ls := by
  obtain ⟨inner, hblock, hinner⟩ := blockLines_framed env hparts entries
  have hclosing : "\x7d" ∉ inner := fun h => (hinner _ h).ne_closing rfl
  rw [hblock, List.cons_append, List.append_assoc, declarationsFrom_opening, List.singleton_append,
    declarationsFrom_inner hclosing, List.append_assoc, List.singleton_append]

theorem count_blockLines (entries : List String) :
    (blockLines env parts entries).count (openingLine env) = 1 := by
  obtain ⟨inner, hblock, hinner⟩ := blockLines_framed env hparts entries
  have hopening : openingLine env ∉ inner := fun h => (hinner _ h).ne_opening rfl
  have hclosing : "\x7d" ≠ openingLine env := (openingLine_ne (by simp)).symm
  rw [hblock, List.count_cons_self, List.count_append, List.count_eq_zero_of_not_mem hopening,
    List.count_cons_of_ne hclosing, List.count_nil]

theorem any_registersType (hfront : ∀ e ∈ front, IsPart ("\t\t" ++ e)) (fn : Option String) :
    (blockLines env parts (entriesWith sysCrate front fn)).any registersType = fn.isSome := by
  have hopening : registersType (openingLine env) = false := by
    unfold openingLine Env.glibPath
    by_cases hglib : env.library.isGlib = true
    · rw [if_pos hglib]
      decide
    · rw [if_neg hglib]
      decide
  have hhead : parts.any registersType = false := List.any_eq_false.2 fun l hl => by
    rw [(hparts l hl).plain]
    decide
  have hentries : (front.map ("\t\t" ++ ·)).any registersType = false := by
    rw [List.any_eq_false]
    intro l hl
    obtain ⟨e, he, rfl⟩ := List.mem_map.1 hl
    rw [(hfront e he).plain]
    decide
  have htail : ["\t\x7d", "\x7d"].any registersType = false := by decide
  have hstart : registersType "" = false ∧ registersType "\tmatch fn \x7b" = false :=
    ⟨by decide, by decide⟩
  unfold blockLines functionLines entriesWith
  rw [List.any_cons, List.any_append, List.any_cons, List.any_cons, List.any_append,
    List.map_append, List.any_append, hopening, hhead, hentries, htail, hstart.1, hstart.2]
  cases fn with
  | none => rfl
  | some fn => simp [registersType_typeEntry]

end Blocks

end Bindery.Wrapper
