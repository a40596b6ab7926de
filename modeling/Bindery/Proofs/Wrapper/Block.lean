import Bindery.Proofs.Emit
import Bindery.Proofs.Result
import Bindery.Wrapper.Render

/-!
# The lines of a declaration

A declaration opens at the margin, everything in it is indented, and it ends at the margin again.
The line that registers the type accessor begins like no other.
-/

namespace Bindery.Wrapper

open Emit

/-- The line that opens a declaration. -/
def openingLine (env : Env) : String := env.glibPath "wrapper!" ++ " \x7b"

/-- Whether a line registers the type accessor. -/
def registersType (l : String) : Bool := "\t\ttype_ => ".toList.isPrefixOf l.toList

/-- A line that is empty or behind a tab. -/
def IsIndented (l : String) : Prop := l = "" ∨ ∃ cs, l.toList = '\t' :: cs

/-- A line inside a declaration that does not register the type accessor. -/
structure IsPart (l : String) : Prop where
  indented : IsIndented l
  plain : registersType l = false

/-- The lines of the functions of a declaration, down to its end. -/
def functionLines (entries : List String) : List String :=
  "" :: "\tmatch fn \x7b" :: (entries.map ("\t\t" ++ ·) ++ ["\t\x7d", "\x7d"])

/-- The lines of a declaration: attributes and struct, and the functions of the type. -/
def blockLines (env : Env) (parts entries : List String) : List String :=
  openingLine env :: (parts ++ functionLines entries)

/-- The first line of a declaration is known by its first letter. -/
theorem openingLine_ne {env : Env} {l : String}
    (h : l.toList.head? ≠ some 'c' ∧ l.toList.head? ≠ some 'g') : openingLine env ≠ l := by
  rintro rfl
  unfold openingLine Env.glibPath at h
  by_cases hglib : env.library.isGlib = true
  · exact h.1 (by simp [hglib])
  · exact h.2 (by simp [hglib])

theorem IsIndented.ne_opening {env : Env} {l : String} (h : IsIndented l) :
    openingLine env ≠ l := by
  refine openingLine_ne ?_
  rcases h with rfl | ⟨cs, hcs⟩
  · simp
  · rw [hcs]
    simp

theorem IsIndented.ne_closing {l : String} (h : IsIndented l) : "\x7d" ≠ l := by
  rintro rfl
  rcases h with h | ⟨cs, hcs⟩
  · exact absurd h (by decide)
  · simp at hcs

/-! ## Parts -/

/-- A line behind one tab. -/
theorem isPart_of_tab {l : String} {cs : List Char} (h : l.toList = '\t' :: cs)
    (hcs : cs.head? ≠ some '\t') : IsPart l := by
  refine ⟨.inr ⟨_, h⟩, ?_⟩
  unfold registersType
  rw [h]
  cases cs with
  | nil => decide
  | cons c cs =>
    have hc : '\t' ≠ c := fun heq => hcs (by rw [← heq]; rfl)
    simp [List.isPrefixOf, hc]

/-- An entry that is not the one of the type accessor. -/
theorem isPart_entry {e : String} (h : e.toList.head? ≠ some 't') : IsPart ("\t\t" ++ e) := by
  refine ⟨.inr ⟨'\t' :: e.toList, by simp⟩, ?_⟩
  unfold registersType
  rw [String.toList_append]
  cases he : e.toList with
  | nil => decide
  | cons c cs =>
    rw [he] at h
    have hc : 't' ≠ c := fun heq => h (by rw [← heq]; rfl)
    simp [List.isPrefixOf, hc]

theorem isPart_structLine (info : Info) (storage suffix : String) :
    IsPart (structLine info storage suffix) := by
  unfold structLine Visibility.marker Visibility.keyword Margin.text tabs commentSign
  cases info.visibility
  all_goals exact isPart_of_tab (by simp; rfl) (by simp)

theorem registersType_typeEntry (sysCrate getTypeFn : String) :
    registersType ("\t\t" ++ typeEntry sysCrate getTypeFn) = true := by
  unfold registersType typeEntry
  simp [List.isPrefixOf]

/-! ## What a declaration prints -/

theorem prints_functions (entries : List String) :
    Prints (functions entries) () (functionLines entries) :=
  (prints_line _).bind ((prints_line _).bind
    ((prints_eachLine _).bind ((prints_line _).bind (prints_line _))))

theorem isPart_derive {d : Derive} {text : String} (h : d.attribute = .ok text) :
    IsPart ((⟨false, 1⟩ : Margin).text ++ text) := by
  obtain ⟨names, -, rfl⟩ := map_eq_ok_iff.1 h
  unfold Derive.attributeOf Margin.text tabs commentSign
  cases d.cfg
  all_goals exact isPart_of_tab (by simp; rfl) (by simp)

theorem prints_derives {ds : List Derive} (h : (derives ds ⟨false, 1⟩).result = .ok ()) :
    ∃ ls, Prints (derives ds ⟨false, 1⟩) () ls ∧ ∀ l ∈ ls, IsPart l := by
  induction ds with
  | nil => exact ⟨[], prints_pure (), by simp⟩
  | cons d ds ih =>
    rw [derives, result_bind] at h
    obtain ⟨text, htext, h⟩ := h
    obtain ⟨-, -, hrest⟩ := result_bind.1 h
    obtain ⟨ls, hls, hparts⟩ := ih hrest
    rw [derives]
    refine ⟨_, .lift_bind htext ((prints_line _).bind hls), ?_⟩
    intro l hl
    rcases List.mem_cons.1 hl with rfl | hl
    · exact isPart_derive htext
    · exact hparts l hl

theorem prints_docAlias {name : Label} (h : (docAlias name ⟨false, 1⟩).result = .ok ()) :
    ∃ l, Prints (docAlias name ⟨false, 1⟩) () [l] ∧ IsPart l := by
  unfold docAlias at h ⊢
  obtain ⟨text, htext, -⟩ := result_bind.1 h
  refine ⟨_, .lift_bind htext (prints_line _), ?_⟩
  unfold Margin.text tabs commentSign
  exact isPart_of_tab (by simp; rfl) (by simp)

/-- What opens a declaration is its first line and parts. -/
theorem prints_opening {env : Env} {info : Info} (h : (opening env info).result = .ok ()) :
    ∃ ls, Prints (opening env info) () (openingLine env :: ls) ∧ ∀ l ∈ ls, IsPart l := by
  unfold opening at h ⊢
  obtain ⟨-, -, h⟩ := result_bind.1 h
  cases hname : info.docAlias with
  | none =>
    simp only [hname] at h ⊢
    obtain ⟨ls, hls, hparts⟩ := prints_derives h
    exact ⟨ls, (prints_line _).bind hls, hparts⟩
  | some name =>
    simp only [hname] at h ⊢
    obtain ⟨_, halias, h⟩ := result_bind.1 h
    obtain ⟨l, hl, hpart⟩ := prints_docAlias halias
    obtain ⟨ls, hls, hparts⟩ := prints_derives h
    refine ⟨l :: ls, (prints_line _).bind (hl.bind hls), ?_⟩
    simpa using ⟨hpart, hparts⟩

end Bindery.Wrapper
