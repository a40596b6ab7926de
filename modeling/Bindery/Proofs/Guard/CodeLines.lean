import Bindery.Proofs.Guard.Lines
import Bindery.Proofs.Guard.Version

/-!
# Attributes as lines of code

A line of generated code goes on over a line break that stands inside a string literal. Read in this
way, each attribute of a guard is one line, whatever its feature is named for.
-/

namespace Bindery

open Emit Predicate Text

/-! ## Lines -/

/-- Puts some characters in front of the first of some lines. -/
def addFront (cs : List Char) : List (List Char) → List (List Char)
  | [] => [cs]
  | l :: ls => (cs ++ l) :: ls

/-- The lines of some code. What stands between double quotes is part of one line. -/
def codeLines (cs : List Char) : List (List Char) :=
  match cs with
  | [] => [[]]
  | c :: rest =>
    if c = '\n' then [] :: codeLines rest
    else if c = '"' then
      match h : literal? rest with
      | none => [c :: rest]
      | some l =>
        have : l.rest.length < rest.length + 1 := by have := literal?_length h; omega
        addFront (c :: rest.take l.width) (codeLines l.rest)
    else addFront [c] (codeLines rest)
termination_by cs.length

/-- Code without a line break outside of its literals, all of which are closed. -/
inductive IsCodeLine : List Char → Prop
  | nil : IsCodeLine []
  | plain {c : Char} {cs : List Char} : c ≠ '\n' → c ≠ '"' → IsCodeLine cs → IsCodeLine (c :: cs)
  | literal {v s cs : List Char} : Spells v s → IsCodeLine cs → IsCodeLine ('"' :: (s ++ '"' :: cs))

theorem codeLines_break (cs : List Char) : codeLines ('\n' :: cs) = [] :: codeLines cs := by
  rw [codeLines, if_pos rfl]

theorem codeLines_plain {c : Char} (hbreak : c ≠ '\n') (hquote : c ≠ '"') (cs : List Char) :
    codeLines (c :: cs) = addFront [c] (codeLines cs) := by
  rw [codeLines, if_neg hbreak, if_neg hquote]

theorem codeLines_literal {v s : List Char} (h : Spells v s) (cs : List Char) :
    codeLines ('"' :: (s ++ '"' :: cs)) = addFront ('"' :: (s ++ ['"'])) (codeLines cs) := by
  have hread := literal?_of_spells h cs
  have htake : (s ++ '"' :: cs).take (s.length + 1) = s ++ ['"'] := by
    rw [List.take_append, List.take_of_length_le (by omega), Nat.add_sub_cancel_left]
    rfl
  rw [codeLines, if_neg (by decide), if_pos rfl]
  split
  · simp_all
  · next l hl =>
    obtain rfl := Option.some.inj (hl.symm.trans hread)
    simp only [htake]

/-- Such code and a line break behind it are one line. -/
theorem IsCodeLine.codeLines {l : List Char} (h : IsCodeLine l) (cs : List Char) :
    Bindery.codeLines (l ++ '\n' :: cs) = l :: Bindery.codeLines cs := by
  induction h with
  | nil => exact codeLines_break cs
  | plain hbreak hquote _ ih =>
    rw [List.cons_append, codeLines_plain hbreak hquote, ih]
    rfl
  | @literal v s l hs _ ih =>
    rw [List.cons_append, List.append_assoc, List.cons_append, codeLines_literal hs, ih]
    simp [addFront]

theorem IsCodeLine.append {l m : List Char} (hl : IsCodeLine l) (hm : IsCodeLine m) :
    IsCodeLine (l ++ m) := by
  induction hl with
  | nil => exact hm
  | plain hbreak hquote _ ih => exact .plain hbreak hquote ih
  | @literal v s l hs _ ih =>
    rw [List.cons_append, List.append_assoc, List.cons_append]
    exact .literal hs ih

theorem isCodeLine_of_plain {l : List Char} (h : l.all (fun c => c != '\n' && c != '"') = true) :
    IsCodeLine l := by
  induction l with
  | nil => exact .nil
  | cons c l ih =>
    simp only [List.all_cons, Bool.and_eq_true, bne_iff_ne] at h
    exact .plain h.1.1 h.1.2 (ih h.2)

/-- Lines of code that are each ended are read back, before an empty one. -/
theorem codeLines_lines {ls : List (List Char)} (h : ∀ l ∈ ls, IsCodeLine l) :
    codeLines (ls.flatMap fun l => l ++ ['\n']) = ls ++ [[]] := by
  induction ls with
  | nil => rw [List.flatMap_nil, codeLines, List.nil_append]
  | cons l ls ih =>
    rw [List.forall_mem_cons] at h
    rw [List.flatMap_cons, List.append_assoc, List.singleton_append, h.1.codeLines, ih h.2]
    rfl

/-! ## The attributes of a guard -/

theorem isCodeLine_margin (m : Margin) : IsCodeLine m.text.toList := by
  refine isCodeLine_of_plain (List.all_eq_true.2 fun c hc => ?_)
  rcases margin_plain m c hc with rfl | rfl <;> rfl

/-- The predicate of a feature whose name can be quoted as it is. -/
theorem isCodeLine_feature {name : String} (h : ∀ c ∈ name.toList, c ≠ '"' ∧ c ≠ '\\') :
    IsCodeLine ("feature = \"" ++ name ++ "\"").toList := by
  have hkey : IsCodeLine "feature = ".toList := isCodeLine_of_plain (by decide)
  have hline := hkey.append (.literal (spells_self h) .nil)
  simpa using hline

theorem isCodeLine_docsPredicate : IsCodeLine docsPredicate.toList :=
  isCodeLine_feature (by simp [docsFeature])

section Attributes

variable {g : Guard} (hg : IsCodeLine g.cfg.toList) (m : Margin)

include hg

theorem isCodeLine_compile : IsCodeLine (g.compileAttribute m).toList := by
  have hopening : IsCodeLine "#[cfg(any(".toList := isCodeLine_of_plain (by decide)
  have hcomma : IsCodeLine ", ".toList := isCodeLine_of_plain (by decide)
  have hclosing : IsCodeLine "))]".toList := isCodeLine_of_plain (by decide)
  unfold Guard.compileAttribute
  simp only [String.toList_append]
  exact (((((isCodeLine_margin m).append hopening).append hg).append hcomma).append
    isCodeLine_docsPredicate).append hclosing

theorem isCodeLine_doc : IsCodeLine (g.docAttribute m).toList := by
  have hopening : IsCodeLine "#[cfg_attr(".toList := isCodeLine_of_plain (by decide)
  have hcomma : IsCodeLine ", doc(cfg(".toList := isCodeLine_of_plain (by decide)
  have hclosing : IsCodeLine ")))]".toList := isCodeLine_of_plain (by decide)
  unfold Guard.docAttribute
  simp only [String.toList_append]
  exact (((((isCodeLine_margin m).append hopening).append isCodeLine_docsPredicate).append
    hcomma).append hg).append hclosing

theorem isCodeLine_complement : IsCodeLine (g.complementAttribute m).toList := by
  have hopening : IsCodeLine "#[cfg(not(any(".toList := isCodeLine_of_plain (by decide)
  have hcomma : IsCodeLine ", ".toList := isCodeLine_of_plain (by decide)
  have hclosing : IsCodeLine ")))]".toList := isCodeLine_of_plain (by decide)
  unfold Guard.complementAttribute
  simp only [String.toList_append]
  exact (((((isCodeLine_margin m).append hopening).append hg).append hcomma).append
    isCodeLine_docsPredicate).append hclosing

end Attributes

/-! ## What a renderer writes -/

/-- Whether all cfg attributes that a renderer writes are active, so that what follows them is
compiled. -/
def Emit.active (s : Settings) (x : Emit Unit) : Except Predicate.Failure Bool :=
  ((codeLines x.text.toList).filterMap fun l => ofAttribute? (String.ofList l)).allM (isActive s)

/-- What is printed is the printed lines, each with its end. -/
theorem Emit.Prints.toList_text {α : Type} {x : Emit α} {a : α} {ls : List String}
    (h : Prints x a ls) : x.text.toList = ls.flatMap fun l => l.toList ++ ['\n'] := by
  unfold Emit.text
  rw [h.writes, String.toList_join, List.flatMap_assoc]
  simp

section Written

variable {x : Emit Unit} {ls : List (List Char)}
  (h : x.text.toList = ls.flatMap fun l => l ++ ['\n'])

include h

/-- A renderer that writes lines of code is active where the attributes among them are. -/
theorem active_of_lines (hls : ∀ l ∈ ls, IsCodeLine l) (s : Settings) :
    x.active s = (ls.filterMap fun l => ofAttribute? (String.ofList l)).allM (isActive s) := by
  have hend : ofAttribute? (String.ofList []) = none := by decide
  unfold Emit.active
  rw [h, codeLines_lines hls, List.filterMap_append]
  simp [hend]

/-- Lines of code without a line break are the lines of the text. -/
theorem codeLines_eq_fields (hls : ∀ l ∈ ls, IsCodeLine l) (hbreaks : ∀ l ∈ ls, '\n' ∉ l) :
    codeLines x.text.toList = fields '\n' x.text.toList := by
  rw [h, codeLines_lines hls, fields_lines hbreaks]

end Written

end Bindery
