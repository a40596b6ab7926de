import Bindery.Buffer
import Bindery.Proofs.Emit
import Bindery.Proofs.Version
import Mathlib.Tactic.SplitIfs

/-!
# What is written is read back

A buffer gives back what was written into it, whatever pieces it came in.

1. Lines that are each ended are read back, the empty ones among them, if no character of them ends
   a line by itself (`lines_flatMap`).
2. No line that is read holds such a character, so no other lines are read back
   (`isLine_of_mem_lines`).
3. Of what can be shown on a line only a text may hold one (`isLine_display`).
-/

namespace Bindery

namespace Text

/-! ## Ends of lines -/

/-- The characters that end a line: line feed, vertical tab, form feed, carriage return, the file,
group and record separators, next line, line separator and paragraph separator. -/
def lineEnds : List Char :=
  ['\n', '\x0b', '\x0c', '\r', '\x1c', '\x1d', '\x1e', '\u0085', '\u2028', '\u2029']

theorem isLineEnd_iff {c : Char} : isLineEnd c = true ↔ c ∈ lineEnds := by
  constructor
  · intro h
    have hcode : c.toNat ∈ lineEnds.map Char.toNat := by
      simp only [isLineEnd, Bool.or_eq_true, Bool.and_eq_true, decide_eq_true_eq, beq_iff_eq] at h
      have hcodes : lineEnds.map Char.toNat =
          [0x0a, 0x0b, 0x0c, 0x0d, 0x1c, 0x1d, 0x1e, 0x85, 0x2028, 0x2029] := by decide
      rw [hcodes]
      simp only [List.mem_cons, List.not_mem_nil, or_false]
      omega
    obtain ⟨d, hd, heq⟩ := List.mem_map.1 hcode
    rwa [← Char.toNat_inj.1 heq]
  · intro h
    simp only [lineEnds, List.mem_cons, List.not_mem_nil, or_false] at h
    obtain rfl | rfl | rfl | rfl | rfl | rfl | rfl | rfl | rfl | rfl := h
    all_goals rfl

/-- A line without a character that ends it. -/
def IsLine (l : List Char) : Prop := ∀ c ∈ l, isLineEnd c = false

theorem isLine_iff {l : List Char} : IsLine l ↔ ∀ c ∈ lineEnds, c ∉ l := by
  constructor
  · intro h c hend hc
    have hnot := h c hc
    rw [isLineEnd_iff.2 hend] at hnot
    cases hnot
  · intro h c hc
    rw [Bool.eq_false_iff]
    intro hend
    exact h c (isLineEnd_iff.1 hend) hc

/-! ## Lines that are read -/

theorem lines_break (cs : List Char) : lines ('\n' :: cs) = [] :: lines cs := by
  rw [lines]
  · rfl
  · intro rest h
    simp at h

theorem lines_plain {c : Char} (h : isLineEnd c = false) {cs l : List Char} {ls : List (List Char)}
    (hcs : lines cs = l :: ls) : lines (c :: cs) = (c :: l) :: ls := by
  rw [lines, hcs]
  · simp [h]
  · rintro rest rfl
    exact absurd h (by decide)

/-- A line and its end are read as that line, before what follows. -/
theorem lines_append {l : List Char} (h : IsLine l) (cs : List Char) :
    lines (l ++ '\n' :: cs) = l :: lines cs := by
  induction l with
  | nil => exact lines_break cs
  | cons c l ih =>
    obtain ⟨hc, hl⟩ := List.forall_mem_cons.1 h
    exact lines_plain hc (ih hl)

/-- Lines that are each ended are read back. -/
theorem lines_flatMap {ls : List (List Char)} (h : ∀ l ∈ ls, IsLine l) :
    lines (ls.flatMap fun l => l ++ ['\n']) = ls := by
  induction ls with
  | nil => rfl
  | cons l ls ih =>
    obtain ⟨hl, hls⟩ := List.forall_mem_cons.1 h
    rw [List.flatMap_cons, List.append_assoc, List.singleton_append, lines_append hl, ih hls]

/-- What ends a line is no part of it. -/
theorem isLine_of_mem_lines {cs : List Char} : ∀ l ∈ lines cs, IsLine l := by
  fun_induction lines cs with
  | case1 => simp
  | case2 rest ih => simpa [IsLine] using ih
  | case3 c rest hcr hend ih => simpa [IsLine] using ih
  | case4 c rest hcr hend hrest ih =>
    simpa [IsLine] using hend
  | case5 c rest hcr hend l ls hrest ih =>
    rw [hrest] at ih
    obtain ⟨hl, hls⟩ := List.forall_mem_cons.1 ih
    refine List.forall_mem_cons.2 ⟨List.forall_mem_cons.2 ⟨?_, hl⟩, hls⟩
    simpa using hend

end Text

namespace Buffer

open Emit Text

/-! ## Pieces -/

theorem chunks_foldl_write (b : Buffer) (texts : List String) :
    texts.foldl write b = ⟨b.chunks ++ texts⟩ := by
  induction texts generalizing b with
  | nil => rw [List.foldl_nil, List.append_nil]
  | cons text texts ih => rw [List.foldl_cons, ih, write, List.append_assoc, List.singleton_append]

/-- The text of a buffer is what was in it and all that was written, in order. -/
theorem toList_foldl_write (b : Buffer) (texts : List String) :
    (texts.foldl write b).text.toList = b.text.toList ++ texts.flatMap String.toList := by
  rw [chunks_foldl_write]
  unfold text
  rw [String.toList_join, String.toList_join, List.flatMap_append]

/-- Two rows of pieces make up the same text where they are the same text when joined. -/
theorem text_foldl_write_iff {b : Buffer} {texts texts' : List String} :
    (texts.foldl write b).text = (texts'.foldl write b).text ↔
      String.join texts = String.join texts' := by
  rw [← String.toList_inj, ← String.toList_inj, toList_foldl_write, toList_foldl_write,
    List.append_cancel_left_eq, String.toList_join, String.toList_join]

/-! ## Lines -/

/-- Lines are written piece by piece: each text, and what ends it. -/
theorem writeLines_eq_foldl (b : Buffer) (ls : List String) :
    writeLines b ls = (eachLine ls).writes.foldl write b := by
  rw [writeLines_eq, (prints_eachLine ls).writes]
  induction ls generalizing b with
  | nil => rfl
  | cons l ls ih => exact ih (b.writeLine l)

theorem toList_writeLines (ls : List String) : (writeLines {} ls).text.toList =
    (ls.map String.toList).flatMap fun l => l ++ ['\n'] := by
  rw [writeLines_eq_foldl, toList_foldl_write, (prints_eachLine ls).writes, List.flatMap_assoc,
    List.flatMap_map]
  simp [text]

/-- Lines are read back exactly when none of them holds a character that ends a line. -/
theorem lines_writeLines_iff {ls : List String} :
    (writeLines {} ls).lines = ls ↔ ∀ l ∈ ls, IsLine l.toList := by
  unfold lines
  rw [toList_writeLines]
  constructor
  · intro h l hl
    rw [← h] at hl
    obtain ⟨cs, hcs, rfl⟩ := List.mem_map.1 hl
    rw [String.toList_ofList]
    exact isLine_of_mem_lines cs hcs
  · intro h
    have hlines : ∀ l ∈ ls.map String.toList, IsLine l := by
      intro l hl
      obtain ⟨s, hs, rfl⟩ := List.mem_map.1 hl
      exact h s hs
    rw [lines_flatMap hlines, List.map_map]
    simp [Function.comp_def]

/-! ## Items -/

theorem isLineEnd_of_isDigit {c : Char} (h : c.isDigit = true) : isLineEnd c = false := by
  have hnone : lineEnds.all (fun d => !d.isDigit) = true := by decide
  rw [Bool.eq_false_iff]
  intro hend
  have hdigit := List.all_eq_true.1 hnone c (isLineEnd_iff.1 hend)
  rw [h] at hdigit
  cases hdigit

theorem isLine_of_all {l : List Char} (h : l.all (fun c => !isLineEnd c) = true) : IsLine l := by
  intro c hc
  simpa using List.all_eq_true.1 h c hc

theorem isLine_toString (n : Int) : IsLine (toString n).toList := by
  intro c hc
  rcases Version.mem_toString hc with hdigit | rfl
  · exact isLineEnd_of_isDigit hdigit
  · rfl

theorem isLine_text (v : Version) : IsLine v.text.toList := by
  unfold Version.text
  rw [Version.toList_joined (c := '.') rfl]
  intro c hc
  rcases mem_intercalate hc with rfl | ⟨f, hf, hc⟩
  · rfl
  · obtain ⟨n, -, rfl⟩ := List.mem_map.1 hf
    exact isLine_toString n c hc

/-- What is shown of an item other than a text is a line. -/
theorem isLine_display {item : Item} (h : ∀ s, item ≠ .text s) : IsLine item.display.toList := by
  cases item with
  | text s => exact absurd rfl (h s)
  | number n => exact isLine_toString n
  | truth b => cases b <;> exact isLine_of_all (by decide)
  | version v => exact isLine_text v
  | nothing => exact isLine_of_all (by decide)

/-- Items are read back as they are shown exactly when no text among them holds a character that
ends a line. -/
theorem lines_display_iff {items : List Item} :
    (writeLines {} (items.map Item.display)).lines = items.map Item.display ↔
      ∀ s, Item.text s ∈ items → IsLine s.toList := by
  rw [lines_writeLines_iff, List.forall_mem_map]
  constructor
  · exact fun h s hs => h (.text s) hs
  · intro h item hitem
    by_cases htext : ∃ s, item = .text s
    · obtain ⟨s, rfl⟩ := htext
      exact h s hitem
    · exact isLine_display (not_exists.1 htext)

end Buffer

open Emit Text

/-- Texts that are written on lines of their own into an empty buffer are read back, the empty ones
among them, if and only if none of them holds a character that ends a line. They may be written at
once, one by one (`Buffer.writeLines_eq`) or by a renderer. The text of a buffer is all that was
written into it, in order, and does not tell of the pieces in which it came. -/
theorem written_read_back :
    (∀ ls : List String, (Buffer.writeLines {} ls).lines = ls ↔
      ∀ l ∈ ls, ∀ c ∈ lineEnds, c ∉ l.toList) ∧
    (∀ (b : Buffer) (ls : List String),
      Buffer.writeLines b ls = (eachLine ls).writes.foldl Buffer.write b) ∧
    (∀ (b : Buffer) (texts : List String),
      (texts.foldl Buffer.write b).text.toList = b.text.toList ++ texts.flatMap String.toList) ∧
    ∀ (b : Buffer) (texts texts' : List String),
      (texts.foldl Buffer.write b).text = (texts'.foldl Buffer.write b).text ↔
        String.join texts = String.join texts' := by
  refine ⟨fun ls => ?_, Buffer.writeLines_eq_foldl, Buffer.toList_foldl_write,
    fun _ _ _ => Buffer.text_foldl_write_iff⟩
  rw [Buffer.lines_writeLines_iff]
  simp only [isLine_iff]

theorem written_read_back_emptyLines :
    (∀ l ∈ ["", "use glib;", "", ""], ∀ c ∈ lineEnds, c ∉ l.toList) ∧
      (Buffer.writeLines {} ["", "use glib;", "", ""]).lines = ["", "use glib;", "", ""] := by
  have hplain : ∀ l ∈ ["", "use glib;", "", ""], ∀ c ∈ lineEnds, c ∉ l.toList := by
    simp [lineEnds]
  exact ⟨hplain, (written_read_back.1 _).2 hplain⟩

end Bindery
