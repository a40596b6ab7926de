import Bindery.Text.CaseTable

/-! # Case maps

Full upper and lower case of a text. One letter may become several, and the capital sigma has a
form of its own at the end of a word.
-/

namespace Bindery.Text

/-- The first run that takes the character decides; a character in no run stays as it is. -/
def applyRuns (runs : List CaseRun) (c : Char) : Char := (runs.findSome? (·.image? c)).getD c

/-- Upper case of one character. -/
def upperChar (c : Char) : List Char :=
  if c.val < 0x80 then [c.toUpper]
  else match upperExpansions.find? (·.1 == c.toNat) with
    | some e => e.2.map Char.ofNat
    | none => [applyRuns upperRuns c]

/-- Upper case of a text. -/
def upper (s : String) : String := String.ofList (s.toList.flatMap upperChar)

/-- Lower case of one character, the capital sigma as inside a word. The capital I with a dot
becomes an i and a dot above. -/
def lowerChar (c : Char) : List Char :=
  if c.val < 0x80 then [c.toLower]
  else if c.val = 0x130 then ['i', '\u0307']
  else [applyRuns lowerRuns c]

/-- Whether the first character that is not skipped is a letter with case. -/
def meetsCased (cs : List Char) : Bool :=
  match cs.dropWhile caseIgnorableTable.has with
  | [] => false
  | c :: _ => casedTable.has c

/-- A capital sigma ends a word when a cased letter stands before it and none after it. -/
def lowerFrom (before : List Char) : List Char → List Char
  | [] => []
  | c :: rest =>
    let image :=
      if c.val = 0x3a3 && meetsCased before && !meetsCased rest then ['\u03c2'] else lowerChar c
    image ++ lowerFrom (c :: before) rest

/-- Lower case of a text. -/
def lower (s : String) : String := String.ofList (lowerFrom [] s.toList)

end Bindery.Text
