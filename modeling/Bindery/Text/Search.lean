/-! # Search in a text

Occurrence of a text in another, fields between separators, and the parts around the first
occurrence of a text.
-/

namespace Bindery.Text

/-- Whether `pat` stands somewhere in a text. -/
def occursIn (pat : List Char) : List Char → Bool
  | [] => pat.isEmpty
  | c :: cs => pat.isPrefixOf (c :: cs) || occursIn pat cs

/-- The parts of a text between the separators, one more than there are separators. -/
def fields (sep : Char) : List Char → List (List Char)
  | [] => [[]]
  | c :: cs =>
    if c = sep then [] :: fields sep cs
    else match fields sep cs with
      | [] => [[c]]
      | f :: fs => (c :: f) :: fs

/-- What stands before and after the first occurrence of `pat`. -/
def splitFirst? (pat : List Char) : List Char → Option (List Char × List Char)
  | [] => if pat.isEmpty then some ([], []) else none
  | c :: cs =>
    if pat.isPrefixOf (c :: cs) then some ([], (c :: cs).drop pat.length)
    else (splitFirst? pat cs).map fun p => (c :: p.1, p.2)

end Bindery.Text
