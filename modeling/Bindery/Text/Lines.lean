/-! # Lines of a text

A line ends at a line feed, a carriage return (with the line feed that follows it), a vertical
tab, a form feed, a file, group or record separator, a next-line control, or a line or paragraph
separator. What ends a line is not part of it, and no empty line follows the last end.
-/

namespace Bindery.Text

/-- Characters that end a line. -/
def isLineEnd (c : Char) : Bool :=
  let n := c.toNat
  (0x0a ≤ n && n ≤ 0x0d) || (0x1c ≤ n && n ≤ 0x1e) || n == 0x85 || n == 0x2028 || n == 0x2029

/-- The lines of a text. -/
def lines : List Char → List (List Char)
  | [] => []
  | '\r' :: '\n' :: rest => [] :: lines rest
  | c :: rest =>
    if isLineEnd c then [] :: lines rest
    else match lines rest with
      | [] => [[c]]
      | l :: ls => (c :: l) :: ls

end Bindery.Text
