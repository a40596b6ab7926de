/-! # The margin of a line

Attributes stand behind tabs and may be commented out, so that they stay in the text but have no
effect.
-/

namespace Bindery

/-- What stands before an attribute on its line. -/
structure Margin where
  commented : Bool := false
  indent : Int := 0

/-- One tab per step of indentation. -/
def tabs (indent : Int) : String := String.ofList (List.replicate indent.toNat '\t')

/-- The sign that comments a line out. -/
def commentSign (commented : Bool) : String := if commented then "//" else ""

/-- The tabs, and after them the comment sign. -/
def Margin.text (m : Margin) : String := tabs m.indent ++ commentSign m.commented

end Bindery
