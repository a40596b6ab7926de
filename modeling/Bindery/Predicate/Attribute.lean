import Bindery.Text.Blank

/-! # The predicate of an attribute line -/

namespace Bindery.Predicate

/-- What a cfg attribute opens with. -/
def attributeOpening : List Char := "#[cfg(".toList

/-- What a cfg attribute closes with. -/
def attributeClosing : List Char := ")]".toList

/-- The predicate of a line that is a `#[cfg(...)]` attribute. Other lines have none, attributes
behind a comment sign among them. -/
def ofAttribute? (line : String) : Option String :=
  let s := Text.strip line.toList
  if attributeOpening.isPrefixOf s && attributeClosing.isSuffixOf s then
    some (String.ofList
      ((s.take (s.length - attributeClosing.length)).drop attributeOpening.length))
  else none

end Bindery.Predicate
