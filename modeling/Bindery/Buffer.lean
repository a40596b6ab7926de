import Bindery.Text.Lines
import Bindery.Version

/-! # An output buffer

Texts are kept as they were written, and read back as one text or as lines.
-/

namespace Bindery

/-- The texts written so far, in order. -/
structure Buffer where
  chunks : List String := []
deriving DecidableEq

namespace Buffer

/-- Adds a text. -/
def write (b : Buffer) (text : String) : Buffer := ⟨b.chunks ++ [text]⟩

/-- Adds a line: its text, and then what ends it. -/
def writeLine (b : Buffer) (text : String) : Buffer := (b.write text).write "\n"

/-- Adds a line for each text. -/
def writeLines (b : Buffer) (texts : List String) : Buffer := texts.foldl writeLine b

/-- Lines may be written one by one. -/
theorem writeLines_eq (b : Buffer) (texts : List String) :
    b.writeLines texts = texts.foldl writeLine b := rfl

/-- Everything written. -/
def text (b : Buffer) : String := String.join b.chunks

/-- The lines of everything written. -/
def lines (b : Buffer) : List String := (Text.lines b.text.toList).map String.ofList

end Buffer

/-- What can be shown on a line of its own. -/
inductive Item
  | text (s : String)
  | number (n : Int)
  | truth (b : Bool)
  | version (v : Version)
  | nothing

/-- The text of an item; its numbers are short enough to be printed. -/
def Item.display : Item → String
  | text s => s
  | number n => toString n
  | truth b => if b then "True" else "False"
  | version v => v.text
  | nothing => "None"

end Bindery
