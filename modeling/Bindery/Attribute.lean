import Bindery.Emit
import Bindery.Env
import Bindery.Margin
import Bindery.Text.Case
import Bindery.Text.Escape

/-! # Attributes of a declaration

Visibility, deprecation, derived traits and documentation aliases.
-/

namespace Bindery

/-! ## Visibility -/

/-- Where a declaration can be seen from. -/
inductive Visibility
  | everywhere
  | inCrate
  | inParent
  | inModule
deriving DecidableEq

namespace Visibility

/-- All of them, the widest first. -/
def all : List Visibility := [everywhere, inCrate, inParent, inModule]

/-- The keyword in front of a declaration. -/
def keyword : Visibility → String
  | everywhere => "pub"
  | inCrate => "pub(crate)"
  | inParent => "pub(super)"
  | inModule => ""

/-- The name that a description may use in place of the keyword. -/
def name : Visibility → String
  | everywhere => "PUBLIC"
  | inCrate => "CRATE"
  | inParent => "SUPER"
  | inModule => "PRIVATE"

/-- Reads a keyword as it stands, or a name in any case. -/
def parse? (text : String) : Option Visibility :=
  all.find? fun v => v.keyword == text || Text.lower v.name == Text.lower text

/-- What is said of a text that is neither. -/
def unknownMessage (text : String) : String := "unknown visibility '" ++ text ++ "'"

/-- The margin and the keyword with the space after it; a declaration seen in its module only has
no keyword. -/
def marker (v : Visibility) (m : Margin) : String :=
  m.text ++ (if v.keyword.isEmpty then "" else v.keyword ++ " ")

end Visibility

/-! ## Derived traits -/

/-- One derive attribute, perhaps under a cfg predicate. -/
structure Derive where
  names : List Label
  cfg : Option String := none

/-- The attribute without its margin, given the names with commas between them. -/
def Derive.attributeOf (d : Derive) (names : String) : String :=
  match d.cfg with
  | none => "#[derive(" ++ names ++ ")]"
  | some cfg => "#[cfg_attr(" ++ cfg ++ ", derive(" ++ names ++ "))]"

/-- The attribute without its margin. -/
def Derive.attribute (d : Derive) : Except InternalError String :=
  (Label.joined d.names).map d.attributeOf

/-! ## Aliases -/

/-- A piece of an alias. Only a piece that is a double quote or a backslash by itself is escaped. -/
def escapedPiece (s : String) : String := if s = "\"" || s = "\\" then "\\" ++ s else s

/-- An alias as it stands between double quotes. Of a label that is no text the pieces are
joined. -/
def escapedAlias (name : Label) : Except InternalError String :=
  match name with
  | .string s => .ok (Text.escape s)
  | name =>
    match name.pieces? with
    | some ps => .ok (String.join (ps.map escapedPiece))
    | none => (Cause.unfit .operand).throw

/-! ## Deprecation -/

/-- The deprecation attribute of a type. It has no condition when the baseline of the namespace of
the type guarantees the version. -/
def deprecation? (env : Env) (ns : Option Int) (since : Option Version) (m : Margin) :
    Except InternalError (Option String) :=
  match since with
  | none => .ok none
  | some v => do
    let note := "deprecated = \"Since " ++ v.text ++ "\""
    let guaranteed ← env.guarantees ns (some v)
    return some (m.text ++
      if guaranteed then "#[" ++ note ++ "]"
      else "#[cfg_attr(" ++ v.predicate none ++ ", " ++ note ++ ")]")

namespace Emit

/-- The derive attributes of a type, one on each line. -/
def derives (ds : List Derive) (m : Margin) : Emit Unit :=
  match ds with
  | [] => pure ()
  | d :: rest => do
    line (m.text ++ (← d.attribute))
    derives rest m

/-- The deprecation attribute of a type, where it is deprecated. -/
def deprecated (env : Env) (ns : Option Int) (since : Option Version) (m : Margin) : Emit Unit := do
  line? (← deprecation? env ns since m)

/-- The attribute of code that uses deprecated symbols. -/
def allowDeprecated (since : Option Version) (m : Margin) : Emit Unit :=
  line? (since.map fun _ => m.text ++ "#[allow(deprecated)]")

/-- The name under which documentation also finds a declaration. -/
def docAlias (name : Label) (m : Margin) : Emit Unit := do
  line (m.text ++ "#[doc(alias = \"" ++ (← escapedAlias name) ++ "\")]")

/-- The attribute of a declaration that documentation leaves out. -/
def docHidden (hidden : Bool) (m : Margin) : Emit Unit :=
  line? (if hidden then some (m.text ++ "#[doc(hidden)]") else none)

end Emit

end Bindery
