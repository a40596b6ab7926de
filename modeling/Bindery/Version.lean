import Bindery.Text.Blank
import Bindery.Text.Digit
import Bindery.Text.Quoted
import Bindery.Text.Search

/-! # Versions

A library version has three numbers and is compared from the first to the last. Each version
names the cargo feature that enables what appeared in it: `2.58` is gated by `v2_58`, `2.58.1` by
`v2_58_1`.
-/

namespace Bindery

open Text

/-- A version of a foreign library. -/
structure Version where
  major : Int
  minor : Int := 0
  patch : Int := 0
deriving DecidableEq, Inhabited

namespace Version

/-! ## Order -/

/-- The first number that differs decides. -/
def compare (v w : Version) : Ordering :=
  (Ord.compare v.major w.major).then
    ((Ord.compare v.minor w.minor).then (Ord.compare v.patch w.patch))

instance : Ord Version := ⟨compare⟩

instance : LT Version := ⟨fun v w => v.compare w = .lt⟩

instance : LE Version := ⟨fun v w => v.compare w ≠ .gt⟩

instance (v w : Version) : Decidable (v < w) := inferInstanceAs (Decidable (v.compare w = .lt))

instance (v w : Version) : Decidable (v ≤ w) := inferInstanceAs (Decidable (v.compare w ≠ .gt))

/-- The inner bound, where it says more than the outer one. Without an outer bound every inner
bound is kept. -/
def stricter? (inner outer : Option Version) : Option Version :=
  match inner, outer with
  | none, _ => none
  | some v, none => some v
  | some v, some w => if w < v then some v else none

/-! ## Written form

The texts that a version has, however long its numbers are. Whether they are printed depends on
that.
-/

/-- The numbers with `sep` between them, a patch of zero left out. -/
def joined (sep : String) (v : Version) : String :=
  let front := toString v.major ++ sep ++ toString v.minor
  if v.patch = 0 then front else front ++ sep ++ toString v.patch

/-- The version as it is written in a description. -/
def text (v : Version) : String := v.joined "."

/-- The cargo feature of the version. -/
def feature (v : Version) : String := "v" ++ v.joined "_"

/-- A feature in a crate; an empty tag is none. -/
def tagged (crateTag : Option String) (feature : String) : String :=
  match crateTag with
  | none => feature
  | some tag => if tag.isEmpty then feature else tag ++ "_" ++ feature

/-- The cfg predicate that holds when a feature is enabled. -/
def requires (feature : String) : String := "feature = \"" ++ feature ++ "\""

/-- The feature of the version in a crate. -/
def featureIn (crateTag : Option String) (v : Version) : String := tagged crateTag v.feature

/-- The cfg predicate that holds when the version is enabled. -/
def predicate (crateTag : Option String) (v : Version) : String := requires (v.featureIn crateTag)

/-- A version or its absence, for messages. -/
def describe : Option Version → String
  | none => "<none>"
  | some v => v.text

/-! ## Printing -/

/-- Why a version is not printed. -/
inductive PrintError
  /-- A number has more digits than are printed. -/
  | tooLong
deriving DecidableEq

/-- The text for a reader. -/
def PrintError.message : PrintError → String
  | tooLong => overLimit ""

/-- Prints a number. Its sign does not count. -/
def printNumber (n : Int) : Except PrintError String :=
  if digitLimit < n.natAbs.repr.length then .error .tooLong else .ok (toString n)

/-- Prints the numbers with `sep` between them, a patch of zero left out. -/
def print (sep : String) (v : Version) : Except PrintError String := do
  let front := (← printNumber v.major) ++ sep ++ (← printNumber v.minor)
  if v.patch = 0 then return front else return front ++ sep ++ (← printNumber v.patch)

/-- Prints the version as it is written in a description. -/
def toText (v : Version) : Except PrintError String := v.print "."

/-- Prints the cargo feature of the version. -/
def toFeature (v : Version) : Except PrintError String := (v.print "_").map ("v" ++ ·)

/-- Prints the cfg predicate that holds when the version is enabled. -/
def toPredicate (crateTag : Option String) (v : Version) : Except PrintError String :=
  v.toFeature.map fun feature => requires (tagged crateTag feature)

/-! ## Reading -/

/-- Why a text is not a version. -/
inductive ParseError
  /-- Not one to three fields of digits. -/
  | malformed (text : String)
  /-- A field holds a digit without a place value. -/
  | placeless (field : String)
  /-- A field has more digits than a number may have. -/
  | tooLong (digits : Nat)
deriving DecidableEq

/-- The text for a reader. A field is quoted, and its quotation cut after 200 characters. -/
def ParseError.message : ParseError → String
  | malformed text => "invalid version '" ++ text ++ "'"
  | placeless field =>
    "invalid literal for int() with base 10: " ++ String.ofList ((quoted field).toList.take 200)
  | tooLong digits => hugeNumberMessage digits

/-- Whether a field is a non-empty run of digits of any kind. -/
def isField (cs : List Char) : Bool := !cs.isEmpty && cs.all isDigit

/-- The number of a field. The run of decimal digits that begins it is measured before the rest
is looked at. -/
def numberOf (cs : List Char) : Except ParseError Int :=
  let run := (cs.takeWhile fun c => (decimalValue? c).isSome).length
  if digitLimit < run then .error (.tooLong run)
  else if run = cs.length then .ok (decimalNumber cs)
  else .error (.placeless (String.ofList cs))

/-- Reads `major[.minor[.patch]]` with blanks around it; a missing number is zero. -/
def parse (text : String) : Except ParseError Version :=
  let parts := fields '.' (strip text.toList)
  if parts.length ≤ 3 && parts.all isField then do
    let numbers ← parts.mapM numberOf
    return ⟨numbers.getD 0 0, numbers.getD 1 0, numbers.getD 2 0⟩
  else .error (.malformed text)

end Version

/-- Absence comes before every version. -/
def compareOptional (v w : Option Version) : Ordering :=
  match v, w with
  | none, none => .eq
  | none, some _ => .lt
  | some _, none => .gt
  | some v, some w => v.compare w

end Bindery
