import Bindery.Decimal.Binary64

/-! # The shortest decimal of a number

A number is written with the fewest digits that read back as it, and among those the nearest to
it. For each count of digits the two neighbours of the number on the decimal grid are tried; the
first grid with a neighbour that reads back gives the digits.
-/

namespace Bindery.Decimal

/-- `digits · 10^exponent`. -/
structure Scaled where
  digits : Nat
  exponent : Int
deriving DecidableEq

/-- A number with the ends of the interval that rounds to it, all over one denominator. -/
structure Interval where
  low : Nat
  value : Nat
  high : Nat
  den : Nat
  /-- Whether the ends themselves round to the number. -/
  closed : Bool

/-- The interval of `m · 2^e`. Below a power of two numbers are twice as dense. -/
def intervalOf (m : Nat) (e : Int) : Interval :=
  let scale := raise 2 (e - 2)
  let below := if m = raise 2 52 ∧ e ≠ minExponent then 1 else 2
  ⟨(4 * m - below) * scale, 4 * m * scale, (4 * m + 2) * scale, raise 2 (2 - e), m % 2 == 0⟩

/-- Whether `digits · 10^exponent` rounds to the number. -/
def Interval.holds (i : Interval) (s : Scaled) : Bool :=
  let num := s.digits * raise 10 s.exponent * i.den
  let unit := raise 10 (-s.exponent)
  if i.closed then i.low * unit ≤ num && num ≤ i.high * unit
  else i.low * unit < num && num < i.high * unit

/-- The number of decimal digits of a natural number. -/
def digitCount (n : Nat) : Nat := (toString n).length

/-- The exponent of the power of ten above a ratio: `10^(k-1) ≤ num / den < 10^k`. -/
def ceilLog10 (num den : Nat) : Int :=
  if den ≤ num then digitCount (num / den)
  else
    let k : Int := 1 - digitCount (den / num)
    if num * raise 10 (-k) = den then k + 1 else k

/-- The neighbour of the number on the grid of `10^exponent`, the nearer of those that round to
it; of two equally near, the even one. -/
def Interval.neighbour? (i : Interval) (exponent : Int) : Option Scaled :=
  let num := i.value * raise 10 (-exponent)
  let den := i.den * raise 10 exponent
  let down : Scaled := ⟨num / den, exponent⟩
  let up : Scaled := ⟨num / den + 1, exponent⟩
  let r := 2 * (num % den)
  let nearer := if r < den then down else if den < r then up
    else if down.digits % 2 = 0 then down else up
  match i.holds down, i.holds up with
  | true, true => some nearer
  | true, false => some down
  | false, true => some up
  | false, false => none

/-- The shortest decimal of `m · 2^e`, from `count` digits on; seventeen digits always do. -/
def shortestFrom (i : Interval) (top : Int) : Nat → Nat → Scaled
  | 0, count => ⟨i.value * raise 10 (count - top) / (i.den * raise 10 (top - count)),
      top - count⟩
  | tries + 1, count =>
    match i.neighbour? (top - count) with
    | some s => s
    | none => shortestFrom i top tries (count + 1)

/-- The shortest decimal of `m · 2^e`. -/
def shortest (m : Nat) (e : Int) : Scaled :=
  let i := intervalOf m e
  shortestFrom i (ceilLog10 i.value i.den) 17 1

/-! ## Written form -/

/-- How a number is written. -/
structure Style where
  /-- The least and greatest decimal exponents written without an exponent. -/
  positionalFrom : Int
  positionalTo : Int
  /-- The least number of digits of an exponent. -/
  exponentWidth : Nat

/-- A natural number with zeros in front, up to a width. -/
def padded (width n : Nat) : String :=
  let s := toString n
  String.ofList (List.replicate (width - s.length) '0') ++ s

/-- A non-zero decimal without trailing zeros: its digits, and the exponent of the first. -/
def normalDigits (s : Scaled) : List Char × Int :=
  let cs := (toString s.digits).toList
  ((cs.reverse.dropWhile (· == '0')).reverse, s.exponent + cs.length - 1)

/-- Digits around a point: `lead` is the exponent of the first digit. -/
def positional (cs : List Char) (lead : Int) : String :=
  if lead < 0 then
    "0." ++ String.ofList (List.replicate (-lead - 1).toNat '0' ++ cs)
  else
    let whole := lead.toNat + 1
    let front := cs.take whole ++ List.replicate (whole - cs.length) '0'
    let back := cs.drop whole
    String.ofList front ++ "." ++ (if back.isEmpty then "0" else String.ofList back)

/-- Digits with an exponent. -/
def scientific (style : Style) (cs : List Char) (lead : Int) : String :=
  let front := match cs with
    | [] => ""
    | [c] => String.singleton c
    | c :: rest => String.singleton c ++ "." ++ String.ofList rest
  front ++ (if lead < 0 then "e-" else "e+") ++ padded style.exponentWidth lead.natAbs

/-- The text of a finite number that is not negative. -/
def magnitudeText (style : Style) (m : Nat) (e : Int) : String :=
  if m = 0 then "0.0"
  else
    let (cs, lead) := normalDigits (shortest m e)
    if style.positionalFrom ≤ lead ∧ lead ≤ style.positionalTo then positional cs lead
    else scientific style cs lead

end Bindery.Decimal
