/-! # Numbers of double precision

A finite number is `m · 2^e` with `m` below `2^53`. A ratio is read as the nearest such number,
of two equally near the one with even `m`.
-/

namespace Bindery.Decimal

/-- A number of double precision. -/
inductive Binary64
  | finite (negative : Bool) (m : Nat) (e : Int)
  | infinite (negative : Bool)
  | nan
deriving DecidableEq, Inhabited

/-- The quotient rounded to the nearest natural number, a half to the even one. -/
def roundHalfEven (num den : Nat) : Nat :=
  let q := num / den
  let r := 2 * (num % den)
  if r < den then q else if den < r then q + 1 else q + q % 2

/-- The least exponent of a number. -/
def minExponent : Int := -1074

/-- The greatest exponent of a number. -/
def maxExponent : Int := 971

/-- The power `b^e`, or one where the exponent is negative: over `raise b (-e)` it is `b^e` for
every exponent. -/
def raise (b : Nat) (e : Int) : Nat := Nat.pow b e.toNat

/-- The exponent of the power of two at or below a ratio. -/
def floorLog2 (num den : Nat) : Int :=
  let k : Int := (num.log2 : Int) - den.log2
  if den * raise 2 k ≤ num * raise 2 (-k) then k else k - 1

namespace Binary64

/-- The number nearest to a ratio; a ratio of zero gives zero. -/
def ofRatio (negative : Bool) (num den : Nat) : Binary64 :=
  if num = 0 then finite negative 0 minExponent
  else
    let e := max (floorLog2 num den - 52) minExponent
    let m := roundHalfEven (num * raise 2 (-e)) (den * raise 2 e)
    let (m, e) := if m = raise 2 53 then (raise 2 52, e + 1) else (m, e)
    if maxExponent < e then infinite negative else finite negative m e

/-- The number nearest to `digits · 10^exponent`. Exponents that leave no doubt are not computed
with. -/
def ofDecimal (negative : Bool) (digits : Nat) (exponent : Int) : Binary64 :=
  let size : Int := (toString digits).length
  if digits = 0 then finite negative 0 minExponent
  else if 400 < size + exponent then infinite negative
  else if size + exponent < -400 then finite negative 0 minExponent
  else ofRatio negative (digits * raise 10 exponent) (raise 10 (-exponent))

/-- Whether a number is the given integer. -/
def isInt (x : Binary64) (n : Int) : Bool :=
  match x with
  | finite negative m e =>
    let scaled : Int := m * raise 2 e
    (if negative then -scaled else scaled) == n * raise 2 (-e)
  | _ => false

/-- Whether two numbers have one value: zero has two signs, and what is not a number has none. -/
def same : Binary64 → Binary64 → Bool
  | finite s m e, finite t n f => m == n && e == f && (s == t || m == 0)
  | infinite s, infinite t => s == t
  | _, _ => false

/-- A finite number as a ratio of integers. -/
def ratio? : Binary64 → Option (Int × Nat)
  | finite negative m e =>
    let num : Int := m * raise 2 e
    some (if negative then -num else num, raise 2 (-e))
  | _ => none

/-- The place among infinities and finite numbers; what is no number comes last. -/
def rank : Binary64 → Nat
  | infinite true => 0
  | finite _ _ _ => 1
  | infinite false => 2
  | nan => 3

/-- The order of numbers by value. -/
def compare (x y : Binary64) : Ordering :=
  match x.ratio?, y.ratio? with
  | some (a, b), some (c, d) => Ord.compare (a * d) (c * b)
  | _, _ => Ord.compare x.rank y.rank

/-- The order of an integer and a number by value. -/
def compareInt (n : Int) (x : Binary64) : Ordering :=
  match x.ratio? with
  | some (a, b) => Ord.compare (n * b) a
  | none => Ord.compare 1 x.rank

/-- Whether the value is zero. -/
def isZero : Binary64 → Bool
  | finite _ m _ => m == 0
  | _ => false

end Binary64

end Bindery.Decimal
