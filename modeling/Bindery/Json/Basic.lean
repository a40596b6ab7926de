import Bindery.Decimal.Binary64

/-! # JSON values

Integers and numbers with a fraction are kept apart, and an object keeps its members in order.
-/

namespace Bindery

open Decimal

/-- A JSON value. -/
inductive Json
  | null
  | bool (b : Bool)
  | int (n : Int)
  | float (x : Binary64)
  | string (s : String)
  | array (items : List Json)
  | object (members : List (String × Json))
deriving Inhabited

namespace Json

/-- Sets a member: a new one goes to the end, a known one keeps its place. -/
def setMember (key : String) (value : Json) : List (String × Json) → List (String × Json)
  | [] => [(key, value)]
  | p :: ps => if p.1 = key then (key, value) :: ps else p :: setMember key value ps

/-- An object of members read in order, the last of several with one key being kept. -/
def ofMembers (ps : List (String × Json)) : Json :=
  .object (ps.foldl (fun ms p => setMember p.1 p.2 ms) [])

/-- The member with a key. -/
def member? (key : String) (ms : List (String × Json)) : Option Json :=
  (ms.find? fun p => p.1 == key).map (·.2)

/-- Whether a value counts as true: all do but nothing, falsity, zero, and what is empty. -/
def isTruthy : Json → Bool
  | null => false
  | bool b => b
  | int n => n != 0
  | float x => !x.isZero
  | string s => !s.isEmpty
  | array items => !items.isEmpty
  | object members => !members.isEmpty

/-- A truth value counts as zero or one where it is compared with numbers. -/
def numeral? : Json → Option (Int ⊕ Binary64)
  | bool b => some (.inl (if b then 1 else 0))
  | int n => some (.inl n)
  | float x => some (.inr x)
  | _ => none

/-- Whether two numbers are equal. -/
def sameNumeral : Int ⊕ Binary64 → Int ⊕ Binary64 → Bool
  | .inl m, .inl n => m == n
  | .inl m, .inr y => y.isInt m
  | .inr x, .inl n => x.isInt n
  | .inr x, .inr y => x.same y

/-- Whether a value is the number that is no number. -/
def isNan : Json → Bool
  | float .nan => true
  | _ => false

mutual

/-- Whether two values are equal. Numbers are compared by value, objects without regard to
order. What is no number differs from itself, but not where it is part of another value. -/
def same : Json → Json → Bool
  | null, b => match b with
    | null => true
    | _ => false
  | string s, b => match b with
    | string t => s == t
    | _ => false
  | array xs, b => match b with
    | array ys => sameItems xs ys
    | _ => false
  | object ps, b => match b with
    | object qs => ps.length == qs.length && sameMembers ps qs
    | _ => false
  | a, b =>
    match a.numeral?, b.numeral? with
    | some x, some y => sameNumeral x y
    | _, _ => false

/-- Whether two lists have equal items. -/
def sameItems : List Json → List Json → Bool
  | [], ys => ys.isEmpty
  | _ :: _, [] => false
  | x :: xs, y :: ys => (same x y || x.isNan && y.isNan) && sameItems xs ys

/-- Whether each member has an equal one among others. -/
def sameMembers : List (String × Json) → List (String × Json) → Bool
  | [], _ => true
  | (key, x) :: ps, qs =>
    (match member? key qs with
      | some y => same x y || x.isNan && y.isNan
      | none => false) && sameMembers ps qs

end

end Json

end Bindery
