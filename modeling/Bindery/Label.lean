import Bindery.Json.Printer

/-! # Labels

A description names types, ancestors, traits and imports. A name is a text as a rule, but any value
in its place is handed through as it is: it can be shown, and it counts as true or not. Only where
texts are joined, split or escaped must it be one.
-/

namespace Bindery

/-- A name as a description gives it. -/
abbrev Label := Json

/-- How a value is used that it is not fit for. -/
inductive Misuse
  /-- It has no such property: only an object has members, only a text has a case or parts. -/
  | property
  /-- It cannot take part: only what has items is gone through, only a plain value is looked up,
  only texts are joined, only values of one sort are put in order. -/
  | operand
deriving DecidableEq

namespace Label

/-- The text that a label is, if it is one. -/
def text? : Label → Option String
  | .string s => some s
  | _ => none

/-- How a label is shown where it is the subject of a message; one that counts as false is none. -/
def subject? (l : Label) : Option String := if l.isTruthy then some l.display else none

/-- The texts that a label is made of: the characters of a text, the items of an array, the keys of
an object. -/
def pieces? : Label → Option (List String)
  | .string s => some (s.toList.map String.singleton)
  | .array items => items.mapM text?
  | .object members => some (members.map (·.1))
  | _ => none

/-! ## Order -/

/-- Sorts of labels that can be looked up: numbers, texts, nothing. -/
def rank : Label → Nat
  | .string _ => 1
  | .null => 2
  | _ => 0

/-- Whether a label can be looked up. -/
def isPlain : Label → Bool
  | .array _ => false
  | .object _ => false
  | _ => true

/-- Whether labels are of one sort, so that they can be put in order. -/
def areSortable : List Label → Bool
  | [] => true
  | l :: ls => ls.all fun k => rank k == rank l

/-- Numbers by value, before texts, before nothing. -/
def compare (k l : Label) : Ordering :=
  match k.numeral?, l.numeral? with
  | some (.inl m), some (.inl n) => Ord.compare m n
  | some (.inl m), some (.inr y) => y.compareInt m
  | some (.inr x), some (.inl n) => (x.compareInt n).swap
  | some (.inr x), some (.inr y) => x.compare y
  | _, _ =>
    match k, l with
    | .string s, .string t => Ord.compare s t
    | _, _ => Ord.compare (rank k) (rank l)

instance : Ord Label := ⟨compare⟩

end Label

end Bindery
