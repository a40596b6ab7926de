import Bindery.Decimal.Shortest
import Bindery.Json.Basic
import Bindery.Text.Quoted

/-! # Writing JSON, and values in messages

A value has two written forms: JSON, and the form in which it stands in a message or in generated
code, where a string is written as it is, nothing as `None`, and truth as `True`.
-/

namespace Bindery.Json

open Decimal

/-! ## Numbers -/

/-- Exponents from -4 to 15 are written without exponent notation, others with two digits or
more. -/
def numberStyle : Style := ⟨-4, 15, 2⟩

/-- The text of a number, in which infinity and what is no number have the given names. -/
def floatText (infinity nan : String) : Binary64 → String
  | .finite negative m e => (if negative then "-" else "") ++ magnitudeText numberStyle m e
  | .infinite negative => (if negative then "-" else "") ++ infinity
  | .nan => nan

/-! ## JSON -/

/-- One character of a JSON string. -/
def escapedChar (c : Char) : List Char :=
  if c = '"' then ['\\', '"']
  else if c = '\\' then ['\\', '\\']
  else if c.val < 0x20 then '\\' :: 'u' :: Text.hexDigits 4 c.toNat
  else [c]

/-- A JSON string. -/
def stringText (s : String) : String :=
  String.ofList ('"' :: (s.toList.flatMap escapedChar ++ ['"']))

mutual

/-- A value as JSON. -/
def print : Json → String
  | null => "null"
  | bool b => if b then "true" else "false"
  | int n => toString n
  | float x => floatText "Infinity" "NaN" x
  | string s => stringText s
  | array items => "[" ++ ", ".intercalate (printItems items) ++ "]"
  | object members => "\x7b" ++ ", ".intercalate (printMembers members) ++ "\x7d"

/-- Values as JSON. -/
def printItems : List Json → List String
  | [] => []
  | v :: vs => print v :: printItems vs

/-- Members as JSON. -/
def printMembers : List (String × Json) → List String
  | [] => []
  | (key, v) :: ms => (stringText key ++ ": " ++ print v) :: printMembers ms

end

/-! ## Messages -/

mutual

/-- A value inside another one. -/
def inner : Json → String
  | null => "None"
  | bool b => if b then "True" else "False"
  | int n => toString n
  | float x => floatText "inf" "nan" x
  | string s => Text.quoted s
  | array items => "[" ++ ", ".intercalate (innerItems items) ++ "]"
  | object members => "\x7b" ++ ", ".intercalate (innerMembers members) ++ "\x7d"

/-- Values inside another one. -/
def innerItems : List Json → List String
  | [] => []
  | v :: vs => inner v :: innerItems vs

/-- Members of a value inside another one. -/
def innerMembers : List (String × Json) → List String
  | [] => []
  | (key, v) :: ms => (Text.quoted key ++ ": " ++ inner v) :: innerMembers ms

end

/-- A value as it stands in a message: a string without quotes. -/
def display : Json → String
  | string s => s
  | v => inner v

end Bindery.Json
