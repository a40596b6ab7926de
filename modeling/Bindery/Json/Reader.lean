import Bindery.Json.Basic
import Bindery.Text.Digit

/-! # Reading JSON

A text is read by descent on the characters that are left. A fault remembers how many were left
where it was found, from which its line and column follow. Besides the standard values the three
numbers that have no digits are read.
-/

namespace Bindery.Json

open Decimal

export Text (digitLimit hugeNumberMessage)

/-! ## Faults -/

/-- What was wrong. -/
inductive Flaw
  | value
  | propertyName
  | colon
  | comma
  | unterminated
  | control
  | escape
  | codePoint
  | extra
  | byteOrderMark
deriving DecidableEq

/-- The text of a flaw. -/
def Flaw.message : Flaw → String
  | value => "Expecting value"
  | propertyName => "Expecting property name enclosed in double quotes"
  | colon => "Expecting ':' delimiter"
  | comma => "Expecting ',' delimiter"
  | unterminated => "Unterminated string starting at"
  | control => "Invalid control character at"
  | escape => "Invalid \\escape"
  | codePoint => "Invalid \\uXXXX escape"
  | extra => "Extra data"
  | byteOrderMark => "Unexpected UTF-8 BOM (decode using utf-8-sig)"

/-- Why a text could not be read. -/
inductive Fault
  /-- A flaw, with the number of characters left where it stands. -/
  | flaw (f : Flaw) (left : Nat)
  /-- An integer with too many digits. -/
  | hugeNumber (digits : Nat)
deriving DecidableEq

/-- The flaw with the line, the column and the offset at which it stands in a text. -/
def Flaw.locate (f : Flaw) (text : List Char) (left : Nat) : String :=
  let before := text.take (text.length - left)
  let column := (before.reverse.takeWhile (· != '\n')).length + 1
  f.message ++ ": line " ++ toString (before.count '\n' + 1) ++ " column " ++ toString column ++
    " (char " ++ toString before.length ++ ")"

/-- What was read from the front of some characters, and the rest, which is shorter. -/
structure Scan (α : Type) (cs : List Char) where
  value : α
  rest : List Char
  shorter : rest.length < cs.length

/-! ## Blanks -/

/-- The four characters that may stand between tokens. -/
def isSpace (c : Char) : Bool := c == ' ' || c == '\t' || c == '\n' || c == '\r'

/-- The characters behind the blanks. -/
def skipSpace (cs : List Char) : List Char := cs.dropWhile isSpace

theorem skipSpace_length (cs : List Char) : (skipSpace cs).length ≤ cs.length :=
  (List.dropWhile_sublist isSpace).length_le

/-! ## Strings -/

/-- The value of a hexadecimal digit. -/
def hexValue? (c : Char) : Option Nat :=
  if '0' ≤ c ∧ c ≤ '9' then some (c.toNat - '0'.toNat)
  else if 'a' ≤ c ∧ c ≤ 'f' then some (c.toNat - 'a'.toNat + 10)
  else if 'A' ≤ c ∧ c ≤ 'F' then some (c.toNat - 'A'.toNat + 10)
  else none

/-- The number of four hexadecimal digits. -/
def hex4? (a b c d : Char) : Option Nat := do
  let a ← hexValue? a
  let b ← hexValue? b
  let c ← hexValue? c
  let d ← hexValue? d
  return ((a * 16 + b) * 16 + c) * 16 + d

/-- Whether a unit is the first of a pair. -/
def isHighUnit (n : Nat) : Bool := 0xd800 ≤ n && n < 0xdc00

/-- Whether a unit is the second of a pair. -/
def isLowUnit (n : Nat) : Bool := 0xdc00 ≤ n && n < 0xe000

/-- The character of a unit; half of a pair is none and gives the replacement character. -/
def unitChar (n : Nat) : Char :=
  if isHighUnit n || isLowUnit n then '\ufffd' else Char.ofNat n

/-- The character of a pair of units. -/
def pairChar (high low : Nat) : Char :=
  Char.ofNat (0x10000 + (high - 0xd800) * 0x400 + (low - 0xdc00))

/-- Characters that stand for another behind a backslash. -/
def simpleEscape? (c : Char) : Option Char :=
  if c = '"' ∨ c = '\\' ∨ c = '/' then some c
  else if c = 'b' then some '\x08'
  else if c = 'f' then some '\x0c'
  else if c = 'n' then some '\n'
  else if c = 'r' then some '\r'
  else if c = 't' then some '\t'
  else none

/-- The second unit of a pair, if another unit follows, with something behind it, and is one. -/
def secondUnit (cs : List Char) : Except Fault (Option (Scan Nat cs)) :=
  match cs with
  | '\\' :: 'u' :: a :: b :: c :: d :: k :: more =>
    match hex4? a b c d with
    | none => .error (.flaw .codePoint (more.length + 6))
    | some n =>
      if isLowUnit n then .ok (some ⟨n, k :: more, by simp only [List.length_cons]; omega⟩)
      else .ok none
  | _ => .ok none

/-- What follows a backslash and a `u`. Four digits that end the text are a flaw, for the string
is not closed. -/
def unicodeEscape (cs : List Char) : Except Fault (Scan Char cs) :=
  match cs with
  | a :: b :: c :: d :: rest =>
    if rest.isEmpty then .error (.flaw .codePoint (cs.length + 1))
    else match hex4? a b c d with
    | none => .error (.flaw .codePoint (cs.length + 1))
    | some n =>
      if isHighUnit n then
        match secondUnit rest with
        | .error e => .error e
        | .ok none => .ok ⟨unitChar n, rest, by simp only [List.length_cons]; omega⟩
        | .ok (some s) => .ok ⟨pairChar n s.value, s.rest, by
            have := s.shorter; simp only [List.length_cons]; omega⟩
      else .ok ⟨unitChar n, rest, by simp only [List.length_cons]; omega⟩
  | _ => .error (.flaw .codePoint (cs.length + 1))

/-- What follows a backslash. `opening` is what was left at the quote that opens the string. -/
def escape (opening : Nat) (cs : List Char) : Except Fault (Scan Char cs) :=
  match cs with
  | [] => .error (.flaw .unterminated opening)
  | c :: rest =>
    if c = 'u' then
      match unicodeEscape rest with
      | .error e => .error e
      | .ok s => .ok ⟨s.value, s.rest, by
          have := s.shorter; simp only [List.length_cons]; omega⟩
    else match simpleEscape? c with
    | some d => .ok ⟨d, rest, by simp⟩
    | none => .error (.flaw .escape (rest.length + 2))

/-- The characters of a string up to its closing quote. -/
def stringBody (opening : Nat) (cs : List Char) : Except Fault (Scan (List Char) cs) :=
  match cs with
  | [] => .error (.flaw .unterminated opening)
  | c :: rest =>
    if c = '"' then .ok ⟨[], rest, by simp⟩
    else if c = '\\' then
      match escape opening rest with
      | .error e => .error e
      | .ok s =>
        have := s.shorter
        match stringBody opening s.rest with
        | .error e => .error e
        | .ok t => .ok ⟨s.value :: t.value, t.rest, by
            have := t.shorter; simp only [List.length_cons]; omega⟩
    else if c.val < 0x20 then .error (.flaw .control (rest.length + 1))
    else match stringBody opening rest with
    | .error e => .error e
    | .ok t => .ok ⟨c :: t.value, t.rest, by
        have := t.shorter; simp only [List.length_cons]; omega⟩
termination_by cs.length

/-! ## Numbers -/

/-- A number as it is written: its digits before and behind the point, and its exponent. -/
structure NumberText where
  negative : Bool
  whole : List Char
  fraction : List Char
  exponent : Option Int
  rest : List Char

/-- The number that digits write. -/
def digitsValue (cs : List Char) : Nat := cs.foldl (fun n c => 10 * n + (c.toNat - '0'.toNat)) 0

/-- The digits behind a point, of which there must be one. -/
def fraction (cs : List Char) : List Char × List Char :=
  match cs with
  | '.' :: rest =>
    let ds := rest.takeWhile Char.isDigit
    if ds.isEmpty then ([], cs) else (ds, rest.dropWhile Char.isDigit)
  | _ => ([], cs)

/-- The sign of an exponent, and what follows it. -/
def exponentSign : List Char → Bool × List Char
  | '-' :: rest => (true, rest)
  | '+' :: rest => (false, rest)
  | cs => (false, cs)

/-- An exponent, which must have a digit. -/
def exponent (cs : List Char) : Option Int × List Char :=
  match cs with
  | c :: rest =>
    if c = 'e' ∨ c = 'E' then
      let (negative, after) := exponentSign rest
      let ds := after.takeWhile Char.isDigit
      if ds.isEmpty then (none, cs)
      else
        let n : Int := digitsValue ds
        (some (if negative then -n else n), after.dropWhile Char.isDigit)
    else (none, cs)
  | [] => (none, cs)

/-- The digits before the point: a zero alone, or a run that begins with another digit. -/
def wholePart? : List Char → Option (List Char × List Char)
  | [] => none
  | c :: rest =>
    if c = '0' then some ([c], rest)
    else if c.isDigit then some (c :: rest.takeWhile Char.isDigit, rest.dropWhile Char.isDigit)
    else none

/-- The number at the front of some characters. -/
def numberText? (cs : List Char) : Option NumberText := do
  let (negative, unsigned) := match cs with
    | '-' :: rest => (true, rest)
    | _ => (false, cs)
  let (whole, afterWhole) ← wholePart? unsigned
  let (frac, afterFraction) := fraction afterWhole
  let (exp, rest) := exponent afterFraction
  return ⟨negative, whole, frac, exp, rest⟩

/-- The value of a number. Without a fraction and an exponent it is an integer. -/
def NumberText.value (t : NumberText) : Except Fault Json :=
  match t.fraction, t.exponent with
  | [], none =>
    if digitLimit < t.whole.length then .error (.hugeNumber t.whole.length)
    else
      let n : Int := digitsValue t.whole
      .ok (.int (if t.negative then -n else n))
  | frac, exp =>
    .ok (.float (.ofDecimal t.negative (digitsValue (t.whole ++ frac))
      (exp.getD 0 - frac.length)))

/-! ## Values -/

/-- The values that are words. -/
def words : List (List Char × Json) :=
  [("null".toList, .null), ("true".toList, .bool true), ("false".toList, .bool false),
    ("NaN".toList, .float .nan), ("Infinity".toList, .float (.infinite false)),
    ("-Infinity".toList, .float (.infinite true))]

/-- The word at the front of some characters. -/
def word? (cs : List Char) : Option (List Char × Json) := words.find? fun w => w.1.isPrefixOf cs

/-- A word or a number. The rest must be shorter, or there is no value. -/
def scalar (cs : List Char) : Except Fault (Scan Json cs) :=
  match word? cs with
  | some w =>
    if h : (cs.drop w.1.length).length < cs.length then .ok ⟨w.2, cs.drop w.1.length, h⟩
    else .error (.flaw .value cs.length)
  | none =>
    match numberText? cs with
    | none => .error (.flaw .value cs.length)
    | some t =>
      match t.value with
      | .error e => .error e
      | .ok v =>
        if h : t.rest.length < cs.length then .ok ⟨v, t.rest, h⟩
        else .error (.flaw .value cs.length)

mutual

/-- Reads one value. -/
def readValue (cs : List Char) : Except Fault (Scan Json cs) :=
  match cs with
  | [] => .error (.flaw .value 0)
  | c :: rest =>
    if c = '"' then
      match stringBody (rest.length + 1) rest with
      | .error e => .error e
      | .ok s => .ok ⟨.string (String.ofList s.value), s.rest, by
          have := s.shorter; simp only [List.length_cons]; omega⟩
    else if c = '[' then
      have := skipSpace_length rest
      match h : skipSpace rest with
      | ']' :: after => .ok ⟨.array [], after, by
          rw [h] at this; simp only [List.length_cons] at this ⊢; omega⟩
      | _ =>
        match readItems (skipSpace rest) with
        | .error e => .error e
        | .ok s => .ok ⟨.array s.value, s.rest, by
            have := s.shorter; simp only [List.length_cons]; omega⟩
    else if c = '\x7b' then
      have := skipSpace_length rest
      match h : skipSpace rest with
      | '\x7d' :: after => .ok ⟨.object [], after, by
          rw [h] at this; simp only [List.length_cons] at this ⊢; omega⟩
      | _ =>
        match readMembers (skipSpace rest) with
        | .error e => .error e
        | .ok s => .ok ⟨.ofMembers s.value, s.rest, by
            have := s.shorter; simp only [List.length_cons]; omega⟩
    else scalar (c :: rest)
termination_by 2 * cs.length
decreasing_by all_goals simp only [List.length_cons]; omega

/-- Reads the items of an array and the bracket that closes it. -/
def readItems (cs : List Char) : Except Fault (Scan (List Json) cs) :=
  match readValue cs with
  | .error e => .error e
  | .ok s =>
    have hs := s.shorter
    have hr := skipSpace_length s.rest
    match h : skipSpace s.rest with
    | ']' :: after => .ok ⟨[s.value], after, by
        rw [h] at hr; simp only [List.length_cons] at hr; omega⟩
    | ',' :: after =>
      have ha := skipSpace_length after
      have : (skipSpace after).length < cs.length := by
        rw [h] at hr; simp only [List.length_cons] at hr; omega
      match readItems (skipSpace after) with
      | .error e => .error e
      | .ok more => .ok ⟨s.value :: more.value, more.rest, by
          have := more.shorter; omega⟩
    | left => .error (.flaw .comma left.length)
termination_by 2 * cs.length + 1
decreasing_by all_goals omega

/-- Reads the members of an object and the brace that closes it. -/
def readMembers (cs : List Char) : Except Fault (Scan (List (String × Json)) cs) :=
  match cs with
  | '"' :: body =>
    match stringBody (body.length + 1) body with
    | .error e => .error e
    | .ok key =>
      have hk := key.shorter
      have hc := skipSpace_length key.rest
      match h : skipSpace key.rest with
      | ':' :: afterColon =>
        have hv := skipSpace_length afterColon
        have : (skipSpace afterColon).length < body.length + 1 := by
          rw [h] at hc; simp only [List.length_cons] at hc; omega
        match readValue (skipSpace afterColon) with
        | .error e => .error e
        | .ok s =>
          have hs := s.shorter
          have hr := skipSpace_length s.rest
          match h' : skipSpace s.rest with
          | '\x7d' :: after => .ok ⟨[(String.ofList key.value, s.value)], after, by
              rw [h'] at hr; simp only [List.length_cons] at hr ⊢; omega⟩
          | ',' :: after =>
            have ha := skipSpace_length after
            have : (skipSpace after).length < body.length + 1 := by
              rw [h'] at hr; simp only [List.length_cons] at hr; omega
            match readMembers (skipSpace after) with
            | .error e => .error e
            | .ok more => .ok ⟨(String.ofList key.value, s.value) :: more.value, more.rest, by
                have := more.shorter; simp only [List.length_cons]; omega⟩
          | left => .error (.flaw .comma left.length)
      | left => .error (.flaw .colon left.length)
  | left => .error (.flaw .propertyName left.length)
termination_by 2 * cs.length + 1
decreasing_by all_goals simp only [List.length_cons]; omega

end

/-- The value of a whole text. -/
def read (text : List Char) : Except Fault Json :=
  if text.head? = some '\ufeff' then .error (.flaw .byteOrderMark text.length)
  else
    match readValue (skipSpace text) with
    | .error e => .error e
    | .ok s =>
      match skipSpace s.rest with
      | [] => .ok s.value
      | left => .error (.flaw .extra left.length)

end Bindery.Json
