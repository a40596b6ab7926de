import Bindery.Text.Blank
import Bindery.Text.Quoted
import Bindery.Text.Word

/-! # Tokens of a predicate

A text is cut into words, string literals and punctuation, with blanks between them left out and
an end token after the last. Each token knows the offset of its first character.
-/

namespace Bindery.Predicate

open Text

/-- What a token is. -/
inductive TokenKind
  | ident
  | string
  | eq
  | lparen
  | rparen
  | comma
  | eof
deriving DecidableEq

/-- The name of a kind in messages. -/
def TokenKind.name : TokenKind → String
  | ident => "IDENT"
  | string => "STRING"
  | eq => "EQ"
  | lparen => "LPAREN"
  | rparen => "RPAREN"
  | comma => "COMMA"
  | eof => "EOF"

/-- A token: its kind, its text, and the offset at which it begins. -/
structure Token where
  kind : TokenKind
  text : String
  pos : Nat
deriving DecidableEq

/-- Why a text is not a predicate. -/
inductive Refusal
  /-- A string literal has no closing quote. -/
  | unterminated
  /-- A character begins no token. -/
  | unexpected (c : Char)
  /-- Another kind of token was needed. -/
  | expected (wanted got : TokenKind)
  /-- A name other than `any`, `all` and `not` is used as an operator. -/
  | unknownOperator (op : String)
  /-- A negation of no predicate, or of several. -/
  | notArity
deriving DecidableEq

/-- A refusal and the offset that it is about. -/
structure Located where
  refusal : Refusal
  pos : Nat
deriving DecidableEq

/-- The text of a refusal, its code in front. -/
def Refusal.message : Refusal → String
  | unterminated => "[CFG-0010] unterminated string"
  | unexpected c => "[CFG-0020] unexpected character " ++ quoted (String.singleton c)
  | expected wanted got => "[CFG-0030] expected " ++ wanted.name ++ ", got " ++ got.name
  | unknownOperator op => "[CFG-0040] unknown cfg operator '" ++ op ++ "'"
  | notArity => "[CFG-0050] not() takes exactly one predicate"

/-- The message with its offset. -/
def Located.message (e : Located) : String :=
  e.refusal.message ++ " at offset " ++ toString e.pos

/-- Characters that are tokens by themselves. -/
def punctuation? (c : Char) : Option TokenKind :=
  if c = '=' then some .eq
  else if c = '(' then some .lparen
  else if c = ')' then some .rparen
  else if c = ',' then some .comma
  else none

/-- What stands after an opening quote: the value, the number of characters through the closing
quote, and the rest. -/
structure Literal where
  value : List Char
  width : Nat
  rest : List Char

/-- One more character of a value, written in `width` characters. -/
def Literal.cons (c : Char) (width : Nat) (l : Literal) : Literal :=
  ⟨c :: l.value, width + l.width, l.rest⟩

/-- Reads up to the closing quote. A backslash takes the next character as it is. -/
def literal? : List Char → Option Literal
  | [] => none
  | '"' :: rest => some ⟨[], 1, rest⟩
  | '\\' :: c :: rest => (literal? rest).map (.cons c 2)
  | c :: rest => (literal? rest).map (.cons c 1)

theorem literal?_length {cs : List Char} {l : Literal} (h : literal? cs = some l) :
    l.width + l.rest.length = cs.length := by
  fun_induction literal? cs generalizing l with
  | case1 => simp at h
  | case2 rest => cases h; simp [Nat.add_comm]
  | case3 c rest ih =>
    obtain ⟨m, hm, rfl⟩ := Option.map_eq_some_iff.1 h
    have := ih hm
    simp only [Literal.cons, List.length_cons]
    omega
  | case4 c rest _ _ ih =>
    obtain ⟨m, hm, rfl⟩ := Option.map_eq_some_iff.1 h
    have := ih hm
    simp only [Literal.cons, List.length_cons]
    omega

theorem length_dropWhile_le (p : Char → Bool) (cs : List Char) :
    (cs.dropWhile p).length ≤ cs.length := (List.dropWhile_sublist p).length_le

/-- The tokens of a text whose first character has the offset `pos`. -/
def tokensFrom (pos : Nat) (cs : List Char) : Except Located (List Token) :=
  match cs with
  | [] => .ok [⟨.eof, "", pos⟩]
  | c :: rest =>
    if isBlank c then tokensFrom (pos + 1) rest
    else match punctuation? c with
    | some kind =>
      (tokensFrom (pos + 1) rest).map (⟨kind, String.singleton c, pos⟩ :: ·)
    | none =>
      if c = '"' then
        match h : literal? rest with
        | none => .error ⟨.unterminated, pos⟩
        | some l =>
          have : l.rest.length < rest.length + 1 := by have := literal?_length h; omega
          (tokensFrom (pos + 1 + l.width) l.rest).map (⟨.string, String.ofList l.value, pos⟩ :: ·)
      else if isWordChar c then
        let word := c :: rest.takeWhile isWordChar
        have : (rest.dropWhile isWordChar).length < rest.length + 1 := by
          have := length_dropWhile_le isWordChar rest; omega
        (tokensFrom (pos + word.length) (rest.dropWhile isWordChar)).map
          (⟨.ident, String.ofList word, pos⟩ :: ·)
      else .error ⟨.unexpected c, pos⟩
termination_by cs.length

/-- The tokens of a text, the last of them the end. -/
def tokenize (text : String) : Except Located (List Token) := tokensFrom 0 text.toList

end Bindery.Predicate
