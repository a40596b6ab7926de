import Bindery.Predicate.Basic
import Bindery.Predicate.Token

/-! # Reading a predicate

    predicate := name
               | name '=' "string"
               | ('any' | 'all' | 'not') '(' [predicate (',' predicate)* [',']] ')'

where `not` takes exactly one predicate. A step of the parser returns tokens that are fewer than
those it was given, which is why reading ends.
-/

namespace Bindery.Predicate

/-- Why a text has no value. -/
inductive Failure
  /-- The text is not a predicate. -/
  | refused (e : Located)
  /-- A token was wanted after the last one. -/
  | pastEnd
  /-- The tree has no value. -/
  | fault (e : EvalFault)
deriving DecidableEq

/-- What was read from the front of some tokens, and the rest, which is shorter. -/
structure Step (α : Type) (ts : List Token) where
  value : α
  rest : List Token
  shorter : rest.length < ts.length

/-- Another kind of token was needed than the one that stands there. -/
def wanted {α : Type} (kind : TokenKind) (t : Token) : Except Failure α :=
  .error (.refused ⟨.expected kind t.kind, t.pos⟩)

/-- The names of the operators. -/
def isOperator (name : String) : Bool := name == "any" || name == "all" || name == "not"

mutual

/-- Reads one predicate. -/
def parsePredicate (ts : List Token) : Except Failure (Step Predicate ts) :=
  match ts with
  | [] => .error .pastEnd
  | t :: after =>
    if t.kind ≠ .ident then wanted .ident t
    else match after with
    | [] => .error .pastEnd
    | next :: rest =>
      if next.kind = .eq then
        match rest with
        | [] => .error .pastEnd
        | v :: rest =>
          if v.kind = .string then
            .ok ⟨.keyValue t.text v.text, rest, by simp only [List.length_cons]; omega⟩
          else wanted .string v
      else if next.kind = .lparen then
        if isOperator t.text then
          match parseArguments rest with
          | .error e => .error e
          | .ok args =>
            if t.text = "not" ∧ args.value.length ≠ 1 then .error (.refused ⟨.notArity, t.pos⟩)
            else .ok ⟨.call t.text args.value, args.rest, by
              have := args.shorter; simp only [List.length_cons]; omega⟩
        else .error (.refused ⟨.unknownOperator t.text, t.pos⟩)
      else .ok ⟨.name t.text, next :: rest, by simp⟩
termination_by 2 * ts.length

/-- Reads predicates up to the closing parenthesis and past it. -/
def parseArguments (ts : List Token) : Except Failure (Step (List Predicate) ts) :=
  match ts with
  | [] => .error .pastEnd
  | t :: after =>
    if t.kind = .rparen then .ok ⟨[], after, by simp⟩
    else match parsePredicate (t :: after) with
    | .error e => .error e
    | .ok ⟨_, [], _⟩ => .error .pastEnd
    | .ok ⟨p, next :: rest, h⟩ =>
      have : rest.length + 1 < after.length + 1 := h
      if next.kind = .comma then
        match parseArguments rest with
        | .error e => .error e
        | .ok more => .ok ⟨p :: more.value, more.rest, by
            have := more.shorter; simp only [List.length_cons]; omega⟩
      else if next.kind = .rparen then
        .ok ⟨[p], rest, by simp only [List.length_cons]; omega⟩
      else wanted .rparen next
termination_by 2 * ts.length + 1

end

/-- The tree of a whole text. -/
def parse (text : String) : Except Failure Predicate :=
  match tokenize text with
  | .error e => .error (.refused e)
  | .ok ts =>
    match parsePredicate ts with
    | .error e => .error e
    | .ok ⟨_, [], _⟩ => .error .pastEnd
    | .ok ⟨p, t :: _, _⟩ => if t.kind = .eof then .ok p else wanted .eof t

/-- Whether the predicate that a text holds is true. -/
def isActive (s : Settings) (text : String) : Except Failure Bool :=
  match parse text with
  | .error e => .error e
  | .ok p =>
    match evaluate s p with
    | .error e => .error (.fault e)
    | .ok b => .ok b

end Bindery.Predicate
