/-! # Cfg predicates

A predicate is a flag, a key with a value, or an operator over predicates. Trees may also come
from elsewhere than the parser, so an operator may have any name and any number of arguments, and
a node may be of no known kind; evaluation says where such a tree has no value.
-/

namespace Bindery

/-- A condition on the settings under which code is compiled. -/
inductive Predicate
  /-- A bare flag. -/
  | name (name : String)
  /-- A key that must have a value. -/
  | keyValue (key value : String)
  /-- An operator over predicates. -/
  | call (op : String) (args : List Predicate)
  /-- A node of no known kind. -/
  | unknown
deriving Inhabited

namespace Predicate

/-- The cargo features and bare flags that are enabled. -/
structure Settings where
  feature : String → Bool
  flag : String → Bool

/-- Why a tree has no value. -/
inductive EvalFault
  /-- A negation has no argument. -/
  | noArgument
  /-- A node of no known kind was reached. -/
  | unknownNode
deriving DecidableEq

mutual

/-- The value of a predicate. An operator other than `any` and `all` negates its first argument. -/
def evaluate (s : Settings) : Predicate → Except EvalFault Bool
  | name n => .ok (s.flag n)
  | keyValue key value => .ok (key == "feature" && s.feature value)
  | call op args =>
    if op = "any" then evaluateAny s args
    else if op = "all" then evaluateAll s args
    else evaluateNot s args
  | unknown => .error .unknownNode

/-- Whether one of the predicates holds, looked at up to the first that does. -/
def evaluateAny (s : Settings) : List Predicate → Except EvalFault Bool
  | [] => .ok false
  | p :: ps =>
    match evaluate s p with
    | .error e => .error e
    | .ok true => .ok true
    | .ok false => evaluateAny s ps

/-- Whether all of the predicates hold, looked at up to the first that does not. -/
def evaluateAll (s : Settings) : List Predicate → Except EvalFault Bool
  | [] => .ok true
  | p :: ps =>
    match evaluate s p with
    | .error e => .error e
    | .ok true => evaluateAll s ps
    | .ok false => .ok false

/-- The negation of the first predicate. -/
def evaluateNot (s : Settings) : List Predicate → Except EvalFault Bool
  | [] => .error .noArgument
  | p :: _ => (evaluate s p).map (!·)

end

end Predicate

end Bindery
