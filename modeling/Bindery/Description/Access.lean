import Bindery.Attribute
import Bindery.Label
import Bindery.Text.Search
import Bindery.Version

/-! # Looking into a description

What can be wrong with a description, and the ways in which its values are looked into. Faults
that a description may well have carry a code; a value that cannot be looked into at all, such as
a number in the place of an object, is a misuse.
-/

namespace Bindery.Description

/-- Why a description is refused. `place` says where in it. -/
inductive Refusal
  /-- The file is not JSON. -/
  | notJson (path reason : String)
  /-- The file holds another value than an object. -/
  | notObject (path : String)
  | missingKey (place key : String)
  /-- There is no namespace to bind. -/
  | noNamespace
  | badVersion (place : String) (reason : Version.ParseError)
  | unknownNamespace (place name : String)
  | unknownTypeKind (place kind : String)
  | unknownAncestor (place ns name : String)
  | unknownStatus (place status : String)
  | unknownVisibility (place text : String)
  | unknownWrapperKind (place kind : String)
deriving DecidableEq

namespace Refusal

/-- The code of a refusal. -/
def code : Refusal → String
  | notJson _ _ => "DSC-0001"
  | notObject _ => "DSC-0002"
  | missingKey _ _ => "DSC-0010"
  | noNamespace => "DSC-0011"
  | badVersion _ _ => "DSC-0020"
  | unknownNamespace _ _ => "DSC-0030"
  | unknownTypeKind _ _ => "DSC-0040"
  | unknownAncestor _ _ _ => "DSC-0050"
  | unknownStatus _ _ => "DSC-0060"
  | unknownVisibility _ _ => "DSC-0070"
  | unknownWrapperKind _ _ => "DSC-0080"

/-- What is wrong, and where. -/
def details : Refusal → String
  | notJson path reason => path ++ ": invalid JSON: " ++ reason
  | notObject path => path ++ ": top level must be an object"
  | missingKey place key => place ++ ": missing key '" ++ key ++ "'"
  | noNamespace => "description: at least the main namespace is required"
  | badVersion place reason => place ++ ": " ++ reason.message
  | unknownNamespace place name => place ++ ": unknown namespace '" ++ name ++ "'"
  | unknownTypeKind place kind => place ++ ": unknown type kind '" ++ kind ++ "'"
  | unknownAncestor place ns name => place ++ ": unknown ancestor '" ++ ns ++ "." ++ name ++ "'"
  | unknownStatus place status => place ++ ": unknown ancestor status '" ++ status ++ "'"
  | unknownVisibility place text => place ++ ": " ++ Visibility.unknownMessage text
  | unknownWrapperKind place kind => place ++ ": unknown wrapper kind '" ++ kind ++ "'"

/-- The text of a refusal, its code in front. -/
def message (r : Refusal) : String := "[" ++ r.code ++ "] " ++ r.details

end Refusal

/-- Why a description cannot be read. -/
inductive Failure
  | refused (r : Refusal)
  | misused (m : Misuse)
  /-- An integer of the file has too many digits. -/
  | hugeNumber (digits : Nat)
deriving DecidableEq

/-- Refuses a description. -/
def refuse {α : Type} (r : Refusal) : Except Failure α := .error (.refused r)

/-- Fails on a value that is not fit for its use. -/
def misuse {α : Type} (m : Misuse) : Except Failure α := .error (.misused m)

/-- The value of a key that must be there. Texts and arrays are searched for the key as well,
but have no value for it. -/
def require (v : Json) (key place : String) : Except Failure Json :=
  match v with
  | .object ms =>
    match Json.member? key ms with
    | some x => .ok x
    | none => refuse (.missingKey place key)
  | .array items =>
    if items.any (Json.same (.string key)) then misuse .operand
    else refuse (.missingKey place key)
  | .string s =>
    if Text.occursIn key.toList s.toList then misuse .operand else refuse (.missingKey place key)
  | _ => misuse .operand

/-- The value of a key, or else the given one. A key with the value null is there. -/
def getD (v : Json) (key : String) (fallback : Json) : Except Failure Json :=
  match v with
  | .object ms => .ok ((Json.member? key ms).getD fallback)
  | _ => misuse .property

/-- The value of a key, or else null. -/
def get (v : Json) (key : String) : Except Failure Json := getD v key .null

/-- The items of a value: of an array its own, of an object its keys, of a text its characters. -/
def items (v : Json) : Except Failure (List Json) :=
  match v with
  | .array xs => .ok xs
  | .object ms => .ok (ms.map fun m => .string m.1)
  | .string s => .ok (s.toList.map fun c => .string (String.singleton c))
  | _ => misuse .operand

/-- The items at a key; none when the key is missing. -/
def itemsAt (v : Json) (key : String) : Except Failure (List Json) := do
  items (← getD v key (.array []))

/-- The characters of a text. -/
def text (v : Json) : Except Failure String :=
  match v with
  | .string s => .ok s
  | _ => misuse .property

/-- A version, which may be written as a number; null is none. -/
def version (v : Json) (place : String) : Except Failure (Option Version) :=
  match v with
  | .null => .ok none
  | v =>
    match Version.parse v.display with
    | .ok w => .ok (some w)
    | .error e => refuse (.badVersion place e)

/-- The version at a key. -/
def versionAt (v : Json) (key place : String) : Except Failure (Option Version) := do
  version (← get v key) place

end Bindery.Description
