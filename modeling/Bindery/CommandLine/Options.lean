import Bindery.Text.Digit
import Bindery.Text.Search

/-! # Options on a command line

An argument that begins with a dash is an option if one has its name. A long name may be cut
short where only one begins so, a value may follow its option behind an equals sign, and short
flags may share a dash or stand behind an equals sign. A number with a minus sign, and what has a
space in it, are no options, and after two dashes nothing is.
-/

namespace Bindery.CommandLine

open Text

/-- Why a command line is not carried out. -/
inductive Rejection
  /-- The user asked for help. -/
  | help
  /-- The arguments do not fit the command. -/
  | usage
deriving DecidableEq

/-- What an option means. `κ` holds the keys of the options that a command looks up. -/
inductive Meaning (κ : Type)
  | help
  | flag (key : κ)
  /-- A value goes with the option. -/
  | valued (key : κ)

/-- An option and its names, dashes included. -/
structure OptionSpec (κ : Type) where
  names : List String
  meaning : Meaning κ

/-- One thing that a command line says. -/
inductive Item (κ : Type)
  | positional (text : String)
  /-- The arguments behind two dashes, all of them positional. -/
  | separated (rest : List String)
  /-- An option with its value; a flag has none, and neither has an option attached to two
  dashes. -/
  | given (key : κ) (value : Option String)
  | help
  /-- An option that the command does not have. -/
  | unknown
  /-- An option without its value, or with something attached that is none. -/
  | broken

/-- Options in one argument: what they say, and the key that still wants a value. -/
structure Group (κ : Type) where
  items : List (Item κ)
  wanting : Option κ := none

/-- What an argument is. -/
inductive Argument (κ : Type)
  | positional
  /-- The two dashes behind which all is positional. -/
  | separator
  | options (group : Group κ)
  /-- A shortened name that several names begin with. -/
  | ambiguous

section

variable {κ : Type}

/-- What a name means. -/
def meaning? (specs : List (OptionSpec κ)) (name : String) : Option (Meaning κ) :=
  (specs.find? fun s => s.names.contains name).map (·.meaning)

/-- The options that a shortened name may mean, once for each of their names. -/
def abbreviated (specs : List (OptionSpec κ)) (start : List Char) : List (Meaning κ) :=
  specs.flatMap fun s =>
    (s.names.filter fun name => start.isPrefixOf name.toList).map fun _ => s.meaning

/-! ## Options in one argument -/

/-- An option by itself. -/
def Meaning.alone : Meaning κ → Group κ
  | .help => ⟨[.help], none⟩
  | .flag key => ⟨[.given key none], none⟩
  | .valued key => ⟨[], some key⟩

/-- An option with a value attached to it. Two dashes are no value. -/
def withValue (key : κ) (text : List Char) : Group κ :=
  ⟨[.given key (if text = ['-', '-'] then none else some (String.ofList text))], none⟩

/-- Short options that share a dash, if all of them are options. The first that takes a value has
the rest for it. -/
def cluster? (specs : List (OptionSpec κ)) : List Char → Option (Group κ)
  | [] => some ⟨[], none⟩
  | c :: rest => do
    match ← meaning? specs (String.ofList ['-', c]) with
    | .valued key => return if rest.isEmpty then (Meaning.valued key).alone else withValue key rest
    | m => (cluster? specs rest).map fun g => { g with items := m.alone.items ++ g.items }

/-- A long option with something attached to it, which must be its value. -/
def Meaning.assigned? (text : List Char) : Meaning κ → Option (Group κ)
  | .valued key => some (withValue key text)
  | _ => none

/-- A short option with something attached to it: its value, or more options. -/
def Meaning.joined? (specs : List (OptionSpec κ)) (letter : Char) (text : List Char) :
    Meaning κ → Option (Group κ)
  | .valued key => some (withValue key text)
  | _ => if text.isEmpty then none else cluster? specs (letter :: text)

/-- Whether all characters are decimal digits. -/
def allDecimal (cs : List Char) : Bool := cs.all fun c => (decimalValue? c).isSome

/-- Whether the characters behind a minus sign make it a number. A line feed at the end is not
looked at. -/
def isNumeral (cs : List Char) : Bool :=
  let cs := if cs.getLast? = some '\n' then cs.dropLast else cs
  match splitFirst? ['.'] cs with
  | none => !cs.isEmpty && allDecimal cs
  | some (whole, fraction) => allDecimal whole && !fraction.isEmpty && allDecimal fraction

/-- An argument that begins with a dash and has no option's name. -/
def unnamed (cs : List Char) : Argument κ :=
  if isNumeral (cs.drop 1) || cs.contains ' ' then .positional else .options ⟨[.unknown], none⟩

/-- The options of an argument; what is attached to one of them may be no good. -/
def Argument.ofGroup (g : Option (Group κ)) : Argument κ := .options (g.getD ⟨[.broken], none⟩)

/-- An argument that begins with two dashes: a name, perhaps shortened, and perhaps a value. -/
def classifyLong (specs : List (OptionSpec κ)) (cs : List Char) : Argument κ :=
  let (start, value) := match splitFirst? ['='] cs with
    | some (start, value) => (start, some value)
    | none => (cs, none)
  match abbreviated specs start, value with
  | [], _ => unnamed cs
  | [m], some text => .ofGroup (m.assigned? text)
  | [m], none => .options m.alone
  | _, _ => .ambiguous

/-- An argument of one dash and a letter, with something attached. -/
def classifyShort (specs : List (OptionSpec κ)) (letter : Char) (text : List Char) : Argument κ :=
  match meaning? specs (String.ofList ['-', letter]) with
  | some m => .ofGroup (m.joined? specs letter text)
  | none => unnamed ('-' :: letter :: text)

/-- An argument with the whole name of an option before an equals sign. -/
def assigned? (specs : List (OptionSpec κ)) (cs : List Char) : Option (Argument κ) := do
  let (name, text) ← splitFirst? ['='] cs
  let m ← meaning? specs (String.ofList name)
  match name with
  | ['-', letter] => return .ofGroup (m.joined? specs letter text)
  | _ => return .ofGroup (m.assigned? text)

/-- What an argument is. Whole names are tried before shortened ones. -/
def classify (specs : List (OptionSpec κ)) (arg : String) : Argument κ :=
  match arg.toList with
  | [] => .positional
  | ['-'] => .positional
  | ['-', '-'] => .separator
  | '-' :: c :: rest =>
    match meaning? specs arg with
    | some m => .options m.alone
    | none =>
      match assigned? specs ('-' :: c :: rest) with
      | some a => a
      | none =>
        if c = '-' then classifyLong specs ('-' :: c :: rest) else classifyShort specs c rest
  | _ => .positional

/-- Whether an argument is positional. -/
def isPositional (specs : List (OptionSpec κ)) (arg : String) : Bool :=
  match classify specs arg with
  | .positional => true
  | _ => false

/-- Whether a shortened name before the two dashes has several meanings. -/
def hasAmbiguous (specs : List (OptionSpec κ)) (args : List String) : Bool :=
  (args.takeWhile (· != "--")).any fun arg =>
    match classify specs arg with
    | .ambiguous => true
    | _ => false

/-! ## The arguments of a command -/

/-- What the arguments say, in order. Only a positional can be the value of the option before it. -/
def items (specs : List (OptionSpec κ)) : List String → List (Item κ)
  | [] => []
  | arg :: rest =>
    match classify specs arg with
    | .positional => .positional arg :: items specs rest
    | .separator => [.separated rest]
    | .ambiguous => [.broken]
    | .options ⟨said, none⟩ => said ++ items specs rest
    | .options ⟨said, some key⟩ =>
      match rest with
      | [] => [.broken]
      | value :: rest =>
        if isPositional specs value then said ++ .given key (some value) :: items specs rest
        else [.broken]

/-- The first item that ends the reading, if there is one. -/
def stop? (is : List (Item κ)) : Option Rejection :=
  is.findSome? fun
    | .help => some .help
    | .broken => some .usage
    | _ => none

/-- Whether all options are the command's own. -/
def allKnown (is : List (Item κ)) : Bool :=
  is.all fun
    | .unknown => false
    | _ => true

/-- The one positional of a command. Two dashes may stand before it, as the last argument but it,
or right behind it, as the last of all. -/
def onePositional? : List (Item κ) → Option String
  | [] => none
  | [.separated [p]] => some p
  | [.positional p, .separated []] => some p
  | .positional p :: rest =>
    if rest.all fun | .given _ _ => true | _ => false then some p else none
  | _ :: rest => onePositional? rest

/-- The options that are given, with their values, in order. -/
def givenOptions (is : List (Item κ)) : List (κ × Option String) :=
  is.filterMap fun
    | .given key value => some (key, value)
    | _ => none

end

end Bindery.CommandLine
