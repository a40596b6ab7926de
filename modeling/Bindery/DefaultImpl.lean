import Bindery.Guard

/-! # Default values

A type whose constructor `new` always returns a value has a default: what `new` gives without
arguments, or else, for a type with a builder, an object with the default properties.
-/

namespace Bindery

/-- What is known of a function of a type. -/
structure Function where
  name : String
  parameterCount : Int := 0
  hidden : Bool := false
  needGenerate : Bool := true
  returnsValue : Bool := true
  nullable : Bool := false
  version : Option Version := none
deriving DecidableEq

/-- A visible, generated `new` whose result is never null. -/
def Function.isDefaultConstructor (f : Function) : Bool :=
  !f.hidden && f.needGenerate && f.name == "new" && f.returnsValue && !f.nullable

/-- The first function that can make a default value. -/
def defaultConstructor? (fs : List Function) : Option Function :=
  fs.find? Function.isDefaultConstructor

/-- The expression of the default value that a constructor allows. -/
def defaultBody? (env : Env) (f : Function) (hasBuilder : Bool) : Option String :=
  if f.parameterCount = 0 then some "Self::new()"
  else if hasBuilder then some (env.glibPath "object::Object" ++ "::new::<Self>(&[])")
  else none

namespace Emit

/-- The implementation of `Default` for a type, under the guard of its constructor. -/
def defaultImpl (env : Env) (typeName : String) (fs : List Function) (hasBuilder : Bool) :
    Emit Unit :=
  match defaultConstructor? fs with
  | none => pure ()
  | some f =>
    match defaultBody? env f hasBuilder with
    | none => pure ()
    | some body => do
      line ""
      versionCondition env none f.version {}
      line ("impl Default for " ++ typeName ++ " \x7b")
      line "\tfn default() -> Self \x7b"
      line ("\t\t" ++ body)
      line "\t\x7d"
      line "\x7d"

end Emit

end Bindery
