import Bindery.DefaultImpl
import Bindery.Header
import Bindery.Import.Labelled
import Bindery.Wrapper.Render

/-! # A module of bindings

The pieces of a generated module and their order: the header, the imports, and for each wrapper
its declaration and its default value.
-/

namespace Bindery

/-- A wrapper, the functions of its type, and whether the type has a builder. -/
structure WrapperSpec where
  info : Wrapper.Info
  kind : Wrapper.Kind
  functions : List Function := []
  hasBuilder : Bool := false

/-- Everything that a module is generated from. -/
structure Bindings where
  env : Env
  imports : Imports Label := {}
  wrappers : List WrapperSpec := []

namespace Emit

/-- Announces a stage of the work. -/
def stage (what : String) (subject : Option String) : Emit Unit := log (Log.stage what subject)

/-- One wrapper. Shapes without an empty line of their own get one. -/
def wrapper (env : Env) (w : WrapperSpec) : Emit Unit := do
  stage "Rendering wrapper" w.info.typeName.subject?
  if w.kind.isSeparated then pure () else line ""
  Wrapper.render env w.info w.kind
  defaultImpl env w.info.typeName.display w.functions w.hasBuilder

/-- Wrappers one after the other. -/
def wrappers (env : Env) : List WrapperSpec → Emit Unit
  | [] => pure ()
  | w :: ws => do
    wrapper env w
    wrappers env ws

/-- The imports of a module that has any. -/
def importBlock (env : Env) (imports : Imports Label) : Emit Unit :=
  if imports.size = 0 then pure ()
  else do
    stage "Rendering imports" none
    match imports.texts? with
    | some i => uses env i none
    | none => labelUses env imports

/-- The whole module. -/
def bindings (b : Bindings) : Emit Unit := do
  stage "Writing header" none
  header b.env.config
  importBlock b.env b.imports
  wrappers b.env b.wrappers

end Emit

end Bindery
