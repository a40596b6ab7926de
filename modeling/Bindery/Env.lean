import Bindery.Config
import Bindery.Library

/-! # The environment of a run

What every renderer may look up: the library, the configuration, and from them the baseline of a
namespace, the tag of its features, and paths to the crates that bind it.
-/

namespace Bindery

/-- The library and the configuration. -/
structure Env where
  library : Library
  config : Config := {}

namespace Env

/-- The version that a namespace guarantees. The one being bound has the configured version. -/
def baseline (env : Env) (ns : Option Int) : Except InternalError (Option Version) :=
  match ns with
  | none => .ok env.config.minVersion
  | some id =>
    if id = mainId then .ok env.config.minVersion
    else (env.library.findNamespace id).map (·.minVersion)

/-- The tag in front of the features of a namespace; the one being bound has none. -/
def crateTag (env : Env) (ns : Option Int) : Except InternalError (Option String) :=
  match ns with
  | none => .ok none
  | some id =>
    if id = mainId then .ok none else (env.library.findNamespace id).map (some ·.crateName)

/-- Whether a version is guaranteed by the baseline of the namespace. -/
def guarantees (env : Env) (ns : Option Int) (version : Option Version) :
    Except InternalError Bool :=
  match version with
  | none => .ok false
  | some v => (env.baseline ns).map fun b => b.any (v ≤ ·)

/-- The sys crate of the namespace being bound. -/
def mainSysCrate (env : Env) : Except InternalError String :=
  (env.library.findNamespace mainId).map (·.sysCrateName)

/-- The path to an item of the glib crate, seen from the crate being bound. -/
def glibPath (env : Env) (item : String) : String :=
  (if env.library.isGlib then "crate" else "glib") ++ "::" ++ item

/-- The path to the sys crate of a type. The one for objects is reached through glib. -/
def sysCratePath (env : Env) (id : TypeId) : Except InternalError String :=
  (env.library.findNamespace id.ns).map fun n =>
    if n.sysCrateName = "gobject_ffi" then env.glibPath n.sysCrateName else n.sysCrateName

end Env

end Bindery
