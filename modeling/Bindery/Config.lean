import Bindery.Version

/-! # Configuration of a run -/

namespace Bindery

/-- The name that is written into headers. -/
def generatorName : String := "wrapgen"

/-- Where a library description came from. -/
structure Provenance where
  dir : String
  repository : Option String := none
  hash : Option String := none
deriving DecidableEq

/-- What one run is told. Symbols no newer than `minVersion` are never guarded; without it every
version is. With a `versionFile`, headers name the sources only. -/
structure Config where
  minVersion : Option Version := some ⟨0, 0, 0⟩
  sources : List Provenance := []
  versionFile : Option String := none
  generatorVersion : String := "0.1.0"

end Bindery
