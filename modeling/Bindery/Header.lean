import Bindery.Config
import Bindery.Emit

/-! # File headers

A generated file names the descriptions that it comes from, either with their revisions or, when
these stand in a file of their own, without.
-/

namespace Bindery

namespace Provenance

/-- The description, and its repository where that is known. -/
def brief (p : Provenance) : String :=
  "from " ++ p.dir ++
    match p.repository with
    | none => ""
    | some url => " (" ++ url ++ ")"

/-- The description with its revision; without a revision the repository is left out too. -/
def exact (p : Provenance) : String :=
  "from " ++ p.dir ++
    match p.hash, p.repository with
    | none, _ => ""
    | some hash, none => " (@ " ++ hash ++ ")"
    | some hash, some url => " (" ++ url ++ " @ " ++ hash ++ ")"

end Provenance

namespace Emit

/-- The version of the generator and the revision of every description. -/
def versions (c : Config) (lead : String) : Emit Unit := do
  line (lead ++ "Generated by " ++ generatorName ++ " @ " ++ c.generatorVersion)
  eachLine (c.sources.map fun p => lead ++ p.exact)

/-- A header without revisions. -/
def headerNoVersions (c : Config) : Emit Unit := do
  line ("// This file was generated by " ++ generatorName)
  eachLine (c.sources.map fun p => "// " ++ p.brief)
  line "// DO NOT EDIT"

/-- The header of a file. -/
def header (c : Config) : Emit Unit :=
  if c.versionFile.isSome then headerNoVersions c
  else do
    versions c "// "
    line "// DO NOT EDIT"

/-- The contents of the file that holds the revisions. -/
def versionsFile (c : Config) : Emit Unit := versions c ""

end Emit

end Bindery
