import Bindery.Import.Basic

/-! # Groups of imports

Symbols of one crate with one scope stand in one `use` statement. Groups are in order of crate,
those without a scope first, and then of scope; the symbols of a group are increasing.
-/

namespace Bindery

/-- What the symbols of a group have in common. -/
structure GroupKey (κ : Type) where
  crate : String
  scope : Option (Scope κ)
deriving DecidableEq

/-- The crate decides before the scope. -/
def GroupKey.compare {κ : Type} [Ord κ] (k l : GroupKey κ) : Ordering :=
  (Ord.compare k.crate l.crate).then (compareScopes k.scope l.scope)

/-- Symbols under one key. -/
structure ImportGroup (κ : Type) where
  key : GroupKey κ
  symbols : List String
deriving DecidableEq

namespace ImportGroup

variable {κ : Type} [Ord κ]

/-- Puts a symbol into the group of its key. -/
def addSymbol (key : GroupKey κ) (symbol : String) :
    List (GroupKey κ × List String) → List (GroupKey κ × List String) :=
  Ordered.alter GroupKey.compare key fun symbols => Ordered.insert compare symbol (symbols.getD [])

/-- The key of a request inside an item of a version. -/
def keyOf (env : Env) (outer : Option Version) (r : ImportRequest κ) : GroupKey κ :=
  ⟨r.crate, r.scope.normalize? env outer⟩

/-- The groups of some requests. -/
def aggregate (env : Env) (rs : List (ImportRequest κ)) (outer : Option Version) :
    List (ImportGroup κ) :=
  (rs.foldl (fun groups r => addSymbol (keyOf env outer r) r.symbol groups) []).map
    fun g => ⟨g.1, g.2⟩

/-- The statement that imports a group. -/
def useLine (g : ImportGroup κ) : String :=
  "use " ++ g.key.crate ++ "::\x7b" ++ ",".intercalate g.symbols ++ "\x7d;"

end ImportGroup

/-- The predicate that documentation shows for some constraints. -/
def docsConstraint : List String → String
  | [c] => c
  | cs => "any(" ++ ", ".intercalate cs ++ ")"

namespace Emit

/-- The attributes of the constraints of a scope, where it has any. -/
def constraintAttributes (cs : List String) : Emit Unit :=
  if cs.isEmpty then pure ()
  else do
    line ((Guard.mk (", ".intercalate cs)).compileAttribute {})
    line ((Guard.mk (docsConstraint cs)).docAttribute {})

/-- The attributes of a scope. -/
def scopeAttributes (env : Env) (s : Scope String) : Emit Unit := do
  constraintAttributes s.constraints
  versionConditionNoDoc env none s.version {}

/-- A group under the attributes of its scope. -/
def importGroup (env : Env) (g : ImportGroup String) : Emit Unit := do
  match g.key.scope with
  | none => pure ()
  | some s => scopeAttributes env s
  line g.useLine

/-- Groups one after the other. -/
def importGroups (env : Env) : List (ImportGroup String) → Emit Unit
  | [] => pure ()
  | g :: gs => do
    importGroup env g
    importGroups env gs

/-- The imports of a module, behind an empty line. -/
def uses (env : Env) (imports : Imports String) (outer : Option Version) : Emit Unit := do
  line ""
  let rs ← imports.requests
  importGroups env (ImportGroup.aggregate env rs outer)

end Emit

end Bindery
