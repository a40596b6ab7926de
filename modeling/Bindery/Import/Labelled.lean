import Bindery.Import.Group

/-! # Imports under labels

The imports of a description, whose names and constraints may be other values than texts. They are
kept and grouped like any others as far as labels can be put in order, and written up to the first
that is no text.
-/

namespace Bindery

/-! ## Texts -/

/-- The scope with its constraints as texts. -/
def Scope.texts? (s : Scope Label) : Option (Scope String) :=
  (s.constraints.mapM Label.text?).map fun cs => ⟨cs, s.version⟩

/-- The imports with their names and constraints as texts. -/
def Imports.texts? (i : Imports Label) : Option (Imports String) :=
  (i.entries.mapM fun (e : Label × Scope Label) => do
    return (← Label.text? e.1, ← e.2.texts?)).map Imports.mk

/-- The group with the constraints of its scope as texts. -/
def ImportGroup.texts (g : ImportGroup Label) : Except InternalError (ImportGroup String) :=
  match g.key.scope with
  | none => .ok ⟨⟨g.key.crate, none⟩, g.symbols⟩
  | some s =>
    match s.texts? with
    | some t => .ok ⟨⟨g.key.crate, some t⟩, g.symbols⟩
    | none => (Cause.unfit .operand).throw

/-! ## Order -/

/-- Asks for a name, where the name can be looked up and the constraints put in order, those already
known included. -/
def Imports.addLabel? (i : Imports Label) (name : Label) (version : Option Version)
    (constraints : List Label) : Option (Imports Label) :=
  if name.isPlain && constraints.all Label.isPlain && Label.areSortable constraints then
    let after := i.add name version constraints
    if (after.scope? name).all fun s => Label.areSortable s.constraints then some after else none
  else none

/-- The entries by increasing name, where the names can be put in order. -/
def Imports.sorted? (i : Imports Label) : Option (List (Label × Scope Label)) :=
  if Label.areSortable (i.entries.map (·.1)) then some i.entries else none

/-- The first constraint of a group that has one. -/
def ImportGroup.firstConstraint? (g : ImportGroup Label) : Option Label :=
  g.key.scope.bind fun s => s.constraints.head?

/-- Whether groups can be put in order: constraints decide within one crate. -/
def ImportGroup.areSortable (gs : List (ImportGroup Label)) : Bool :=
  gs.all fun g => Label.areSortable
    ((gs.filter fun h => h.key.crate == g.key.crate).filterMap firstConstraint?)

/-- The names as requests. -/
def Imports.labelRequests (i : Imports Label) :
    Except InternalError (List (ImportRequest Label)) :=
  match i.sorted? with
  | none => (Cause.unfit .operand).throw
  | some entries =>
    entries.mapM fun e =>
      match Label.text? e.1 with
      | some name => ImportRequest.ofName name e.2
      | none => (Cause.unfit .property).throw

namespace Emit

/-- Groups up to the first one with a constraint that is no text. -/
def labelGroups (env : Env) : List (ImportGroup Label) → Emit Unit
  | [] => pure ()
  | g :: gs => do
    importGroup env (← g.texts)
    labelGroups env gs

/-- Imports under labels, behind an empty line. -/
def labelUses (env : Env) (i : Imports Label) : Emit Unit := do
  line ""
  let groups := ImportGroup.aggregate env (← i.labelRequests) none
  if ImportGroup.areSortable groups then labelGroups env groups
  else (Cause.unfit .operand).throw

end Emit

end Bindery
