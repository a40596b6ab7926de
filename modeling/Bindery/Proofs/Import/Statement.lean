import Bindery.Proofs.Import.Grouping
import Bindery.Proofs.Import.Registered
import Bindery.Proofs.Import.Scope
import Bindery.Proofs.Result
import Mathlib.Data.List.Nodup

/-!
# Statements of a module

The imports of a module are printed as one statement a group, each under the attributes of its
scope.
-/

namespace Bindery

open Emit Predicate

/-- A statement as it stands in a module: its attributes, and the symbols of a crate that it
imports. -/
structure UseStatement where
  attributes : List String
  crate : String
  symbols : List String

namespace UseStatement

/-- The lines of a statement. -/
def lines (u : UseStatement) : List String :=
  u.attributes ++ ["use " ++ u.crate ++ "::\x7b" ++ ",".intercalate u.symbols ++ "\x7d;"]

/-- The qualified names that a statement imports. -/
def names (u : UseStatement) : List String := u.symbols.map (u.crate ++ "::" ++ ·)

/-- Whether all attributes of a statement let it be compiled. -/
def isCompiled (s : Settings) (u : UseStatement) : Bool := u.attributes.all (admits s)

end UseStatement

/-- The statement of a group. -/
def ImportGroup.statement (env : Env) (g : ImportGroup String) : UseStatement :=
  ⟨g.key.scope.elim [] (·.attributes env), g.key.crate, g.symbols⟩

/-! ## What is printed -/

theorem prints_importGroup (env : Env) (g : ImportGroup String) :
    Prints (importGroup env g) () (g.statement env).lines := by
  unfold importGroup UseStatement.lines ImportGroup.statement
  cases g.key.scope with
  | none => exact prints_line _
  | some sc => exact (prints_scopeAttributes env sc).bind (prints_line _)

theorem prints_importGroups (env : Env) (gs : List (ImportGroup String)) :
    Prints (importGroups env gs) () ((gs.map (·.statement env)).flatMap UseStatement.lines) := by
  induction gs with
  | nil => exact prints_pure ()
  | cons g gs ih => exact (prints_importGroup env g).bind ih

/-- The statements of some requests. -/
def statementsOf (env : Env) (outer : Option Version) (rs : List (ImportRequest String)) :
    List UseStatement := (ImportGroup.aggregate env rs outer).map (·.statement env)

theorem prints_uses (env : Env) {i : Imports String} {rs : List (ImportRequest String)}
    (h : i.requests = .ok rs) (outer : Option Version) :
    Prints (uses env i outer) ()
      ("" :: (statementsOf env outer rs).flatMap UseStatement.lines) :=
  (prints_line "").bind (.lift_bind h (prints_importGroups env _))

/-! ## What is imported -/

/-- The requests of imports have their names, in their order. -/
theorem names_of_requests {i : Imports String} {rs : List (ImportRequest String)}
    (h : i.requests = .ok rs) : rs.map ImportRequest.name = i.names := by
  have hentries : List.Forall₂ (fun (e : String × Scope String) r =>
      ImportRequest.ofName e.1 e.2 = .ok r) i.entries rs := mapM_eq_ok_iff.1 h
  clear h
  unfold Imports.names
  generalize i.entries = es at hentries
  induction hentries with
  | nil => rfl
  | cons hr _ ih => rw [List.map_cons, List.map_cons, (ofName_eq_ok hr).1, ih]

/-- As names come once each, so do requests. -/
theorem eq_of_name_eq {i : Imports String} {rs : List (ImportRequest String)}
    (hi : i.names.Pairwise (· < ·)) (h : i.requests = .ok rs) :
    ∀ r ∈ rs, ∀ q ∈ rs, r.name = q.name → r = q := by
  have hnodup : (rs.map ImportRequest.name).Nodup := by
    rw [names_of_requests h]
    exact hi.imp String.ne_of_lt
  exact fun r hr q hq hrq => List.inj_on_of_nodup_map hnodup hr hq hrq

section Names

variable {env : Env} {outer : Option Version} {rs : List (ImportRequest String)}

theorem mem_statementsOf {u : UseStatement} : u ∈ statementsOf env outer rs ↔
    ∃ g ∈ groupsOf env outer rs, ImportGroup.statement env ⟨g.1, g.2⟩ = u := by
  simp [statementsOf, ImportGroup.aggregate, groupsOf]

/-- A name in a group is that of a request, whose key is that of the group. -/
theorem request_of_mem {g : GroupKey String × List String} {name : String}
    (hg : g ∈ groupsOf env outer rs) (hname : name ∈ g.2.map (g.1.crate ++ "::" ++ ·)) :
    ∃ r ∈ rs, ImportGroup.keyOf env outer r = g.1 ∧ r.name = name := by
  obtain ⟨y, hy, rfl⟩ := List.mem_map.1 hname
  obtain ⟨r, hr, hkey, rfl⟩ := ((groups_groupsOf env outer rs).mem_iff g.1 y).1 ⟨g.2, hg, hy⟩
  refine ⟨r, hr, hkey, ?_⟩
  rw [← hkey]
  rfl

/-- A statement has the attributes of each name that it imports. -/
theorem attributes_of_mem {u : UseStatement} {name : String} (hu : u ∈ statementsOf env outer rs)
    (hname : name ∈ u.names) : ∃ r ∈ rs, r.name = name ∧
      u.attributes = (r.scope.normalize? env outer).elim [] (·.attributes env) := by
  obtain ⟨g, hg, rfl⟩ := mem_statementsOf.1 hu
  obtain ⟨r, hr, hkey, hrname⟩ := request_of_mem hg hname
  refine ⟨r, hr, hrname, ?_⟩
  unfold ImportGroup.statement
  rw [← hkey]
  rfl

/-- Each request is in a statement. -/
theorem exists_statement {r : ImportRequest String} (hr : r ∈ rs) :
    ∃ u ∈ statementsOf env outer rs, r.name ∈ u.names := by
  have hgroups := groups_groupsOf env outer rs
  obtain ⟨ys, hg, hy⟩ := (hgroups.mem_iff (ImportGroup.keyOf env outer r) r.symbol).2
    ⟨r, hr, rfl, rfl⟩
  exact ⟨_, mem_statementsOf.2 ⟨_, hg, rfl⟩, List.mem_map.2 ⟨r.symbol, hy, rfl⟩⟩

/-- Requests of different names are imported once each. -/
theorem nodup_names (hinj : ∀ r ∈ rs, ∀ q ∈ rs, r.name = q.name → r = q) :
    ((statementsOf env outer rs).flatMap UseStatement.names).Nodup := by
  have hgroups := groups_groupsOf env outer rs
  have hflat : (statementsOf env outer rs).flatMap UseStatement.names =
      (groupsOf env outer rs).flatMap fun g => g.2.map (g.1.crate ++ "::" ++ ·) := by
    unfold statementsOf ImportGroup.aggregate
    rw [List.map_map, List.flatMap_map]
    rfl
  rw [hflat, List.nodup_flatMap]
  refine ⟨fun g hg => ?_, ?_⟩
  · refine (hgroups.symbols g.1 g.2 hg).nodup.map fun y z hyz => ?_
    exact String.append_right_inj _ |>.1 hyz
  · refine (List.pairwise_map.1 hgroups.keys).imp_of_mem fun {g g'} hg hg' hlt => ?_
    refine List.disjoint_left.2 fun name hname hname' => ?_
    obtain ⟨r, hr, hkey, hrname⟩ := request_of_mem hg hname
    obtain ⟨q, hq, hkey', hqname⟩ := request_of_mem hg' hname'
    obtain rfl := hinj r hr q hq (hrname.trans hqname.symm)
    rw [← hkey, ← hkey'] at hlt
    exact Ordered.compare_self_ne_lt hlt

end Names

end Bindery
