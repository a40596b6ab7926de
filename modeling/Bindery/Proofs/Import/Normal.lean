import Bindery.Proofs.Import.Partition
import Bindery.Proofs.Import.Statement

/-!
# Nothing is said twice

A scope is normal when nothing of it can go: its constraints are in order, its version is newer than
the baseline and than the enclosing item, and it says something. What is left of a scope is normal
(`normal_of_normalize?`), and of a normal scope all is left (`Scope.Normal.normalize?_eq`).

So groups that are taken apart and put together again are the same groups, and a version in the
scope of a group never goes without its guard.
-/

namespace Bindery

open Emit

variable {env : Env} {outer : Option Version} {sc n : Scope String}

/-! ## Normal scopes -/

/-- Scopes of which nothing can go. -/
structure Scope.Normal (env : Env) (outer : Option Version) (sc : Scope String) : Prop where
  constraints : Ordered.Increasing Ord.compare sc.constraints
  version : ∀ v ∈ sc.version, v.IsNewer env outer
  ne_empty : ¬(sc.constraints = [] ∧ sc.version = none)

theorem normal_of_normalize? (h : sc.normalize? env outer = some n) : n.Normal env outer := by
  obtain ⟨hne, rfl⟩ := normalize?_eq_some.1 h
  exact ⟨Ordered.increasing_ofList _, fun v hv => (neededVersion_eq_some.1 hv).2, hne⟩

theorem Scope.Normal.normalize?_eq (h : sc.Normal env outer) :
    sc.normalize? env outer = some sc := by
  have hconstraints : Ordered.ofList Ord.compare sc.constraints = sc.constraints :=
    (Ordered.increasing_ofList _).ext h.constraints fun c => Ordered.mem_ofList
  have hversion : sc.neededVersion env outer = sc.version := by
    ext v
    rw [neededVersion_eq_some]
    exact and_iff_left_of_imp (h.version v)
  refine normalize?_eq_some.2 ⟨h.ne_empty, ?_⟩
  unfold Scope.of
  rw [hconstraints, hversion]

/-- The scope that says nothing is what no scope stands for. -/
theorem normalize?_empty (env : Env) (outer : Option Version) :
    ({} : Scope String).normalize? env outer = none := by
  refine normalize?_eq_none.2 ⟨rfl, Option.eq_none_iff_forall_ne_some.2 fun v hv => ?_⟩
  cases (neededVersion_eq_some.1 hv).1

/-- What is left of a scope, read as a scope again, is left of itself. -/
theorem normalize?_getD (env : Env) (outer : Option Version) (sc : Scope String) :
    ((sc.normalize? env outer).getD {}).normalize? env outer = sc.normalize? env outer := by
  cases h : sc.normalize? env outer with
  | none => exact normalize?_empty env outer
  | some n => exact (normal_of_normalize? h).normalize?_eq

theorem bind_version_normalize? (env : Env) (outer : Option Version) (sc : Scope String) :
    (sc.normalize? env outer).bind (·.version) = sc.neededVersion env outer := by
  cases h : sc.normalize? env outer with
  | none => exact (normalize?_eq_none.1 h).2.symm
  | some n =>
    obtain ⟨-, rfl⟩ := normalize?_eq_some.1 h
    rfl

/-! ## Groups as requests -/

section Groups

variable {rs : List (ImportRequest String)} {groups groups' : List (GroupKey String × List String)}

/-- One request for each symbol of a group. A group without a scope asks for the empty one. -/
def ImportGroup.requests (g : ImportGroup String) : List (ImportRequest String) :=
  g.symbols.map fun y => ⟨g.key.crate, y, g.key.scope.getD {}⟩

/-- Requests have one list of groups of which none is empty. -/
theorem Groups.unique (h : Groups env outer rs groups) (h' : Groups env outer rs groups')
    (hne : ∀ g ∈ groups, g.2 ≠ []) (hne' : ∀ g ∈ groups', g.2 ≠ []) : groups = groups' := by
  have hself : ∀ r ∈ rs, ∃ q ∈ rs, r.Alike q := fun r hr => ⟨r, hr, .refl r⟩
  refine Ordered.ext_entries h.keys h'.keys fun g => ⟨fun hg => ?_, fun hg => ?_⟩
  · exact h.mem_of_mem h' hself hself hg (hne g hg)
  · exact h'.mem_of_mem h hself hself hg (hne' g hg)

/-- The scope of a group is what is left of that of a request. -/
theorem exists_scope_of_mem {k : GroupKey String} {ys : List String}
    (hg : (k, ys) ∈ groupsOf env outer rs) : ∃ r ∈ rs, r.scope.normalize? env outer = k.scope := by
  obtain ⟨y, hy⟩ := List.exists_mem_of_ne_nil _ (symbols_ne_nil hg)
  obtain ⟨r, hr, rfl, -⟩ := ((groups_groupsOf env outer rs).mem_symbols hg).1 hy
  exact ⟨r, hr, rfl⟩

theorem keyOf_of_mem {k : GroupKey String} {ys : List String}
    (hg : (k, ys) ∈ groupsOf env outer rs) (y : String) :
    ImportGroup.keyOf env outer ⟨k.crate, y, k.scope.getD {}⟩ = k := by
  obtain ⟨r, -, hscope⟩ := exists_scope_of_mem hg
  unfold ImportGroup.keyOf
  rw [← hscope, normalize?_getD, hscope]

theorem mem_requests {r : ImportRequest String} :
    r ∈ (ImportGroup.aggregate env rs outer).flatMap ImportGroup.requests ↔
      ∃ k ys, (k, ys) ∈ groupsOf env outer rs ∧ ∃ y ∈ ys, r = ⟨k.crate, y, k.scope.getD {}⟩ := by
  rw [aggregate_eq, List.flatMap_map]
  simp [ImportGroup.requests, eq_comm]

/-- The groups of some requests are also groups of the requests that they come to. -/
theorem groups_requests (env : Env) (outer : Option Version) (rs : List (ImportRequest String)) :
    Groups env outer ((ImportGroup.aggregate env rs outer).flatMap ImportGroup.requests)
      (groupsOf env outer rs) where
  keys := (groups_groupsOf env outer rs).keys
  symbols := (groups_groupsOf env outer rs).symbols
  mem_iff := by
    intro k y
    constructor
    · rintro ⟨ys, hg, hy⟩
      exact ⟨_, mem_requests.2 ⟨k, ys, hg, y, hy, rfl⟩, keyOf_of_mem hg y, rfl⟩
    · rintro ⟨r, hr, hkey, rfl⟩
      obtain ⟨l, ys, hg, y, hy, rfl⟩ := mem_requests.1 hr
      rw [keyOf_of_mem hg] at hkey
      subst hkey
      exact ⟨ys, hg, hy⟩

theorem groupsOf_requests (env : Env) (outer : Option Version) (rs : List (ImportRequest String)) :
    groupsOf env outer ((ImportGroup.aggregate env rs outer).flatMap ImportGroup.requests) =
      groupsOf env outer rs :=
  (groups_groupsOf env outer _).unique (groups_requests env outer rs)
    (fun _ hg => symbols_ne_nil hg) fun _ hg => symbols_ne_nil hg

/-- Each symbol that is asked for is in a group, whose version is that of the request where this is
newer. -/
theorem exists_group {r : ImportRequest String} (hr : r ∈ rs) :
    ∃ g ∈ ImportGroup.aggregate env rs outer, g.key.crate = r.crate ∧ r.symbol ∈ g.symbols ∧
      ∀ v, g.key.scope.bind (·.version) = some v ↔
        r.scope.version = some v ∧ v.IsNewer env outer := by
  obtain ⟨ys, hg, hy⟩ := ((groups_groupsOf env outer rs).mem_iff
    (ImportGroup.keyOf env outer r) r.symbol).2 ⟨r, hr, rfl, rfl⟩
  refine ⟨⟨ImportGroup.keyOf env outer r, ys⟩, ?_, rfl, hy, fun v => ?_⟩
  · exact mem_aggregate.2 hg
  · rw [← neededVersion_eq_some, ← bind_version_normalize?]
    rfl

/-- The scope of a group is normal. -/
theorem normal_of_mem_aggregate {g : ImportGroup String}
    (hg : g ∈ ImportGroup.aggregate env rs outer) (hsc : g.key.scope = some sc) :
    sc.Normal env outer := by
  obtain ⟨r, -, hscope⟩ := exists_scope_of_mem (mem_aggregate.1 hg)
  exact normal_of_normalize? (hscope.trans hsc)

end Groups

/-! ## Guards of versions -/

/-- The guard of a version of the namespace being bound. -/
def guardLine (v : Version) : String := (Guard.mk (v.predicate none)).compileAttribute {}

/-- The lines of a group: the attributes of its constraints, one guard for its version, and the
statement. -/
def ImportGroup.lines (g : ImportGroup String) : List String :=
  constraintLines (g.key.scope.elim [] (·.constraints)) ++
    ((g.key.scope.bind (·.version)).toList.map guardLine ++ [g.useLine])

theorem Scope.Normal.versionLines_eq (h : sc.Normal env outer) :
    versionLines env sc.version = sc.version.toList.map guardLine := by
  unfold versionLines
  cases hv : sc.version with
  | none => rfl
  | some v =>
    have hneeded : Guard.isNeeded (some v) env.config.minVersion = true :=
      isNeeded_iff_lt.2 ⟨v, rfl, (h.version v hv).1⟩
    have hguard : Guard.resolve? (some v) env.config.minVersion none = some ⟨v.predicate none⟩ :=
      if_pos hneeded
    rw [hguard]
    rfl

theorem lines_statement {rs : List (ImportRequest String)} {g : ImportGroup String}
    (hg : g ∈ ImportGroup.aggregate env rs outer) : (g.statement env).lines = g.lines := by
  unfold ImportGroup.statement UseStatement.lines ImportGroup.lines ImportGroup.useLine
  cases hsc : g.key.scope with
  | none => rfl
  | some sc =>
    have hversion := (normal_of_mem_aggregate hg hsc).versionLines_eq
    simp only [Option.elim_some, Option.bind_some, Scope.attributes, hversion, List.append_assoc]

theorem prints_lines (env : Env) {i : Imports String} {rs : List (ImportRequest String)}
    (h : i.requests = .ok rs) (outer : Option Version) :
    Prints (uses env i outer) ()
      ("" :: (ImportGroup.aggregate env rs outer).flatMap ImportGroup.lines) := by
  have hlines : (statementsOf env outer rs).flatMap UseStatement.lines =
      (ImportGroup.aggregate env rs outer).flatMap ImportGroup.lines := by
    unfold statementsOf
    rw [List.flatMap_map]
    exact List.flatMap_congr fun g hg => lines_statement hg
  rw [← hlines]
  exact prints_uses env h outer

/-! ## Groups of groups -/

/-- Groups of some requests carry no more than they must. -/
structure AreNormal (env : Env) (rs : List (ImportRequest String)) (outer : Option Version)
    (groups : List (ImportGroup String)) : Prop where
  /-- The version in a scope is newer than the baseline and than the enclosing item. -/
  newer : ∀ g ∈ groups, ∀ sc ∈ g.key.scope, ∀ v ∈ sc.version,
    (∀ b ∈ env.config.minVersion, b < v) ∧ ∀ w ∈ outer, w < v
  /-- A scope says something. -/
  ne_empty : ∀ g ∈ groups, ∀ sc ∈ g.key.scope, ¬(sc.constraints = [] ∧ sc.version = none)
  /-- All of a scope is left. -/
  normal : ∀ g ∈ groups, ∀ sc ∈ g.key.scope, sc.normalize? env outer = some sc
  /-- Each request is in a group with its version, if that is newer, and otherwise in one without a
  version. -/
  placed : ∀ r ∈ rs, ∃ g ∈ groups, g.key.crate = r.crate ∧ r.symbol ∈ g.symbols ∧
    ∀ v, g.key.scope.bind (·.version) = some v ↔
      r.scope.version = some v ∧ (∀ b ∈ env.config.minVersion, b < v) ∧ ∀ w ∈ outer, w < v
  /-- What is printed of a group has one guard of a version where its scope has a version, and none
  elsewhere. -/
  prints : ∀ i : Imports String, i.requests = .ok rs → Prints (uses env i outer) ()
    ("" :: groups.flatMap fun g => constraintLines (g.key.scope.elim [] (·.constraints)) ++
      ((g.key.scope.bind (·.version)).toList.map guardLine ++ [g.useLine]))
  /-- The requests that the groups come to have the same groups. -/
  again : ImportGroup.aggregate env (groups.flatMap ImportGroup.requests) outer = groups

/-- Grouping once more changes nothing, and a guard is written just where it is needed. -/
theorem aggregate_idempotent (env : Env) (rs : List (ImportRequest String))
    (outer : Option Version) : AreNormal env rs outer (ImportGroup.aggregate env rs outer) where
  newer _ hg _ hsc := (normal_of_mem_aggregate hg hsc).version
  ne_empty _ hg _ hsc := (normal_of_mem_aggregate hg hsc).ne_empty
  normal _ hg _ hsc := (normal_of_mem_aggregate hg hsc).normalize?_eq
  placed _ hr := exists_group hr
  prints _ hi := prints_lines env hi outer
  again := by rw [aggregate_eq, groupsOf_requests, ← aggregate_eq]

/-- Imports inside an item of version 2.60, which implies the version of the first. -/
def enclosedImports : Imports String :=
  ⟨[("gio::File", ⟨["unix"], some ⟨2, 58, 0⟩⟩), ("glib::Object", ⟨[], some ⟨2, 62, 0⟩⟩)]⟩

theorem aggregate_idempotent_enclosed : ∃ rs groups, enclosedImports.requests = .ok rs ∧
    groups = ImportGroup.aggregate ⟨{}, {}⟩ rs (some ⟨2, 60, 0⟩) ∧
    groups = [⟨⟨"gio", some ⟨["unix"], none⟩⟩, ["File"]⟩,
      ⟨⟨"glib", some ⟨[], some ⟨2, 62, 0⟩⟩⟩, ["Object"]⟩] ∧
    (⟨[], some ⟨2, 62, 0⟩⟩ : Scope String).normalize? ⟨{}, {}⟩ (some ⟨2, 60, 0⟩) =
      some ⟨[], some ⟨2, 62, 0⟩⟩ ∧
    Prints (uses ⟨{}, {}⟩ enclosedImports (some ⟨2, 60, 0⟩)) ()
      ["", "#[cfg(any(unix, feature = \"dox\"))]",
        "#[cfg_attr(feature = \"dox\", doc(cfg(unix)))]", "use gio::\x7bFile\x7d;",
        "#[cfg(any(feature = \"v2_62\", feature = \"dox\"))]", "use glib::\x7bObject\x7d;"] ∧
    ImportGroup.aggregate ⟨{}, {}⟩ (groups.flatMap ImportGroup.requests) (some ⟨2, 60, 0⟩) =
      groups := by
  have hnormal := aggregate_idempotent ⟨{}, {}⟩
    [⟨"gio", "File", ⟨["unix"], some ⟨2, 58, 0⟩⟩⟩, ⟨"glib", "Object", ⟨[], some ⟨2, 62, 0⟩⟩⟩]
    (some ⟨2, 60, 0⟩)
  have hleft :=
    hnormal.normal ⟨⟨"glib", some ⟨[], some ⟨2, 62, 0⟩⟩⟩, ["Object"]⟩ (by decide) _ rfl
  exact ⟨_, _, rfl, rfl, by decide, hleft, hnormal.prints enclosedImports rfl, hnormal.again⟩

end Bindery
