import Bindery.Proofs.Import.Registered
import Bindery.Proofs.Import.Statement

/-!
# Imports are compiled where they are needed

Every name that was asked for is imported by one statement, and the attributes of that statement let
it be compiled just where the scope that is registered for the name holds.
-/

namespace Bindery

open Emit Predicate

variable {asks : List Ask} {env : Env} {outer : Option Version} {s : Settings}
  {baseline : Option Version}

/-! ## What holds for some of the calls -/

/-- Whether calls together need what they ask for: one has no constraints, or one has a constraint
that holds, or documentation is built; and one has no version, or one has a version that is
enabled. -/
def JointlyHold (s : Settings) (baseline : Option Version) (asks : List Ask) : Prop :=
  ((∃ a ∈ asks, a.constraints = []) ∨ (∃ a ∈ asks, ∃ c ∈ a.constraints, isActive s c = .ok true) ∨
    s.feature docsFeature = true) ∧
  ((∃ a ∈ asks, a.version = none) ∨ ∃ a ∈ asks, ∃ v ∈ a.version, s.Enables baseline v)

/-- A merged scope holds where the calls together do. -/
theorem Scope.Merges.holds_iff {sc : Scope String} {P : Version → Prop} (h : sc.Merges asks)
    (hclosed : s.ClosedOn baseline P) (hplay : ∀ a ∈ asks, ∀ v ∈ a.version, P v) :
    sc.Holds s baseline ↔ JointlyHold s baseline asks := by
  refine and_congr ⟨?_, ?_⟩ ⟨?_, ?_⟩
  · rintro (hnil | ⟨c, hc, hactive⟩ | hdocs)
    · exact .inl (h.constraints_eq_nil.1 hnil)
    · obtain ⟨a, ha, hca⟩ := (h.mem_constraints (List.ne_nil_of_mem hc) c).1 hc
      exact .inr (.inl ⟨a, ha, c, hca, hactive⟩)
    · exact .inr (.inr hdocs)
  · rintro (hnil | ⟨a, ha, c, hc, hactive⟩ | hdocs)
    · exact .inl (h.constraints_eq_nil.2 hnil)
    · by_cases hnil : sc.constraints = []
      · exact .inl hnil
      · exact .inr (.inl ⟨c, (h.mem_constraints hnil c).2 ⟨a, ha, hc⟩, hactive⟩)
    · exact .inr (.inr hdocs)
  · intro hall
    cases hv : sc.version with
    | none => exact .inl (h.version_eq_none.1 hv)
    | some v =>
      obtain ⟨a, ha, hav⟩ := h.exists_version v hv
      exact .inr ⟨a, ha, v, hav, hall v hv⟩
  · rintro (hnone | ⟨a, ha, w, hw, henables⟩) v hv
    · rw [h.version_eq_none.2 hnone] at hv
      cases hv
    · obtain ⟨b, hb, hbv⟩ := h.exists_version v hv
      exact enables_of_le hclosed (hplay b hb v hbv) (hplay a ha w hw) (h.version_le v hv a ha w hw)
        henables

/-- The import is there whenever one of those who asked for it is compiled. -/
theorem Scope.Merges.holds_of_mem {sc : Scope String} {P : Version → Prop} (h : sc.Merges asks)
    (hclosed : s.ClosedOn baseline P) (hplay : ∀ a ∈ asks, ∀ v ∈ a.version, P v) {a : Ask}
    (ha : a ∈ asks) (hholds : a.scope.Holds s baseline) : sc.Holds s baseline := by
  have hone := (merges_scope a).holds_iff hclosed fun b hb v hv => by
    obtain rfl := List.mem_singleton.1 hb
    exact hplay b ha v hv
  obtain ⟨hconstraints, hversion⟩ := hone.1 hholds
  refine (h.holds_iff hclosed hplay).2 ⟨?_, ?_⟩
  · simp only [List.mem_singleton, exists_eq_left] at hconstraints
    rcases hconstraints with hnil | hactive | hdocs
    · exact .inl ⟨a, ha, hnil⟩
    · exact .inr (.inl ⟨a, ha, hactive⟩)
    · exact .inr (.inr hdocs)
  · simp only [List.mem_singleton, exists_eq_left] at hversion
    rcases hversion with hnone | henables
    · exact .inl ⟨a, ha, hnone⟩
    · exact .inr ⟨a, ha, henables⟩

/-! ## The requests of some calls -/

theorem requests_ofAsks
    (hnames : ∀ a ∈ asks, ∃ r, ImportRequest.ofName a.name ({} : Scope String) = .ok r) :
    ∃ rs, (Imports.ofAsks asks).requests = .ok rs ∧
      (∀ r ∈ rs, (Imports.ofAsks asks).scope? r.name = some r.scope) ∧
      (∀ a ∈ asks, ∃ r ∈ rs, r.name = a.name) ∧
      ∀ r ∈ rs, ∀ q ∈ rs, r.name = q.name → r = q := by
  have hkeys := keys_ofAsks asks
  have hentry : ∀ {name sc}, (name, sc) ∈ (Imports.ofAsks asks).entries ↔
      (Imports.ofAsks asks).scope? name = some sc := Ordered.mem_iff_find? hkeys
  have haccepted : ∀ e ∈ (Imports.ofAsks asks).entries,
      ∃ r, ImportRequest.ofName e.1 e.2 = .ok r := by
    rintro ⟨name, sc⟩ he
    obtain ⟨⟨a, ha, rfl⟩, -⟩ := merges_of_scope? (hentry.1 he)
    obtain ⟨r, hr⟩ := hnames a ha
    exact ⟨_, ofName_of_ofName hr⟩
  obtain ⟨rs, hrs, hmem⟩ := exists_mapM_eq_ok haccepted
  refine ⟨rs, hrs, fun r hr => ?_, fun a ha => ?_, eq_of_name_eq (names_ofAsks_increasing asks) hrs⟩
  · obtain ⟨e, he, hname⟩ := (hmem r).1 hr
    obtain ⟨hrname, hrscope⟩ := ofName_eq_ok hname
    rw [hrname, hrscope]
    exact hentry.1 he
  · obtain ⟨sc, hsc⟩ := exists_scope? ha
    obtain ⟨r, hr⟩ := haccepted _ (hentry.2 hsc)
    exact ⟨r, (hmem r).2 ⟨_, hentry.2 hsc, hr⟩, (ofName_eq_ok hr).1⟩

/-- The attributes of a scope are attributes. -/
theorem prefix_of_mem_attributes {sc : Scope String} {l : String} (h : l ∈ sc.attributes env) :
    "#[".toList <+: l.toList := by
  rcases List.mem_append.1 h with h | h
  · unfold constraintLines at h
    split at h
    · cases h
    · simp only [List.mem_cons, List.not_mem_nil, or_false] at h
      obtain rfl | rfl := h
      · simp [Guard.compileAttribute, Margin.text, tabs, commentSign]
      · simp [Guard.docAttribute, Margin.text, tabs, commentSign]
  · unfold versionLines at h
    rw [Option.mem_toList, Option.map_eq_some_iff] at h
    obtain ⟨g, -, rfl⟩ := h
    simp [Guard.render, Guard.compileAttribute, Margin.text, tabs, commentSign]

theorem prefix_of_mem_statementsOf {rs : List (ImportRequest String)} {u : UseStatement}
    {l : String} (hu : u ∈ statementsOf env outer rs) (hl : l ∈ u.attributes) :
    "#[".toList <+: l.toList := by
  obtain ⟨g, -, rfl⟩ := mem_statementsOf.1 hu
  unfold ImportGroup.statement at hl
  cases hg : g.1.scope with
  | none => simp [hg] at hl
  | some sc => exact prefix_of_mem_attributes (by simpa [hg] using hl)

/-! ## Exactness -/

/-- The attributes of what is left of a scope let an import be compiled where the scope holds. -/
theorem admits_normalize? {sc : Scope String} {P : Version → Prop}
    (hparse : ∀ c ∈ sc.constraints, ∃ t, parse c = .ok t)
    (hclosed : s.ClosedOn env.config.minVersion P) (hversion : ∀ v ∈ sc.version, P v)
    (hplay : ∀ v ∈ outer, P v) (houter : ∀ v ∈ outer, s.Enables env.config.minVersion v) :
    ((sc.normalize? env outer).elim [] (·.attributes env)).all (admits s) = true ↔
      sc.Holds s env.config.minVersion := by
  rw [← holds_normalize? hclosed hversion hplay houter]
  cases hn : sc.normalize? env outer with
  | none => simp
  | some n =>
    have hadmits := admits_attributes env (fun c hc => hparse c (mem_of_normalize? hn hc)) s
    simpa using hadmits

/-- A statement is compiled just where the calls for a name that it imports need it. -/
structure CompiledAsNeeded (env : Env) (s : Settings) (asks : List Ask) (u : UseStatement)
    (name : String) : Prop where
  /-- That is where the scope that is registered for the name holds. -/
  registered : ∃ sc, (Imports.ofAsks asks).scope? name = some sc ∧
    (u.isCompiled s = true ↔ sc.Holds s env.config.minVersion)
  /-- It is where its calls together need it. -/
  joint : u.isCompiled s = true ↔ JointlyHold s env.config.minVersion (asksFor asks name)
  /-- It is wherever one of them does. -/
  each : ∀ a ∈ asksFor asks name, a.scope.Holds s env.config.minVersion → u.isCompiled s = true

/-- Statements are all that is printed for the imports of some calls, and import just what is
needed. -/
structure UsesExactly (env : Env) (s : Settings) (asks : List Ask) (outer : Option Version)
    (us : List UseStatement) : Prop where
  ok : (uses env (Imports.ofAsks asks) outer).result = .ok ()
  writes : (uses env (Imports.ofAsks asks) outer).writes =
    ("" :: us.flatMap UseStatement.lines).flatMap fun l => [l, "\n"]
  /-- What stands above a statement are attributes. -/
  attributes : ∀ u ∈ us, ∀ l ∈ u.attributes, "#[".toList <+: l.toList
  /-- No name is imported twice. -/
  nodup_names : (us.flatMap UseStatement.names).Nodup
  /-- The names that are imported are those that were asked for. -/
  mem_iff : ∀ name, name ∈ us.flatMap UseStatement.names ↔ ∃ a ∈ asks, a.name = name
  compiled : ∀ u ∈ us, ∀ name ∈ u.names, CompiledAsNeeded env s asks u name

/-- Imports are compiled just where they are needed, as long as the features that are on come with
those of the earlier versions in play, and the enclosing item is compiled. -/
theorem uses_exact
    (hnames : ∀ a ∈ asks, ∃ r, ImportRequest.ofName a.name ({} : Scope String) = .ok r)
    (hparse : ∀ a ∈ asks, ∀ c ∈ a.constraints, ∃ t, parse c = .ok t)
    (hclosed : s.ClosedOn env.config.minVersion fun v =>
      (∃ a ∈ asks, a.version = some v) ∨ outer = some v)
    (houter : ∀ v ∈ outer, s.Enables env.config.minVersion v) :
    ∃ us : List UseStatement, UsesExactly env s asks outer us := by
  obtain ⟨rs, hrs, hscope, hall, hinj⟩ := requests_ofAsks hnames
  have hprints := prints_uses env hrs outer
  refine ⟨statementsOf env outer rs, hprints.result, hprints.writes,
    fun u hu l hl => prefix_of_mem_statementsOf hu hl, nodup_names hinj, ?_, ?_⟩
  · intro name
    rw [List.mem_flatMap]
    constructor
    · rintro ⟨u, hu, hname⟩
      obtain ⟨r, hr, rfl, -⟩ := attributes_of_mem hu hname
      exact (merges_of_scope? (hscope r hr)).1
    · rintro ⟨a, ha, rfl⟩
      obtain ⟨r, hr, hname⟩ := hall a ha
      rw [← hname]
      exact exists_statement hr
  · intro u hu name hname
    obtain ⟨r, hr, rfl, hattributes⟩ := attributes_of_mem hu hname
    obtain ⟨-, hmerges⟩ := merges_of_scope? (hscope r hr)
    have hplay : ∀ a ∈ asksFor asks r.name, ∀ v ∈ a.version,
        (∃ a ∈ asks, a.version = some v) ∨ outer = some v :=
      fun a ha v hv => .inl ⟨a, (mem_asksFor.1 ha).1, hv⟩
    have hversion : ∀ v ∈ r.scope.version, (∃ a ∈ asks, a.version = some v) ∨ outer = some v := by
      intro v hv
      obtain ⟨a, ha, hav⟩ := hmerges.exists_version v hv
      exact hplay a ha v hav
    have hconstraints : ∀ c ∈ r.scope.constraints, ∃ t, parse c = .ok t := by
      intro c hc
      obtain ⟨a, ha, hca⟩ := (hmerges.mem_constraints (List.ne_nil_of_mem hc) c).1 hc
      exact hparse a (mem_asksFor.1 ha).1 c hca
    have hcompiled : u.isCompiled s = true ↔ r.scope.Holds s env.config.minVersion := by
      unfold UseStatement.isCompiled
      rw [hattributes]
      exact admits_normalize? hconstraints hclosed hversion (fun v hv => .inr hv) houter
    refine ⟨⟨r.scope, hscope r hr, hcompiled⟩, ?_, fun a ha hholds => ?_⟩
    · rw [hcompiled, hmerges.holds_iff hclosed hplay]
    · exact hcompiled.2 (hmerges.holds_of_mem hclosed hplay ha hholds)

/-- Two calls for one name, under flags of which one is on. -/
def flagAsks : List Ask :=
  [⟨"glib::Object", some ⟨2, 60, 0⟩, ["unix"]⟩, ⟨"glib::Object", some ⟨2, 60, 0⟩, ["windows"]⟩]

theorem uses_exact_flagAsks : ∃ (us : List UseStatement) (u : UseStatement),
    (uses ⟨{}, {}⟩ (Imports.ofAsks flagAsks) none).writes =
      ("" :: us.flatMap UseStatement.lines).flatMap (fun l => [l, "\n"]) ∧
    u ∈ us ∧ "glib::Object" ∈ u.names ∧
    u.isCompiled ⟨fun f => f == "v2_60", fun f => f == "unix"⟩ = true := by
  have hnames : ∀ a ∈ flagAsks, ∃ r, ImportRequest.ofName a.name ({} : Scope String) = .ok r := by
    simp only [flagAsks, List.forall_mem_cons, List.not_mem_nil, false_implies, implies_true,
      and_true]
    exact ⟨⟨_, rfl⟩, ⟨_, rfl⟩⟩
  have hparse : ∀ a ∈ flagAsks, ∀ c ∈ a.constraints, ∃ t, parse c = .ok t := by
    simp only [flagAsks, List.forall_mem_cons, List.not_mem_nil, false_implies, implies_true,
      and_true]
    exact ⟨⟨.name "unix", parse_name (by decide)⟩, ⟨.name "windows", parse_name (by decide)⟩⟩
  have hclosed : Settings.ClosedOn ⟨fun f => f == "v2_60", fun f => f == "unix"⟩ (some ⟨0, 0, 0⟩)
      fun v => (∃ a ∈ flagAsks, a.version = some v) ∨ none = some v := by
    have honly : ∀ v, ((∃ a ∈ flagAsks, a.version = some v) ∨ none = some v) → v = ⟨2, 60, 0⟩ := by
      intro v hv
      simpa [flagAsks, eq_comm] using hv
    intro u v hu hv _ _ hfeature
    rwa [honly u hu, ← honly v hv]
  obtain ⟨us, hexact⟩ := @uses_exact flagAsks ⟨{}, {}⟩ none
    ⟨fun f => f == "v2_60", fun f => f == "unix"⟩ hnames hparse hclosed (by simp)
  obtain ⟨u, hu, hname⟩ := List.mem_flatMap.1 ((hexact.mem_iff "glib::Object").2
    ⟨⟨"glib::Object", some ⟨2, 60, 0⟩, ["unix"]⟩, by simp [flagAsks], rfl⟩)
  have hjoint := (hexact.compiled u hu _ hname).joint
  have hfirst : ⟨"glib::Object", some ⟨2, 60, 0⟩, ["unix"]⟩ ∈ asksFor flagAsks "glib::Object" := by
    simp [asksFor, flagAsks]
  have hactive : isActive ⟨fun f => f == "v2_60", fun f => f == "unix"⟩ "unix" = .ok true := by
    rw [isActive_of_parse (parse_name (by decide))]
    simp [holds, evaluate]
  refine ⟨us, u, hexact.writes, hu, hname, hjoint.2 ⟨.inr (.inl ?_), .inr ?_⟩⟩
  · exact ⟨_, hfirst, "unix", by simp, hactive⟩
  · exact ⟨_, hfirst, ⟨2, 60, 0⟩, rfl, .inr (.inl (by decide))⟩

end Bindery
