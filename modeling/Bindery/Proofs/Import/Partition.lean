import Bindery.Proofs.Import.Grouping
import Bindery.Proofs.Import.SortKey

/-!
# Groups are the sorted partition of their requests

The groups of some requests hold each request under its key and nothing else, in strictly increasing
order of keys and within a group of symbols. There is only one such list of groups, so it does not
depend on the order of the requests or on their repetitions.
-/

namespace Bindery

open Std

/-! ## Constraints as sets -/

/-- What is left of a scope depends on the constraints as a set. -/
theorem normalize?_congr {s t : Scope String} (hversion : s.version = t.version)
    (hmem : ∀ c, c ∈ s.constraints ↔ c ∈ t.constraints) (env : Env) (outer : Option Version) :
    s.normalize? env outer = t.normalize? env outer := by
  have hconstraints : Ordered.ofList compare s.constraints = Ordered.ofList compare t.constraints :=
    (Ordered.increasing_ofList _).ext (Ordered.increasing_ofList _) fun c => by
      rw [Ordered.mem_ofList, Ordered.mem_ofList, hmem]
  unfold Scope.normalize? Scope.of Scope.neededVersion
  rw [hconstraints, hversion]

/-- Whether two requests ask for the same: the symbol of a crate and the version are the same, and
so are the constraints as a set. -/
structure ImportRequest.Alike (r q : ImportRequest String) : Prop where
  crate : r.crate = q.crate
  symbol : r.symbol = q.symbol
  version : r.scope.version = q.scope.version
  mem_constraints : ∀ c, c ∈ r.scope.constraints ↔ c ∈ q.scope.constraints

theorem ImportRequest.Alike.refl (r : ImportRequest String) : r.Alike r :=
  ⟨rfl, rfl, rfl, fun _ => Iff.rfl⟩

theorem ImportRequest.Alike.symm {r q : ImportRequest String} (h : r.Alike q) : q.Alike r :=
  ⟨h.crate.symm, h.symbol.symm, h.version.symm, fun c => (h.mem_constraints c).symm⟩

theorem ImportRequest.Alike.keyOf_eq {r q : ImportRequest String} (h : r.Alike q) (env : Env)
    (outer : Option Version) :
    ImportGroup.keyOf env outer r = ImportGroup.keyOf env outer q := by
  unfold ImportGroup.keyOf
  rw [h.crate, normalize?_congr h.version h.mem_constraints]

/-! ## One list of groups -/

section Groups

variable {env : Env} {outer : Option Version} {rs qs : List (ImportRequest String)}
  {groups groups' : List (GroupKey String × List String)}

theorem groupsOf_concat (rs : List (ImportRequest String)) (r : ImportRequest String) :
    groupsOf env outer (rs ++ [r]) =
      ImportGroup.addSymbol (ImportGroup.keyOf env outer r) r.symbol (groupsOf env outer rs) := by
  unfold groupsOf
  rw [List.foldl_append, List.foldl_cons, List.foldl_nil]

/-- No group is empty. -/
theorem symbols_ne_nil {g : GroupKey String × List String} (hg : g ∈ groupsOf env outer rs) :
    g.2 ≠ [] := by
  induction rs using List.reverseRecOn generalizing g with
  | nil => cases hg
  | append_singleton rs r ih =>
    rw [groupsOf_concat] at hg
    rcases (Ordered.mem_alter (groups_groupsOf env outer rs).keys).1 hg with ⟨-, hsymbols⟩ | ⟨-, hg⟩
    · have hmem : r.symbol ∈ g.2 := by
        rw [hsymbols]
        exact Ordered.mem_insert.2 (.inl rfl)
      exact List.ne_nil_of_mem hmem
    · exact ih hg

/-- The symbols of a group are those of the requests with its key. -/
theorem Groups.mem_symbols (h : Groups env outer rs groups) {k : GroupKey String}
    {ys : List String} (hg : (k, ys) ∈ groups) {y : String} :
    y ∈ ys ↔ ∃ r ∈ rs, ImportGroup.keyOf env outer r = k ∧ r.symbol = y := by
  rw [← h.mem_iff]
  constructor
  · exact fun hy => ⟨ys, hg, hy⟩
  · rintro ⟨zs, hzs, hy⟩
    have hys := (Ordered.mem_iff_find? h.keys).1 hg
    rw [(Ordered.mem_iff_find? h.keys).1 hzs] at hys
    rwa [← Option.some.inj hys]

/-- Groups of requests that ask for the same are the same. -/
theorem Groups.mem_of_mem (h : Groups env outer rs groups) (h' : Groups env outer qs groups')
    (hrs : ∀ r ∈ rs, ∃ q ∈ qs, r.Alike q) (hqs : ∀ q ∈ qs, ∃ r ∈ rs, q.Alike r)
    {g : GroupKey String × List String} (hg : g ∈ groups) (hne : g.2 ≠ []) : g ∈ groups' := by
  obtain ⟨k, ys⟩ := g
  have hsame : ∀ y, (∃ r ∈ rs, ImportGroup.keyOf env outer r = k ∧ r.symbol = y) ↔
      ∃ q ∈ qs, ImportGroup.keyOf env outer q = k ∧ q.symbol = y := by
    intro y
    constructor
    · rintro ⟨r, hr, hkey, rfl⟩
      obtain ⟨q, hq, halike⟩ := hrs r hr
      exact ⟨q, hq, halike.keyOf_eq env outer ▸ hkey, halike.symbol.symm⟩
    · rintro ⟨q, hq, hkey, rfl⟩
      obtain ⟨r, hr, halike⟩ := hqs q hq
      exact ⟨r, hr, halike.keyOf_eq env outer ▸ hkey, halike.symbol.symm⟩
  obtain ⟨y, hy⟩ := List.exists_mem_of_ne_nil _ hne
  obtain ⟨zs, hzs, -⟩ := (h'.mem_iff k y).2 ((hsame y).1 ((h.mem_symbols hg).1 hy))
  have hyszs : ys = zs := (h.symbols k ys hg).ext (h'.symbols k zs hzs) fun z => by
    rw [h.mem_symbols hg, h'.mem_symbols hzs, hsame]
  rwa [hyszs]

theorem groupsOf_eq (hrs : ∀ r ∈ rs, ∃ q ∈ qs, r.Alike q) (hqs : ∀ q ∈ qs, ∃ r ∈ rs, q.Alike r) :
    groupsOf env outer rs = groupsOf env outer qs := by
  have h := groups_groupsOf env outer rs
  have h' := groups_groupsOf env outer qs
  refine Ordered.ext_entries h.keys h'.keys fun g => ⟨fun hg => ?_, fun hg => ?_⟩
  · exact h.mem_of_mem h' hrs hqs hg (symbols_ne_nil hg)
  · exact h'.mem_of_mem h hqs hrs hg (symbols_ne_nil hg)

theorem aggregate_eq (env : Env) (rs : List (ImportRequest String)) (outer : Option Version) :
    ImportGroup.aggregate env rs outer = (groupsOf env outer rs).map fun g => ⟨g.1, g.2⟩ := rfl

theorem mem_aggregate {g : ImportGroup String} :
    g ∈ ImportGroup.aggregate env rs outer ↔ (g.key, g.symbols) ∈ groupsOf env outer rs := by
  rw [aggregate_eq, List.mem_map]
  constructor
  · rintro ⟨entry, hentry, rfl⟩
    exact hentry
  · exact fun h => ⟨_, h, rfl⟩

end Groups

/-- Groups are the sorted partition of some requests. -/
structure Partitions (env : Env) (rs : List (ImportRequest String)) (outer : Option Version)
    (groups : List (ImportGroup String)) : Prop where
  /-- A symbol is under a crate and a scope where a request has that crate and symbol, and that is
  what is left of its scope. -/
  mem_iff : ∀ crate scope y, (∃ g ∈ groups, g.key = ⟨crate, scope⟩ ∧ y ∈ g.symbols) ↔
    ∃ r ∈ rs, r.crate = crate ∧ r.symbol = y ∧ r.scope.normalize? env outer = scope
  /-- No two groups have one key. -/
  nodup_keys : (groups.map (·.key)).Nodup
  /-- No group is empty. -/
  symbols_ne_nil : ∀ g ∈ groups, g.symbols ≠ []
  /-- The symbols of a group increase. -/
  symbols_increase : ∀ g ∈ groups, g.symbols.Pairwise (· < ·)
  /-- Groups come in the order of crates, those without a scope first, and then of constraints and
  of versions. -/
  sorted : groups.Pairwise fun g h => g.key.Before h.key
  /-- In this order any two keys can be compared. -/
  comparable : ∀ k l : GroupKey String, ∃ o, k.sortKey.compare? l.sortKey = some o ∧
    (o = .lt ↔ k.Before l) ∧ (o = .eq ↔ k = l) ∧ (o = .gt ↔ l.Before k)
  /-- Requests in another order, repeated, or with constraints in another order or repeated, have
  the same groups. -/
  same : ∀ qs, (∀ r ∈ rs, ∃ q ∈ qs, r.Alike q) → (∀ q ∈ qs, ∃ r ∈ rs, q.Alike r) →
    ImportGroup.aggregate env qs outer = groups

/-- What requests are grouped into is their sorted partition. -/
theorem aggregate_partition (env : Env) (rs : List (ImportRequest String))
    (outer : Option Version) : Partitions env rs outer (ImportGroup.aggregate env rs outer) where
  mem_iff crate scope y := by
    have hmem := (groups_groupsOf env outer rs).mem_iff ⟨crate, scope⟩ y
    simp only [ImportGroup.keyOf, GroupKey.mk.injEq] at hmem
    constructor
    · rintro ⟨⟨k, ys⟩, hg, hkey, hy⟩
      obtain rfl : k = ⟨crate, scope⟩ := hkey
      obtain ⟨r, hr, ⟨hcrate, hscope⟩, hsymbol⟩ := hmem.1 ⟨ys, mem_aggregate.1 hg, hy⟩
      exact ⟨r, hr, hcrate, hsymbol, hscope⟩
    · rintro ⟨r, hr, hcrate, hsymbol, hscope⟩
      obtain ⟨ys, hg, hy⟩ := hmem.2 ⟨r, hr, ⟨hcrate, hscope⟩, hsymbol⟩
      exact ⟨⟨⟨crate, scope⟩, ys⟩, mem_aggregate.2 hg, rfl, hy⟩
  nodup_keys := by
    have hkeys : (ImportGroup.aggregate env rs outer).map (·.key) =
        (groupsOf env outer rs).map (·.1) := by
      rw [aggregate_eq, List.map_map]
      rfl
    rw [hkeys]
    exact (groups_groupsOf env outer rs).keys.nodup
  symbols_ne_nil _ hg := symbols_ne_nil (mem_aggregate.1 hg)
  symbols_increase g hg :=
    ((groups_groupsOf env outer rs).symbols _ _ (mem_aggregate.1 hg)).pairwise_lt
  sorted := by
    rw [aggregate_eq]
    have hkeys := (groups_groupsOf env outer rs).keys
    exact List.pairwise_map.2 ((List.pairwise_map.1 hkeys).imp before_iff.2)
  comparable k l := by
    refine ⟨k.compare l, compare?_sortKey k l, before_iff.symm, LawfulEqCmp.compare_eq_iff_eq, ?_⟩
    rw [before_iff]
    exact OrientedCmp.gt_iff_lt
  same qs hrs hqs := by rw [aggregate_eq, aggregate_eq, groupsOf_eq hqs hrs]

/-- Three requests for symbols of one crate, the last with a version that the baseline has. -/
def glibRequests : List (ImportRequest String) :=
  [⟨"glib", "Object", ⟨["unix", "windows"], none⟩⟩, ⟨"glib", "Cast", {}⟩,
    ⟨"glib", "Value", ⟨[], some ⟨2, 56, 0⟩⟩⟩]

/-- The same requests in another order, one of them twice. -/
def glibRequestsAgain : List (ImportRequest String) :=
  [⟨"glib", "Value", ⟨[], some ⟨2, 56, 0⟩⟩⟩, ⟨"glib", "Cast", {}⟩,
    ⟨"glib", "Object", ⟨["windows", "unix", "windows"], none⟩⟩, ⟨"glib", "Cast", {}⟩]

theorem aggregate_partition_glibRequests :
    (∃ g ∈ ImportGroup.aggregate ⟨{}, { minVersion := some ⟨2, 56, 0⟩ }⟩ glibRequests none,
      g.key = ⟨"glib", none⟩ ∧ "Value" ∈ g.symbols) ∧
    ImportGroup.aggregate ⟨{}, { minVersion := some ⟨2, 56, 0⟩ }⟩ glibRequestsAgain none =
      ImportGroup.aggregate ⟨{}, { minVersion := some ⟨2, 56, 0⟩ }⟩ glibRequests none := by
  have hpartition := aggregate_partition ⟨{}, { minVersion := some ⟨2, 56, 0⟩ }⟩ glibRequests none
  have hobject : (⟨"glib", "Object", ⟨["unix", "windows"], none⟩⟩ : ImportRequest String).Alike
      ⟨"glib", "Object", ⟨["windows", "unix", "windows"], none⟩⟩ :=
    ⟨rfl, rfl, rfl, fun c => by simp; tauto⟩
  refine ⟨(hpartition.mem_iff _ _ _).2 ⟨⟨"glib", "Value", ⟨[], some ⟨2, 56, 0⟩⟩⟩,
    by simp [glibRequests], rfl, rfl, by decide⟩, hpartition.same _ ?_ ?_⟩
  · unfold glibRequests glibRequestsAgain
    rw [List.forall_mem_cons, List.forall_mem_cons, List.forall_mem_singleton]
    exact ⟨⟨_, by simp, hobject⟩, ⟨_, by simp, .refl _⟩, ⟨_, by simp, .refl _⟩⟩
  · unfold glibRequests glibRequestsAgain
    rw [List.forall_mem_cons, List.forall_mem_cons, List.forall_mem_cons, List.forall_mem_singleton]
    exact ⟨⟨_, by simp, .refl _⟩, ⟨_, by simp, .refl _⟩, ⟨_, by simp, hobject.symm⟩,
      ⟨_, by simp, .refl _⟩⟩

end Bindery
