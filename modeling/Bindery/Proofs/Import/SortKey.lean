import Bindery.Proofs.Import.Order

/-!
# The key by which groups are sorted

Groups are put in order by values of several sorts: a crate, a number that tells whether there is a
scope, and for a scope its constraints and the version, which may be absent. Not every two such
values can be compared, but the keys of any two groups can, and their comparison is the order of
groups.
-/

namespace Bindery

open Std

/-! ## Values of several sorts -/

/-- A value that takes part in sorting. -/
inductive SortValue
  | text (s : String)
  | number (n : Nat)
  | version (v : Version)
  | tuple (items : List SortValue)

namespace SortValue

mutual

/-- Compares values of one sort; there is no answer for values of two sorts. -/
def compare? : SortValue → SortValue → Option Ordering
  | text s, text t => some (compare s t)
  | number m, number n => some (compare m n)
  | version v, version w => some (v.compare w)
  | tuple as, tuple bs => compareItems? as bs
  | _, _ => none

/-- Compares items up to the first difference, and then no further. -/
def compareItems? : List SortValue → List SortValue → Option Ordering
  | [], [] => some .eq
  | [], _ :: _ => some .lt
  | _ :: _, [] => some .gt
  | a :: as, b :: bs =>
    match compare? a b with
    | some .eq => compareItems? as bs
    | o => o

end

/-- The first items decide where they can be compared, and else the rest. -/
theorem compareItems?_cons {a b : SortValue} {o p : Ordering} {as bs : List SortValue}
    (h : compare? a b = some o) (hrest : compareItems? as bs = some p) :
    compareItems? (a :: as) (b :: bs) = some (o.then p) := by
  rw [compareItems?, h]
  cases o with
  | lt => rfl
  | eq => exact hrest
  | gt => rfl

/-- Equal first items decide nothing. -/
theorem compareItems?_cons_eq {a b : SortValue} (as bs : List SortValue)
    (h : compare? a b = some .eq) : compareItems? (a :: as) (b :: bs) = compareItems? as bs := by
  rw [compareItems?, h]

theorem compareItems?_texts (cs ds : List String) :
    compareItems? (cs.map text) (ds.map text) = some (List.compareLex Ord.compare cs ds) := by
  induction cs generalizing ds with
  | nil =>
    cases ds with
    | nil => rfl
    | cons d ds => rfl
  | cons c cs ih =>
    cases ds with
    | nil => rfl
    | cons d ds =>
      rw [List.compareLex_cons_cons]
      exact compareItems?_cons rfl (ih ds)

end SortValue

/-! ## Keys -/

open SortValue

/-- A number tells whether there is a version, so that a version is compared with versions only. -/
def versionKey : Option Version → SortValue
  | none => tuple [number 0]
  | some v => tuple [number 1, version v]

/-- The constraints and then the version. -/
def Scope.sortKey (s : Scope String) : SortValue :=
  tuple [tuple (s.constraints.map text), versionKey s.version]

/-- The crate, whether there is a scope, and the scope. -/
def GroupKey.sortKey (k : GroupKey String) : SortValue :=
  match k.scope with
  | none => tuple [text k.crate, number 0]
  | some s => tuple [text k.crate, number 1, s.sortKey]

/-- One item on each side decides alone. -/
theorem compareItems?_singleton {a b : SortValue} {o : Ordering} (h : compare? a b = some o) :
    compareItems? [a] [b] = some o := by
  rw [compareItems?_cons h (rfl : compareItems? [] [] = some .eq), Ordering.then_eq]

theorem compare?_versionKey (v w : Option Version) :
    (versionKey v).compare? (versionKey w) = some (compareOptional v w) := by
  cases v with
  | none =>
    cases w with
    | none => rfl
    | some w => rfl
  | some v =>
    cases w with
    | none => rfl
    | some w =>
      show compareItems? [number 1, version v] [number 1, version w] = some (v.compare w)
      rw [compareItems?_cons_eq _ _ rfl]
      exact compareItems?_singleton rfl

theorem compare?_scopeKey (s t : Scope String) :
    s.sortKey.compare? t.sortKey = some (s.compare t) :=
  compareItems?_cons (compareItems?_texts s.constraints t.constraints)
    (compareItems?_singleton (compare?_versionKey s.version t.version))

/-- The keys of any two groups can be compared, and are in the order of the groups. -/
theorem compare?_sortKey (k l : GroupKey String) :
    k.sortKey.compare? l.sortKey = some (k.compare l) := by
  obtain ⟨crate, scope⟩ := k
  obtain ⟨crate', scope'⟩ := l
  have hcrate : (text crate).compare? (text crate') = some (compare crate crate') := rfl
  -- A scope is never compared with the number that says that there is none.
  cases scope with
  | none =>
    cases scope' with
    | none => exact compareItems?_cons hcrate (compareItems?_singleton rfl)
    | some t => exact compareItems?_cons hcrate rfl
  | some s =>
    cases scope' with
    | none => exact compareItems?_cons hcrate rfl
    | some t =>
      refine compareItems?_cons hcrate ?_
      rw [compareItems?_cons_eq _ _ rfl]
      exact compareItems?_singleton (compare?_scopeKey s t)

/-! ## The order in words -/

/-- Whether a version, or its absence, comes before another: absence before all versions, and these
by their numbers. -/
inductive VersionBefore : Option Version → Option Version → Prop
  | absent (w : Version) : VersionBefore none (some w)
  | earlier {v w : Version} (h : v.major < w.major ∨ v.major = w.major ∧
      (v.minor < w.minor ∨ v.minor = w.minor ∧ v.patch < w.patch)) :
      VersionBefore (some v) (some w)

/-- Whether a group comes before another: by crate, then those without a scope, then by constraints,
then by version. -/
inductive GroupKey.Before : GroupKey String → GroupKey String → Prop
  | crate {crate crate' : String} {scope scope' : Option (Scope String)} (h : crate < crate') :
      Before ⟨crate, scope⟩ ⟨crate', scope'⟩
  | unscoped {crate : String} (s : Scope String) : Before ⟨crate, none⟩ ⟨crate, some s⟩
  | constraints {crate : String} {s t : Scope String} (h : s.constraints < t.constraints) :
      Before ⟨crate, some s⟩ ⟨crate, some t⟩
  | version {crate : String} {s t : Scope String} (hconstraints : s.constraints = t.constraints)
      (h : VersionBefore s.version t.version) : Before ⟨crate, some s⟩ ⟨crate, some t⟩

theorem compareOptional_eq_lt {v w : Option Version} :
    compareOptional v w = .lt ↔ VersionBefore v w := by
  constructor
  · intro h
    cases v with
    | none =>
      cases w with
      | none => cases h
      | some w => exact .absent w
    | some v =>
      cases w with
      | none => cases h
      | some w => exact .earlier (Version.lt_iff.1 h)
  · rintro (w | h)
    · rfl
    · exact Version.lt_iff.2 h

theorem scopeCompare_eq_lt {s t : Scope String} : s.compare t = .lt ↔
    s.constraints < t.constraints ∨
      s.constraints = t.constraints ∧ VersionBefore s.version t.version := by
  rw [Scope.compare, Ordering.then_eq_lt, compareLex_eq_lt_iff, compareOptional_eq_lt,
    LawfulEqCmp.compare_eq_iff_eq]

theorem before_iff {k l : GroupKey String} : k.Before l ↔ k.compare l = .lt := by
  have hcompare : k.compare l = .lt ↔
      k.crate < l.crate ∨ k.crate = l.crate ∧ compareScopes k.scope l.scope = .lt := by
    rw [GroupKey.compare, Ordering.then_eq_lt, compare_eq_lt_iff, LawfulEqCmp.compare_eq_iff_eq]
  rw [hcompare]
  constructor
  · rintro (h | s | h | ⟨hconstraints, h⟩)
    · exact .inl h
    · exact .inr ⟨rfl, rfl⟩
    · exact .inr ⟨rfl, scopeCompare_eq_lt.2 (.inl h)⟩
    · exact .inr ⟨rfl, scopeCompare_eq_lt.2 (.inr ⟨hconstraints, h⟩)⟩
  · obtain ⟨crate, scope⟩ := k
    obtain ⟨crate', scope'⟩ := l
    rintro (h | ⟨hcrate, h⟩)
    · exact .crate h
    · obtain rfl : crate = crate' := hcrate
      cases scope with
      | none =>
        cases scope' with
        | none => cases h
        | some t => exact .unscoped t
      | some s =>
        cases scope' with
        | none => cases h
        | some t =>
          rcases scopeCompare_eq_lt.1 h with h | ⟨hconstraints, h⟩
          · exact .constraints h
          · exact .version hconstraints h

end Bindery
