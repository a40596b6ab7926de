import Bindery.Proofs.Guard.Pair
import Bindery.Proofs.Predicate.Literal
import Bindery.Proofs.Version.Printing
import Std.Data.String.ToInt

/-!
# What a feature names

The last letter `v` of a feature parts it. The numbers of a version stand behind it and hold no
letter; the crate stands in front of it with an underscore, and may hold whatever it likes.

1. The row of numbers tells the version (`row_injective`).
2. A feature tells the crate and the version (`crateFeature_inj`), so a predicate does, and a guard.
3. The predicate is read back as it is exactly where the name of the crate needs no escape
   (`parse_predicate_iff`).

All of this is about versions that are printed. One with a number that is too long has no feature to
tell it by.
-/

namespace Bindery.Version

open Predicate Text

/-! ## The row of numbers -/

theorem toString_notMem {c : Char} (hdigit : c.isDigit = false) (hminus : c ≠ '-') (n : Int) :
    c ∉ (toString n).toList := by
  intro hc
  rcases mem_toString hc with h | h
  · rw [hdigit] at h
    cases h
  · exact hminus h

/-- How many numbers there are tells whether the patch is zero. -/
theorem numbers_injective : Function.Injective numbers := by
  rintro ⟨major, minor, patch⟩ ⟨major', minor', patch'⟩ h
  unfold numbers at h
  split_ifs at h with hzero hzero'
  · simp only at hzero hzero'
    simpa [hzero, hzero'] using h
  · simp at h
  · simp at h
  · simpa using h

/-- The numbers of a version are the fields of its row. -/
theorem fields_row (v : Version) :
    fields '_' v.row = v.numbers.map fun n => (toString n).toList := by
  unfold row
  refine fields_intercalate ?_ fun f hf => ?_
  · unfold numbers
    split_ifs <;> simp
  · obtain ⟨n, -, rfl⟩ := List.mem_map.1 hf
    exact toString_notMem (by decide) (by decide) n

theorem row_injective : Function.Injective row := by
  intro v w h
  have hnumbers : v.numbers.map (fun n => (toString n).toList) =
      w.numbers.map fun n => (toString n).toList := by
    rw [← fields_row, ← fields_row, h]
  have hprint : Function.Injective fun n : Int => (toString n).toList := by
    intro m n hmn
    exact Int.repr_inj.1 (String.toList_inj.1 hmn)
  exact numbers_injective (List.map_injective_iff.2 hprint hnumbers)

theorem v_notMem_row (v : Version) : 'v' ∉ v.row := by
  intro hc
  rcases mem_intercalate hc with hc | ⟨f, hf, hc⟩
  · exact absurd hc (by decide)
  · obtain ⟨n, -, rfl⟩ := List.mem_map.1 hf
    exact toString_notMem (by decide) (by decide) n hc

/-! ## The crate in front of it -/

/-- What a feature has in front of its last letter. -/
def crateFront (crate : String) : List Char :=
  if crate = "" then [] else crate.toList ++ ['_']

theorem crateFront_injective : Function.Injective crateFront := by
  intro crate crate' h
  unfold crateFront at h
  split_ifs at h with hnone hnone'
  · rw [hnone, hnone']
  · simp at h
  · simp at h
  · exact String.toList_inj.1 (List.append_cancel_right h)

theorem toList_crateFeature (crate : String) (v : Version) :
    (crateFeature crate v).toList = crateFront crate ++ 'v' :: v.row := by
  unfold crateFeature crateFront
  split_ifs
  · exact toList_feature v
  · rw [String.toList_append, String.toList_append, toList_feature]
    rfl

theorem crateFeature_inj {crate crate' : String} {v w : Version}
    (h : crateFeature crate v = crateFeature crate' w) : crate = crate' ∧ v = w := by
  have hlist := congrArg String.toList h
  rw [toList_crateFeature, toList_crateFeature] at hlist
  obtain ⟨hfront, hrow⟩ := append_cons_inj v.v_notMem_row w.v_notMem_row hlist
  exact ⟨crateFront_injective hfront, row_injective hrow⟩

theorem crateFeature_ne_docsFeature (crate : String) (v : Version) :
    crateFeature crate v ≠ docsFeature := by
  intro h
  have hmem : 'v' ∈ (crateFeature crate v).toList := by
    rw [toList_crateFeature]
    simp
  rw [h] at hmem
  exact absurd hmem (by decide)

/-! ## Predicates -/

theorem requires_injective : Function.Injective requires := by
  intro f f' h
  exact (String.append_right_inj _).1 ((String.append_left_inj _).1 h)

/-- A tag names a crate, and its absence none. -/
theorem featureIn_eq (tag : Option String) (v : Version) :
    v.featureIn tag = crateFeature (tag.getD "") v := by
  cases tag with
  | none => rfl
  | some t => simp [featureIn, tagged, crateFeature, String.isEmpty_iff]

theorem predicate_inj {p q : Option String} {v w : Version} :
    v.predicate p = w.predicate q ↔ v = w ∧ p.getD "" = q.getD "" := by
  unfold predicate
  rw [requires_injective.eq_iff, featureIn_eq, featureIn_eq]
  constructor
  · intro h
    exact (crateFeature_inj h).symm
  · rintro ⟨rfl, hcrate⟩
    rw [hcrate]

/-- A tag is plain exactly where the features that it is in front of are. -/
theorem isPlainTag_iff {tag : Option String} (v : Version) :
    IsPlainTag tag ↔ ∀ c ∈ (v.featureIn tag).toList, c ≠ '"' ∧ c ≠ '\\' := by
  refine ⟨fun h => ne_quote_of_mem_featureIn h v, fun h t ht c hc => h c ?_⟩
  have hne : t.isEmpty = false := by
    rw [Bool.eq_false_iff, ne_eq, String.isEmpty_iff]
    rintro rfl
    cases hc
  unfold featureIn tagged
  rw [Option.mem_def.1 ht]
  simp [hne, hc]

theorem parse_predicate_iff {tag : Option String} {v : Version} :
    Predicate.parse (v.predicate tag) = .ok (.keyValue "feature" (v.featureIn tag)) ↔
      IsPlainTag tag := by
  have hword : IsWord "feature".toList := by decide
  have hsplit : "feature = \"" = "feature" ++ " = \"" := by decide
  unfold predicate requires
  rw [hsplit, parse_keyValue_iff hword, isPlainTag_iff v]

/-- A plain tag holds neither of the two characters. -/
theorem isPlainTag_iff_notMem {tag : Option String} :
    IsPlainTag tag ↔ ∀ t ∈ tag, '"' ∉ t.toList ∧ '\\' ∉ t.toList := by
  unfold IsPlainTag
  refine forall₂_congr fun t _ => ?_
  rw [forall₂_and, List.forall_mem_ne', List.forall_mem_ne']

/-! ## Guards -/

/-- The predicate of a guard is that of its version in the crate of its namespace. -/
theorem cfg_of_guard? {env : Env} {ns : Option Int} {baseline : Option Version} {crate : String}
    (hns : env.Binds ns baseline crate) {v : Version} {g : Guard}
    (hv : env.guard? ns (some v) = .ok (some g)) : g.cfg = v.predicate (some crate) := by
  obtain ⟨tag, hbaseline, hcrate, -, hfeature⟩ := hns.exists_tag
  rw [guard?_eq hbaseline hcrate] at hv
  obtain ⟨u, hu, -, rfl⟩ := resolve?_eq_some (Except.ok.inj hv)
  obtain rfl := Option.some.inj hu
  show v.predicate tag = v.predicate (some crate)
  rw [predicate, predicate, hfeature, featureIn_eq, Option.getD_some]

/-- How predicates name the versions that they are printed for. -/
structure NamesVersions : Prop where
  /-- A predicate is printed where each number of the version is below the limit, its sign aside. -/
  printed : ∀ (v : Version) (p : Option String),
    (∃ s, v.toPredicate p = .ok s) ↔ v.IsPrintable
  /-- Of other versions nothing is printed. -/
  refused : ∀ (v : Version) (p : Option String), ¬v.IsPrintable →
    v.toFeature = .error .tooLong ∧ v.toPredicate p = .error .tooLong
  /-- It tells the version and the tag in front of the feature, of which an empty one is none. -/
  injective : ∀ (v w : Version) (p q : Option String), v.IsPrintable →
    (v.toPredicate p = w.toPredicate q ↔ v = w ∧ p.getD "" = q.getD "")
  /-- The predicate of a guard is what is printed of the version for the crate of the namespace. -/
  guard : ∀ (env : Env) (ns : Option Int) (baseline : Option Version) (crate : String)
    (v : Version) (g : Guard), env.Binds ns baseline crate → v.IsPrintable →
    env.guard? ns (some v) = .ok (some g) → v.toPredicate (some crate) = .ok g.cfg
  /-- No guard is of two versions, or of two namespaces with features for different crates. -/
  unshared : ∀ (env : Env) (ns ns' : Option Int) (baseline baseline' : Option Version)
    (crate crate' : String) (v w : Version) (g : Guard), env.Binds ns baseline crate →
    env.Binds ns' baseline' crate' → v.IsPrintable → w.IsPrintable →
    env.guard? ns (some v) = .ok (some g) → env.guard? ns' (some w) = .ok (some g) →
    v = w ∧ crate = crate'
  /-- The feature is never the one that documentation is built with. -/
  not_docs : ∀ (v : Version) (p : Option String), v.toPredicate p ≠ .ok docsPredicate
  /-- It is read back as its key and its value exactly where the tag holds neither a double quote
  nor a backslash. -/
  read_back : ∀ (v : Version) (p : Option String), v.IsPrintable →
    ∃ s, v.toPredicate p = .ok s ∧ v.toFeature = .ok v.feature ∧
      (Predicate.parse s = .ok (.keyValue "feature" (crateFeature (p.getD "") v)) ↔
        ∀ t ∈ p, '"' ∉ t.toList ∧ '\\' ∉ t.toList)

/-- A version with short numbers is told by its predicate, and so by its guard. -/
theorem predicate_names_version : NamesVersions where
  printed v p := by
    simp only [toPredicate_eq_ok_iff, exists_and_left, exists_eq', and_true]
  refused v p h := ⟨toFeature_eq_error h, toPredicate_eq_error h⟩
  injective v w p q hv := by
    rw [toPredicate_eq_ok_iff.2 ⟨hv, rfl⟩, eq_comm, toPredicate_eq_ok_iff, predicate_inj]
    constructor
    · rintro ⟨-, rfl, htag⟩
      exact ⟨rfl, htag.symm⟩
    · rintro ⟨rfl, htag⟩
      exact ⟨hv, rfl, htag.symm⟩
  guard env ns baseline crate v g hns hv hg :=
    toPredicate_eq_ok_iff.2 ⟨hv, (cfg_of_guard? hns hg).symm⟩
  unshared env ns ns' baseline baseline' crate crate' v w g hns hns' _ _ hv hw :=
    predicate_inj.1 ((cfg_of_guard? hns hv).symm.trans (cfg_of_guard? hns' hw))
  not_docs v p h := by
    have hfeature := requires_injective (toPredicate_eq_ok_iff.1 h).2
    rw [featureIn_eq] at hfeature
    exact crateFeature_ne_docsFeature _ v hfeature
  read_back v p hv := by
    refine ⟨_, toPredicate_eq_ok_iff.2 ⟨hv, rfl⟩, toFeature_eq_ok_iff.2 ⟨hv, rfl⟩, ?_⟩
    rw [← featureIn_eq, parse_predicate_iff, isPlainTag_iff_notMem]

/-! ### What is not told -/

/-- A version whose first number has one digit too many. -/
def longVersion : Version := ⟨10 ^ digitLimit, 0, 0⟩

theorem not_isPrintable {n : Int} (h : 10 ^ digitLimit ≤ n.natAbs) (minor patch : Int) :
    ¬IsPrintable ⟨n, minor, patch⟩ :=
  fun hprint => Nat.not_lt.2 h (hprint n List.mem_cons_self)

theorem not_isPrintable_longVersion : ¬longVersion.IsPrintable := by
  have hlong : 10 ^ digitLimit ≤ ((10 : Int) ^ digitLimit).natAbs := by
    rw [Int.natAbs_pow]
    exact Nat.pow_le_pow_left (by decide) _
  exact not_isPrintable hlong 0 0

/-- The main crate has a name and that of the other namespace has none. -/
def namelessEnv : Env :=
  ⟨⟨[⟨"Gtk", "gtk", "ffi", none⟩, ⟨"Gio", "", "gio_ffi", none⟩], {}⟩, {}⟩

/-- A version whose number is too long does not even share a predicate with itself. A namespace
whose crate has no name shares its guards with the one being bound, whose features carry no crate,
although that has a name. -/
theorem not_every_version_named :
    (¬∀ (v w : Version) (p q : Option String),
      (∃ s, v.toPredicate p = .ok s ∧ w.toPredicate q = .ok s) ↔
        v = w ∧ p.getD "" = q.getD "") ∧
    ¬∀ (env : Env) (id id' : Int) (n n' : Namespace) (v : Version) (g g' : Guard),
      env.library.namespace? id = some n → env.library.namespace? id' = some n' →
      n.crateName ≠ n'.crateName → env.guard? (some id) (some v) = .ok (some g) →
      env.guard? (some id') (some v) = .ok (some g') → g ≠ g' := by
  constructor
  · intro h
    obtain ⟨s, hs, -⟩ := (h longVersion longVersion none none).2 ⟨rfl, rfl⟩
    rw [toPredicate_eq_error not_isPrintable_longVersion] at hs
    cases hs
  · intro h
    have hguard : namelessEnv.guard? (some 0) (some ⟨2, 58, 0⟩) =
        .ok (some ⟨"feature = \"v2_58\""⟩) := rfl
    exact h namelessEnv 0 1 ⟨"Gtk", "gtk", "ffi", none⟩ ⟨"Gio", "", "gio_ffi", none⟩ ⟨2, 58, 0⟩ _ _
      rfl rfl (by decide) hguard rfl rfl

/-- A crate whose name ends like a feature, a version below zero, and a name with a quote. -/
theorem predicate_names_version_gio :
    toPredicate (some "gio_v2") ⟨58, 0, 0⟩ ≠ toPredicate (some "gio") ⟨2, 58, 0⟩ ∧
    toPredicate none ⟨-1, 0, -3⟩ ≠ .ok docsPredicate ∧
    (∀ v : Version, v.IsPrintable → ∀ g, dependentEnv.guard? none (some v) = .ok (some g) →
      dependentEnv.guard? (some 1) (some ⟨2, 58, 0⟩) ≠ .ok (some g)) ∧
    (∃ s, toPredicate (some "gio") ⟨2, 58, 0⟩ = .ok s ∧
      Predicate.parse s = .ok (.keyValue "feature" "gio_v2_58")) ∧
    ∃ s, toPredicate (some "g\"") ⟨2, 58, 0⟩ = .ok s ∧
      Predicate.parse s ≠ .ok (.keyValue "feature" "g\"_v2_58") := by
  have hshort : ∀ n : Int, n.natAbs < 10 ^ 2 → n.natAbs < 10 ^ digitLimit := fun n hn =>
    hn.trans_le (Nat.pow_le_pow_right (by decide) (by decide))
  have hprint : ∀ v : Version, (∀ n ∈ [v.major, v.minor, v.patch], n.natAbs < 10 ^ 2) →
      v.IsPrintable := fun v hv n hn => hshort n (hv n hn)
  have hgio : dependentEnv.Binds (some 1) (some ⟨2, 56, 0⟩) "gio" :=
    .dependency (by decide) (n := ⟨"Gio", "gio", "gio_ffi", some ⟨2, 56, 0⟩⟩) rfl
  have h258 : IsPrintable ⟨2, 58, 0⟩ := hprint _ (by decide)
  obtain ⟨s, hs, -, hparse⟩ := predicate_names_version.read_back ⟨2, 58, 0⟩ (some "gio") h258
  obtain ⟨s', hs', -, hquote⟩ := predicate_names_version.read_back ⟨2, 58, 0⟩ (some "g\"") h258
  refine ⟨fun h => ?_, predicate_names_version.not_docs _ none, fun v hv g hg h => ?_,
    ⟨s, hs, hparse.2 ?_⟩, s', hs', fun h => ?_⟩
  · have h58 : IsPrintable ⟨58, 0, 0⟩ := hprint _ (by decide)
    obtain ⟨hversion, -⟩ := (predicate_names_version.injective _ _ _ _ h58).1 h
    exact absurd hversion (by decide)
  · obtain ⟨-, hcrate⟩ :=
      predicate_names_version.unshared _ _ _ _ _ _ _ _ _ _ .bound hgio hv h258 hg h
    exact absurd hcrate (by decide)
  · rintro t ⟨rfl⟩
    decide
  · exact (hquote.1 h _ rfl).1 (by decide)

end Bindery.Version
