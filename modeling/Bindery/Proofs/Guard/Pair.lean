import Bindery.Proofs.Guard.CodeLines
import Bindery.Proofs.Library

/-!
# A guard and its complement

The attributes of a version and those of its complement let exactly one of two variants be compiled,
as long as the version is newer than the baseline of its namespace. Otherwise the first is always
compiled, and the second often too.
-/

namespace Bindery

open Emit Predicate Text

/-! ## Namespaces -/

/-- A namespace, the version that it guarantees, and the crate that its features are named for. The
namespace being bound guarantees the configured version, and its features are named for no crate. -/
inductive Env.Binds (env : Env) : Option Int → Option Version → String → Prop
  | bound : Binds env none env.config.minVersion ""
  | main : Binds env (some mainId) env.config.minVersion ""
  | dependency {id : Int} {n : Namespace} : id ≠ mainId → env.library.namespace? id = some n →
    Binds env (some id) n.minVersion n.crateName

/-- The feature of a version for a crate; the empty crate is none. -/
def crateFeature (crate : String) (v : Version) : String :=
  if crate = "" then v.feature else crate ++ "_" ++ v.feature

/-- A namespace has a baseline, and a tag that names its features for its crate. -/
theorem Env.Binds.exists_tag {env : Env} {ns : Option Int} {baseline : Option Version}
    {crate : String} (h : env.Binds ns baseline crate) :
    ∃ tag, env.baseline ns = .ok baseline ∧ env.crateTag ns = .ok tag ∧
      (∀ t ∈ tag, t = crate) ∧ ∀ v : Version, v.featureIn tag = crateFeature crate v := by
  cases h with
  | bound => exact ⟨none, rfl, rfl, nofun, fun v => rfl⟩
  | main => exact ⟨none, rfl, rfl, nofun, fun v => rfl⟩
  | @dependency id n hid hn =>
    have hfind := Library.findNamespace_eq_ok.2 hn
    refine ⟨some n.crateName, ?_, ?_, by simp, fun v => ?_⟩
    · unfold Env.baseline
      simp only [if_neg hid, hfind]
      rfl
    · unfold Env.crateTag
      simp only [if_neg hid, hfind]
      rfl
    · simp [Version.featureIn, Version.tagged, crateFeature, String.isEmpty_iff]

/-! ## The texts of the two writers -/

section Texts

variable {env : Env} {ns : Option Int} {version : Option Version} {tag : Option String}

/-- The lines of a guard, where there is one. -/
def guardLines (guard : Option Guard) (m : Margin) : List (List Char) :=
  guard.elim [] fun g => [(g.compileAttribute m).toList, (g.docAttribute m).toList]

/-- The line of the complement of a version, where there is one. -/
def complementLines (tag : Option String) (version : Option Version) (m : Margin) :
    List (List Char) :=
  version.elim [] fun v => [((Guard.mk (v.predicate tag)).complementAttribute m).toList]

theorem toList_text_guarded {guard : Option Guard} (h : env.guard? ns version = .ok guard)
    (m : Margin) : (versionCondition env ns version m).text.toList =
      (guardLines guard m).flatMap fun l => l ++ ['\n'] := by
  rw [(prints_guarded h m).toList_text]
  cases guard with
  | none => rfl
  | some g => simp [guardLines, toList_render]

theorem toList_text_complement (h : env.crateTag ns = .ok tag) (m : Margin) :
    (notVersionConditionNoDocs env ns version m).text.toList =
      (complementLines tag version m).flatMap fun l => l ++ ['\n'] := by
  cases version with
  | none => rfl
  | some v =>
    rw [(prints_complement h v m).toList_text]
    rfl

end Texts

/-! ## Where they are active -/

/-- Whether documentation is built or the feature of a version is on; an absent version is never
shown. -/
def Predicate.Settings.shows (s : Settings) (tag : Option String) (version : Option Version) :
    Bool :=
  version.any fun v => s.feature (v.featureIn tag) || s.feature docsFeature

section Active

variable {env : Env} {ns : Option Int} {baseline version : Option Version} {tag : Option String}

theorem forall_mem_guardLines {P : List Char → Prop} {m : Margin}
    (hcompile : ∀ v : Version, P ((Guard.mk (v.predicate tag)).compileAttribute m).toList)
    (hdoc : ∀ v : Version, P ((Guard.mk (v.predicate tag)).docAttribute m).toList) :
    ∀ l ∈ guardLines (Guard.resolve? version baseline tag) m, P l := by
  cases hguard : Guard.resolve? version baseline tag with
  | none => exact nofun
  | some g =>
    obtain ⟨v, -, -, rfl⟩ := resolve?_eq_some hguard
    exact List.forall_mem_cons.2 ⟨hcompile v, List.forall_mem_singleton.2 (hdoc v)⟩

theorem forall_mem_complementLines {P : List Char → Prop} {m : Margin}
    (h : ∀ v : Version, P ((Guard.mk (v.predicate tag)).complementAttribute m).toList) :
    ∀ l ∈ complementLines tag version m, P l := by
  cases version with
  | none => exact nofun
  | some v => exact List.forall_mem_singleton.2 (h v)

variable (htag : Version.IsPlainTag tag)

include htag

theorem isCodeLine_predicate (v : Version) :
    IsCodeLine (Guard.mk (v.predicate tag)).cfg.toList :=
  isCodeLine_feature (Version.ne_quote_of_mem_featureIn htag v)

theorem isCodeLine_guardLines (m : Margin) :
    ∀ l ∈ guardLines (Guard.resolve? version baseline tag) m, IsCodeLine l :=
  forall_mem_guardLines (fun v => isCodeLine_compile (isCodeLine_predicate htag v) m)
    fun v => isCodeLine_doc (isCodeLine_predicate htag v) m

theorem isCodeLine_complementLines (m : Margin) :
    ∀ l ∈ complementLines tag version m, IsCodeLine l :=
  forall_mem_complementLines fun v => isCodeLine_complement (isCodeLine_predicate htag v) m

/-- What is guarded is compiled where no guard is needed, or where its version is shown. -/
theorem active_guarded (hbaseline : env.baseline ns = .ok baseline)
    (hcrate : env.crateTag ns = .ok tag) (indent : Int) (s : Settings) :
    (versionCondition env ns version ⟨false, indent⟩).active s =
      .ok (!Guard.isNeeded version baseline || s.shows tag version) := by
  have htext := toList_text_guarded (guard?_eq hbaseline hcrate version) ⟨false, indent⟩
  rw [active_of_lines htext (isCodeLine_guardLines htag _)]
  cases hguard : Guard.resolve? version baseline tag with
  | none =>
    rw [resolve?_eq_none.1 hguard]
    rfl
  | some g =>
    obtain ⟨v, rfl, hneeded, rfl⟩ := resolve?_eq_some hguard
    rw [hneeded, Bool.not_true, Bool.false_or]
    simp only [guardLines, Option.elim_some, List.filterMap_cons, List.filterMap_nil,
      String.ofList_toList, Guard.ofAttribute?_compileAttribute, ofAttribute?_docAttribute]
    exact allM_singleton (isActive_taggedPredicate s htag v)

/-- What is under the complement is compiled where its version is not shown. -/
theorem active_complement (hcrate : env.crateTag ns = .ok tag) (indent : Int) (s : Settings) :
    (notVersionConditionNoDocs env ns version ⟨false, indent⟩).active s =
      .ok (!s.shows tag version) := by
  rw [active_of_lines (toList_text_complement hcrate _) (isCodeLine_complementLines htag _)]
  cases version with
  | none => rfl
  | some v =>
    simp only [complementLines, Option.elim_some, List.filterMap_cons, List.filterMap_nil,
      String.ofList_toList, Guard.ofAttribute?_complementAttribute]
    exact allM_singleton (isActive_taggedComplement s htag v)

end Active

/-! ## The pair -/

/-- Two verdicts on whether code is compiled are opposite whatever features are on exactly where a
guard is needed. -/
theorem opposite_iff {tag : Option String} {version baseline : Option Version}
    (flag : String → Bool) :
    (∀ feature, (!Guard.isNeeded version baseline || Settings.shows ⟨feature, flag⟩ tag version) ≠
      !Settings.shows ⟨feature, flag⟩ tag version) ↔
        Guard.isNeeded version baseline = true := by
  constructor
  · intro h
    -- Without any feature nothing is shown, so the complement is compiled.
    have hnone : Settings.shows ⟨fun _ => false, flag⟩ tag version = false := by
      cases version <;> rfl
    simpa [hnone] using h fun _ => false
  · intro hneeded feature
    simp [hneeded]

/-- Two variants of code, the first under the attributes of a version of a namespace and the second
under those of its complement, with the guard of the version and when they are compiled. -/
structure IsPair (env : Env) (ns : Option Int) (baseline : Option Version) (crate : String)
    (version : Option Version) (i j : Int) (guard : Option Guard) (a b : Settings → Bool) :
    Prop where
  guard_eq : env.guard? ns version = .ok guard
  first_ok : (versionCondition env ns version ⟨false, i⟩).result = .ok ()
  second_ok : (notVersionConditionNoDocs env ns version ⟨false, j⟩).result = .ok ()
  first_active : ∀ s, (versionCondition env ns version ⟨false, i⟩).active s = .ok (a s)
  second_active : ∀ s, (notVersionConditionNoDocs env ns version ⟨false, j⟩).active s = .ok (b s)
  /-- Exactly one is compiled whatever features are on, if and only if there is a guard. -/
  opposite_iff : ∀ flag, (∀ feature, a ⟨feature, flag⟩ ≠ b ⟨feature, flag⟩) ↔ guard.isSome = true
  /-- There is one when the version is newer than the baseline of the namespace. -/
  guarded_iff : guard.isSome = true ↔ ∃ v ∈ version, ∀ u ∈ baseline, u < v
  /-- Under a guard the first is compiled for documentation and with the feature of the version. -/
  first_iff : guard.isSome = true → ∀ v ∈ version, ∀ s, a s = true ↔
    s.feature docsFeature = true ∨ s.feature (crateFeature crate v) = true
  /-- All lines above the variants are lines of code. -/
  code_lines : '\n' ∉ crate.toList →
    ∀ x ∈ [versionCondition env ns version ⟨false, i⟩,
        notVersionConditionNoDocs env ns version ⟨false, j⟩],
      codeLines x.text.toList = fields '\n' x.text.toList

/-- The attributes of a version and those of its complement make a pair, in any namespace whose
crate has a plain name. -/
theorem one_variant_compiled {env : Env} {ns : Option Int} {baseline : Option Version}
    {crate : String} (hns : env.Binds ns baseline crate)
    (hplain : ∀ c ∈ crate.toList, c ≠ '"' ∧ c ≠ '\\') (version : Option Version) (i j : Int) :
    ∃ guard a b, IsPair env ns baseline crate version i j guard a b := by
  obtain ⟨tag, hbaseline, hcrate, htag, hfeature⟩ := hns.exists_tag
  have hplainTag : Version.IsPlainTag tag := fun t ht => by rwa [htag t ht]
  have hguard := guard?_eq hbaseline hcrate version
  refine ⟨_, _, _, hguard, (prints_guarded hguard _).result, ?_,
    active_guarded hplainTag hbaseline hcrate i, active_complement hplainTag hcrate j,
    ?_, ?_, ?_, ?_⟩
  · cases version with
    | none => rfl
    | some v => exact (prints_complement hcrate v _).result
  · rw [isSome_resolve?]
    exact opposite_iff
  · rw [isSome_resolve?, isNeeded_iff_lt]
  · rintro hsome v rfl s
    rw [isSome_resolve?] at hsome
    simp [hsome, Settings.shows, hfeature, or_comm]
  · intro hbreak
    have hpredicate : ∀ v : Version, '\n' ∉ (Guard.mk (v.predicate tag)).cfg.toList :=
      Version.newline_notMem_predicate fun t ht => by rwa [htag t ht]
    refine List.forall_mem_cons.2 ⟨?_, List.forall_mem_singleton.2 ?_⟩
    · exact codeLines_eq_fields (toList_text_guarded hguard _) (isCodeLine_guardLines hplainTag _)
        (forall_mem_guardLines (fun v => newline_notMem_compile (hpredicate v) _)
          fun v => newline_notMem_doc (hpredicate v) _)
    · exact codeLines_eq_fields (toList_text_complement hcrate _)
        (isCodeLine_complementLines hplainTag _)
        (forall_mem_complementLines fun v => newline_notMem_complement (hpredicate v) _)

/-- Bindings of a library that rests on version 2.56 of another. -/
def dependentEnv : Env :=
  ⟨⟨[⟨"Gtk", "gtk", "ffi", none⟩, ⟨"Gio", "gio", "gio_ffi", some ⟨2, 56, 0⟩⟩], {}⟩, {}⟩

theorem one_variant_compiled_gio : dependentEnv.Binds (some 1) (some ⟨2, 56, 0⟩) "gio" ∧
    (∀ c ∈ "gio".toList, c ≠ '"' ∧ c ≠ '\\') ∧ ∃ a b : Settings → Bool,
      (∀ s, (versionCondition dependentEnv (some 1) (some ⟨2, 58, 0⟩) {}).active s = .ok (a s)) ∧
      (∀ s, (notVersionConditionNoDocs dependentEnv (some 1) (some ⟨2, 58, 0⟩) {}).active s =
        .ok (b s)) ∧
      ∀ flag feature, a ⟨feature, flag⟩ ≠ b ⟨feature, flag⟩ := by
  have hgio : dependentEnv.library.namespace? 1 =
    some ⟨"Gio", "gio", "gio_ffi", some ⟨2, 56, 0⟩⟩ := rfl
  have hns : dependentEnv.Binds (some 1) (some ⟨2, 56, 0⟩) "gio" :=
    .dependency (by decide) hgio
  have hplain : ∀ c ∈ "gio".toList, c ≠ '"' ∧ c ≠ '\\' := by simp
  obtain ⟨guard, a, b, hpair⟩ := one_variant_compiled hns hplain (some ⟨2, 58, 0⟩) 0 0
  have hnewer : ∀ u ∈ some (⟨2, 56, 0⟩ : Version), u < ⟨2, 58, 0⟩ := by
    rintro _ ⟨rfl⟩
    decide
  have hsome : guard.isSome = true := hpair.guarded_iff.2 ⟨_, rfl, hnewer⟩
  exact ⟨hns, hplain, a, b, hpair.first_active, hpair.second_active,
    fun flag => (hpair.opposite_iff flag).2 hsome⟩

end Bindery
