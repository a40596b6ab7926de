import Bindery.Proofs.Import.Grouping
import Bindery.Proofs.Import.Registered
import Bindery.Proofs.Result

/-!
# Qualified names

A name is accepted when its first `::` has something on both sides. Of the names that are not, the
least is reported.
-/

namespace Bindery

/-! ## The first occurrence -/

/-- Whether a text is split into two parts by the first occurrence of a text in it. -/
structure SplitsFirst (pat cs as bs : List Char) : Prop where
  eq : as ++ (pat ++ bs) = cs
  length_le : ∀ as' bs', as' ++ (pat ++ bs') = cs → as.length ≤ as'.length

theorem SplitsFirst.cons {pat cs as bs : List Char} {c : Char} (h : SplitsFirst pat cs as bs)
    (hpat : ¬pat <+: c :: cs) : SplitsFirst pat (c :: cs) (c :: as) bs where
  eq := congrArg _ h.eq
  length_le as' bs' heq := by
    cases as' with
    | nil => exact absurd ⟨bs', heq⟩ hpat
    | cons a as' => exact Nat.succ_le_succ (h.length_le as' bs' (List.cons.inj heq).2)

theorem SplitsFirst.unique {pat cs as bs as' bs' : List Char} (h : SplitsFirst pat cs as bs)
    (h' : SplitsFirst pat cs as' bs') : as = as' ∧ bs = bs' := by
  have hlength := Nat.le_antisymm (h.length_le _ _ h'.eq) (h'.length_le _ _ h.eq)
  obtain ⟨has, hrest⟩ := List.append_inj (h.eq.trans h'.eq.symm) hlength
  exact ⟨has, List.append_cancel_left hrest⟩

/-- A text is split where the other text stands first, unless that does not occur in it. -/
theorem splitFirst?_spec (pat cs : List Char) :
    (∃ as bs, Text.splitFirst? pat cs = some (as, bs) ∧ SplitsFirst pat cs as bs) ∨
      (Text.splitFirst? pat cs = none ∧ ∀ as bs, as ++ (pat ++ bs) ≠ cs) := by
  induction cs with
  | nil =>
    rw [Text.splitFirst?]
    cases pat with
    | nil => exact .inl ⟨[], [], rfl, rfl, fun _ _ _ => Nat.zero_le _⟩
    | cons p pat => exact .inr ⟨rfl, by simp⟩
  | cons c cs ih =>
    rw [Text.splitFirst?]
    by_cases hpat : pat.isPrefixOf (c :: cs) = true
    · rw [if_pos hpat]
      obtain ⟨bs, hbs⟩ := List.isPrefixOf_iff_prefix.1 hpat
      refine .inl ⟨[], _, rfl, ?_, fun _ _ _ => Nat.zero_le _⟩
      rw [← hbs, List.drop_left]
      rfl
    · have hprefix : ¬pat <+: c :: cs := fun h => hpat (List.isPrefixOf_iff_prefix.2 h)
      rw [if_neg hpat]
      rcases ih with ⟨as, bs, hsplit, hfirst⟩ | ⟨hnone, hnot⟩
      · exact .inl ⟨c :: as, bs, by rw [hsplit]; rfl, hfirst.cons hprefix⟩
      · refine .inr ⟨by rw [hnone]; rfl, fun as bs heq => ?_⟩
        cases as with
        | nil => exact hprefix ⟨bs, heq⟩
        | cons a as => exact hnot as bs (List.cons.inj heq).2

/-! ## Names -/

/-- Whether a name has something before its first `::` and something after it. -/
def IsQualified (name : String) : Prop :=
  ∃ crate symbol, crate ≠ [] ∧ symbol ≠ [] ∧ SplitsFirst "::".toList name.toList crate symbol

/-- A qualified name is accepted, and any other is reported. -/
theorem ofName_spec (name : String) (sc : Scope String) :
    (IsQualified name ∧ ∃ r, ImportRequest.ofName name sc = .ok r) ∨
      (¬IsQualified name ∧
        ImportRequest.ofName name sc = .error ⟨.unqualifiedImport name, none⟩) := by
  unfold ImportRequest.ofName
  rcases splitFirst?_spec "::".toList name.toList with ⟨as, bs, hsplit, hfirst⟩ | ⟨hnone, hnot⟩
  · rw [hsplit]
    by_cases hempty : (as.isEmpty || bs.isEmpty) = true
    · refine .inr ⟨?_, if_pos hempty⟩
      rintro ⟨crate, symbol, hcrate, hsymbol, h⟩
      obtain ⟨rfl, rfl⟩ := hfirst.unique h
      simp [hcrate, hsymbol] at hempty
    · refine .inl ⟨⟨as, bs, ?_, ?_, hfirst⟩, _, if_neg hempty⟩
      · rintro rfl
        exact hempty rfl
      · rintro rfl
        exact hempty (Bool.or_true _)
  · rw [hnone]
    exact .inr ⟨fun ⟨crate, symbol, _, _, h⟩ => hnot crate symbol h.eq, rfl⟩

theorem isQualified_of_ofName {name : String} {sc : Scope String}
    (h : ∃ r, ImportRequest.ofName name sc = .ok r) : IsQualified name := by
  obtain ⟨r, hr⟩ := h
  rcases ofName_spec name sc with ⟨hname, -⟩ | ⟨-, herror⟩
  · exact hname
  · rw [hr] at herror
    cases herror

theorem isQualified_iff {name : String} :
    IsQualified name ↔ (ImportRequest.ofName name ({} : Scope String)).isOk = true := by
  rcases ofName_spec name {} with ⟨h, r, hr⟩ | ⟨h, herror⟩
  · exact iff_of_true h (by rw [hr]; rfl)
  · exact iff_of_false h (by rw [herror]; exact Bool.false_ne_true)

instance : DecidablePred IsQualified := fun _ => decidable_of_iff _ isQualified_iff.symm

/-- Only the first `::` counts. -/
example : IsQualified "glib::translate::*" ∧ ¬IsQualified "::glib::Object" := by decide

/-- The least of some names that is not qualified. -/
structure LeastUnqualified (names : List String) (name : String) : Prop where
  mem : name ∈ names
  not_qualified : ¬IsQualified name
  le : ∀ other ∈ names, ¬IsQualified other → name ≤ other

theorem LeastUnqualified.congr {names names' : List String} {name : String}
    (h : LeastUnqualified names name) (hnames : ∀ other, other ∈ names ↔ other ∈ names') :
    LeastUnqualified names' name where
  mem := (hnames name).1 h.mem
  not_qualified := h.not_qualified
  le other hother := h.le other ((hnames other).2 hother)

/-- Imports with qualified names have requests. Of others, the least is reported. -/
theorem requests_spec {i : Imports String} (h : i.names.Pairwise (· < ·)) :
    ((∀ name ∈ i.names, IsQualified name) ∧ ∃ rs, i.requests = .ok rs) ∨
      ∃ name, LeastUnqualified i.names name ∧
        i.requests = .error ⟨.unqualifiedImport name, none⟩ := by
  rcases mapM_ok_or_error (fun e : String × Scope String => ImportRequest.ofName e.1 e.2)
    i.entries with ⟨rs, hrs, hall⟩ | ⟨front, e, back, err, heq, hfront, he, herror⟩
  · refine .inl ⟨fun name hname => ?_, rs, hrs⟩
    obtain ⟨e, he, rfl⟩ := List.mem_map.1 hname
    exact isQualified_of_ofName (hall e he)
  · rcases ofName_spec e.1 e.2 with ⟨-, r, hr⟩ | ⟨hnot, hname⟩
    · rw [hr] at he
      cases he
    obtain rfl : _ = err := Except.error.inj (hname.symm.trans he)
    have hnames : i.names = front.map (·.1) ++ e.1 :: back.map (·.1) := by
      unfold Imports.names
      rw [heq, List.map_append, List.map_cons]
    refine .inr ⟨e.1, ⟨?_, hnot, fun other hother hbad => ?_⟩, herror⟩
    · rw [hnames]
      simp
    · rw [hnames] at hother h
      rcases List.mem_append.1 hother with hother | hother
      · obtain ⟨c, hc, rfl⟩ := List.mem_map.1 hother
        exact absurd (isQualified_of_ofName (hfront c hc)) hbad
      · rcases List.mem_cons.1 hother with rfl | hother
        · exact String.le_refl _
        · have hback := (List.pairwise_append.1 h).2.1
          exact String.lt_asymm ((List.pairwise_cons.1 hback).1 other hother)

theorem requests_ofAsks_spec (asks : List Ask) :
    ((∀ a ∈ asks, IsQualified a.name) ∧ ∃ rs, (Imports.ofAsks asks).requests = .ok rs) ∨
      ∃ name, LeastUnqualified (asks.map Ask.name) name ∧
        (Imports.ofAsks asks).requests = .error ⟨.unqualifiedImport name, none⟩ := by
  rcases requests_spec (names_ofAsks_increasing asks) with ⟨hall, hrs⟩ | ⟨name, hleast, herror⟩
  · exact .inl ⟨fun a ha => hall _ (mem_names_ofAsks.2 (List.mem_map_of_mem ha)), hrs⟩
  · exact .inr ⟨name, hleast.congr fun _ => mem_names_ofAsks, herror⟩

end Bindery
