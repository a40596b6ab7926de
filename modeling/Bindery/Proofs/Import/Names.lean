import Bindery.Proofs.Import.Qualified
import Bindery.Proofs.Import.Statement

/-!
# Names in requests and groups

A qualified name is split at its first `::` and put together again when it is printed.

1. The part before the first `::` has no other, so the two parts tell the name
   (`SplitsFirst.not_infix_front`, `eq_of_parts`).
2. Requests have the names of their imports, in their order, and groups rearrange them
   (`names_aggregate_perm`).
3. Nothing is grouped when a name cannot be split, and the least such name is reported
   (`stops_uses`).
-/

namespace Bindery

open Emit

/-! ## Parts of a name -/

theorem SplitsFirst.not_infix_front {pat cs as bs : List Char} (h : SplitsFirst pat cs as bs)
    (hpat : pat ≠ []) : ¬pat <:+: as := by
  rintro ⟨front, back, rfl⟩
  have hearlier : front ++ (pat ++ (back ++ (pat ++ bs))) = cs := by
    rw [← h.eq]
    simp only [List.append_assoc]
  have hle := h.length_le front _ hearlier
  have hpos := List.length_pos_of_ne_nil hpat
  simp only [List.length_append] at hle
  omega

/-- A name is not qualified when it has no `::`, or nothing before the first or behind it. -/
theorem not_isQualified_iff {name : String} : ¬IsQualified name ↔
    ¬"::".toList <:+: name.toList ∨
      ∃ front back, SplitsFirst "::".toList name.toList front back ∧ (front = [] ∨ back = []) := by
  rcases splitFirst?_spec "::".toList name.toList with ⟨front, back, -, hfirst⟩ | ⟨-, hnot⟩
  · have hinfix : "::".toList <:+: name.toList := ⟨front, back, by
      rw [List.append_assoc]
      exact hfirst.eq⟩
    constructor
    · intro h
      refine .inr ⟨front, back, hfirst, ?_⟩
      by_contra hparts
      obtain ⟨hfront, hback⟩ := not_or.1 hparts
      exact h ⟨front, back, hfront, hback, hfirst⟩
    · rintro (hnone | ⟨as, bs, h, hparts⟩) ⟨crate, symbol, hcrate, hsymbol, hsplits⟩
      · exact hnone hinfix
      · obtain ⟨rfl, rfl⟩ := h.unique hsplits
        exact hparts.elim hcrate hsymbol
  · refine iff_of_true ?_ (.inl ?_)
    · rintro ⟨crate, symbol, -, -, hsplits⟩
      exact hnot crate symbol hsplits.eq
    · rintro ⟨front, back, h⟩
      rw [List.append_assoc] at h
      exact hnot front back h

section OfName

variable {name name' : String} {sc sc' : Scope String} {r r' : ImportRequest String}

theorem splits_of_ofName (h : ImportRequest.ofName name sc = .ok r) :
    SplitsFirst "::".toList name.toList r.crate.toList r.symbol.toList := by
  unfold ImportRequest.ofName at h
  rcases splitFirst?_spec "::".toList name.toList with ⟨front, back, hsplit, hfirst⟩ | ⟨hnone, -⟩
  · simp only [hsplit] at h
    split at h
    · cases h
    · cases h
      simpa only [String.toList_ofList] using hfirst
  · simp only [hnone] at h
    cases h

/-- The crate of a request has no `::`. -/
theorem not_infix_crate (h : ImportRequest.ofName name sc = .ok r) :
    ¬"::".toList <:+: r.crate.toList := (splits_of_ofName h).not_infix_front (by decide)

/-- The parts of a name tell it. -/
theorem eq_of_parts (h : ImportRequest.ofName name sc = .ok r)
    (h' : ImportRequest.ofName name' sc' = .ok r') (hcrate : r.crate = r'.crate)
    (hsymbol : r.symbol = r'.symbol) : name = name' := by
  rw [← (ofName_eq_ok h).1, ← (ofName_eq_ok h').1, ImportRequest.name, ImportRequest.name, hcrate,
    hsymbol]

end OfName

/-! ## Names in groups -/

/-- The qualified names of a group. -/
def ImportGroup.names (g : ImportGroup String) : List String :=
  g.symbols.map (g.key.crate ++ "::" ++ ·)

/-- Whether a name is in one of some groups alone, and there once. -/
def InOneGroup (name : String) (gs : List (ImportGroup String)) : Prop :=
  ∃ front g back, gs = front ++ g :: back ∧ g.names.count name = 1 ∧
    ∀ g' ∈ front ++ back, name ∉ g'.names

theorem inOneGroup_of_nodup {gs : List (ImportGroup String)} {name : String}
    (h : (gs.flatMap ImportGroup.names).Nodup) (hname : name ∈ gs.flatMap ImportGroup.names) :
    InOneGroup name gs := by
  obtain ⟨g, hg, hmem⟩ := List.mem_flatMap.1 hname
  obtain ⟨front, back, rfl⟩ := List.append_of_mem hg
  rw [List.flatMap_append, List.flatMap_cons, List.nodup_append', List.nodup_append'] at h
  obtain ⟨-, ⟨hnodup, -, hback⟩, hfront⟩ := h
  refine ⟨front, g, back, rfl, List.count_eq_one_of_mem hnodup hmem, fun g' hg' hname' => ?_⟩
  rcases List.mem_append.1 hg' with hg' | hg'
  · exact hfront (List.mem_flatMap.2 ⟨g', hg', hname'⟩) (List.mem_append_left _ hmem)
  · exact hback hmem (List.mem_flatMap.2 ⟨g', hg', hname'⟩)

section Imports

variable {i : Imports String} {rs : List (ImportRequest String)}

/-- The names of the groups are those of the imports. -/
theorem names_aggregate_perm (hi : i.names.Pairwise (· < ·)) (h : i.requests = .ok rs) (env : Env)
    (outer : Option Version) :
    ((ImportGroup.aggregate env rs outer).flatMap ImportGroup.names).Perm i.names := by
  have hstatements : (statementsOf env outer rs).flatMap UseStatement.names =
      (ImportGroup.aggregate env rs outer).flatMap ImportGroup.names := by
    unfold statementsOf
    rw [List.flatMap_map]
    rfl
  rw [← hstatements, ← names_of_requests h]
  refine (List.perm_ext_iff_of_nodup (nodup_names (eq_of_name_eq hi h)) ?_).2 fun name => ?_
  · rw [names_of_requests h]
    exact hi.imp String.ne_of_lt
  · rw [List.mem_flatMap, List.mem_map]
    constructor
    · rintro ⟨u, hu, hname⟩
      obtain ⟨r, hr, hrname, -⟩ := attributes_of_mem hu hname
      exact ⟨r, hr, hrname⟩
    · rintro ⟨r, hr, rfl⟩
      exact exists_statement hr

/-- Where the imports have no requests, an empty line is all that is printed. -/
theorem stops_uses {e : InternalError} (h : i.requests = .error e) (env : Env)
    (outer : Option Version) : Stops (uses env i outer) e [""] :=
  (prints_line "").bind_stops ((stops_lift h).bind _)

end Imports

/-- How names go through requests, and through the groups that an environment makes of them. -/
structure KeepsNames (env : Env) (outer : Option Version) : Prop where
  /-- A name is refused unless it is qualified. -/
  refused_iff : ∀ (name : String) (sc : Scope String),
    ImportRequest.ofName name sc = .error ⟨.unqualifiedImport name, none⟩ ↔ ¬IsQualified name
  /-- It is not when it has no `::`, or nothing before the first or behind it. -/
  unqualified_iff : ∀ name : String, ¬IsQualified name ↔ ¬"::".toList <:+: name.toList ∨
    ∃ front back, SplitsFirst "::".toList name.toList front back ∧ (front = [] ∨ back = [])
  /-- A qualified name is its crate and its symbol with `::` between them, and there is no `::` in
  the crate. -/
  accepted : ∀ (name : String) (sc : Scope String), IsQualified name →
    ∃ r, ImportRequest.ofName name sc = .ok r ∧ r.crate ++ "::" ++ r.symbol = name ∧
      r.scope = sc ∧ ¬"::".toList <:+: r.crate.toList
  /-- Different names do not have the same parts. -/
  parts_ne : ∀ (name name' : String) (sc sc' : Scope String) (r r' : ImportRequest String),
    ImportRequest.ofName name sc = .ok r → ImportRequest.ofName name' sc' = .ok r' →
    name ≠ name' → (r.crate, r.symbol) ≠ (r'.crate, r'.symbol)
  /-- Imports have increasing names, whatever is asked for. -/
  increasing : ∀ asks : List Ask, (Imports.ofAsks asks).names.Pairwise (· < ·)
  /-- Where all names are qualified, each is in one group and once there, and nothing else is in a
  group. -/
  grouped : ∀ i : Imports String, i.names.Pairwise (· < ·) →
    (∀ name ∈ i.names, IsQualified name) → ∃ rs, i.requests = .ok rs ∧
      (∀ name ∈ i.names, InOneGroup name (ImportGroup.aggregate env rs outer)) ∧
      ∀ g ∈ ImportGroup.aggregate env rs outer, ∀ name ∈ g.names, name ∈ i.names
  /-- Otherwise an empty line is printed, and the least name that is not is reported. -/
  reported : ∀ i : Imports String, i.names.Pairwise (· < ·) →
    (∃ name ∈ i.names, ¬IsQualified name) → ∃ name, LeastUnqualified i.names name ∧
      Stops (uses env i outer) ⟨.unqualifiedImport name, none⟩ [""]

/-- Names are not lost on the way through requests and groups. -/
theorem names_survive (env : Env) (outer : Option Version) : KeepsNames env outer where
  refused_iff name sc := by
    rcases ofName_spec name sc with ⟨hname, r, hr⟩ | ⟨hname, herror⟩
    · exact iff_of_false (by rw [hr]; nofun) (not_not_intro hname)
    · exact iff_of_true herror hname
  unqualified_iff _ := not_isQualified_iff
  accepted name sc hname := by
    rcases ofName_spec name sc with ⟨-, r, hr⟩ | ⟨hnot, -⟩
    · obtain ⟨hrname, hscope⟩ := ofName_eq_ok hr
      exact ⟨r, hr, hrname, hscope, not_infix_crate hr⟩
    · exact absurd hname hnot
  parts_ne name name' sc sc' r r' hr hr' hne hparts := by
    obtain ⟨hcrate, hsymbol⟩ := Prod.mk.inj hparts
    exact hne (eq_of_parts hr hr' hcrate hsymbol)
  increasing := names_ofAsks_increasing
  grouped i hi hall := by
    rcases requests_spec hi with ⟨-, rs, hrs⟩ | ⟨name, hleast, -⟩
    · have hperm := names_aggregate_perm hi hrs env outer
      have hnodup := hperm.nodup_iff.2 (hi.imp String.ne_of_lt)
      refine ⟨rs, hrs, fun name hname => ?_, fun g hg name hname => ?_⟩
      · exact inOneGroup_of_nodup hnodup (hperm.mem_iff.2 hname)
      · exact hperm.mem_iff.1 (List.mem_flatMap.2 ⟨g, hg, hname⟩)
    · exact absurd (hall name hleast.mem) hleast.not_qualified
  reported i hi hbad := by
    rcases requests_spec hi with ⟨hall, -⟩ | ⟨name, hleast, herror⟩
    · obtain ⟨name, hname, hnot⟩ := hbad
      exact absurd (hall name hname) hnot
    · exact ⟨name, hleast, stops_uses herror env outer⟩

/-- Two calls for symbols of one crate, the second with further separators. -/
def pathAsks : List Ask := [⟨"glib::Object", none, []⟩, ⟨"glib:::translate::*", none, []⟩]

/-- Two calls for names without a crate. -/
def bareAsks : List Ask := [⟨"Object", none, []⟩, ⟨"::File", none, []⟩, ⟨"gio::File", none, []⟩]

/-- Only the first separator counts, also in what is grouped, and of the names without a crate the
one that starts with a separator comes first. -/
theorem names_survive_pathAsks :
    (∀ sc : Scope String, ∃ r, ImportRequest.ofName "glib:::translate::*" sc = .ok r ∧
      r.crate ++ "::" ++ r.symbol = "glib:::translate::*" ∧ ¬"::".toList <:+: r.crate.toList) ∧
    (∃ r r' : ImportRequest String, ImportRequest.ofName "glib:::translate::*" {} = .ok r ∧
      ImportRequest.ofName "glib::translate::*" {} = .ok r' ∧
      (r.crate, r.symbol) ≠ (r'.crate, r'.symbol)) ∧
    (∃ rs, (Imports.ofAsks pathAsks).requests = .ok rs ∧
      InOneGroup "glib:::translate::*" (ImportGroup.aggregate ⟨{}, {}⟩ rs none)) ∧
    Stops (uses ⟨{}, {}⟩ (Imports.ofAsks bareAsks) none) ⟨.unqualifiedImport "::File", none⟩
      [""] := by
  have hsurvive := names_survive ⟨{}, {}⟩ none
  refine ⟨fun sc => ?_, ?_, ?_, ?_⟩
  · obtain ⟨r, hr, hrname, -, hcrate⟩ := hsurvive.accepted "glib:::translate::*" sc (by decide)
    exact ⟨r, hr, hrname, hcrate⟩
  · obtain ⟨r, hr, -⟩ := hsurvive.accepted "glib:::translate::*" {} (by decide)
    obtain ⟨r', hr', -⟩ := hsurvive.accepted "glib::translate::*" {} (by decide)
    exact ⟨r, r', hr, hr', hsurvive.parts_ne _ _ _ _ r r' hr hr' (by decide)⟩
  · have hall : ∀ name ∈ (Imports.ofAsks pathAsks).names, IsQualified name := by
      intro name h
      exact (by decide : ∀ name ∈ pathAsks.map Ask.name, IsQualified name) name
        (mem_names_ofAsks.1 h)
    obtain ⟨rs, hrs, hone, -⟩ := hsurvive.grouped _ (hsurvive.increasing pathAsks) hall
    exact ⟨rs, hrs, hone _ (mem_names_ofAsks.2 (by decide))⟩
  · have hbad : "Object" ∈ (Imports.ofAsks bareAsks).names := mem_names_ofAsks.2 (by decide)
    obtain ⟨name, hleast, hstops⟩ :=
      hsurvive.reported _ (hsurvive.increasing bareAsks) ⟨"Object", hbad, by decide⟩
    have hasked : name ∈ bareAsks.map Ask.name := mem_names_ofAsks.1 hleast.mem
    have hle := hleast.le "::File" (mem_names_ofAsks.2 (by decide)) (by decide)
    have hfile : name = "::File" := by
      simp only [bareAsks, List.map_cons, List.map_nil, List.mem_cons, List.not_mem_nil,
        or_false] at hasked
      rcases hasked with rfl | rfl | rfl
      · exact absurd hle (by decide)
      · rfl
      · exact absurd (by decide) hleast.not_qualified
    rwa [← hfile]

end Bindery
