import Bindery.CommandLine.Run
import Mathlib.Data.List.Basic
import Mathlib.Tactic.SplitIfs

/-!
# What a run leaves behind

A run changes a directory only where its command is told to write.

1. Writing a file changes what is at its place, if anything (`changed_write`), and so the steps of a
   script change what is at the places that they write to (`changed_play`).
2. A command writes to the paths that it names and to no others, so these are all that can change
   (`changed_run`), and a file that was not there before is at one of them (`mem_newFiles_run`).
3. The messages of a run are shown one after the other as they come (`render_eq_join`).
-/

namespace Bindery

namespace CommandLine

/-! ## What changes -/

/-- Between two directories nothing has changed but at the places of some paths. -/
structure Changed (paths : List String) (before after : FileTree) : Prop where
  /-- What any other path leads to is as it was. -/
  frame : ∀ other, (∀ path ∈ paths, place other ≠ place path) →
    after.node? other = before.node? other
  /-- What is there was there, or is at one of the places. -/
  mem_or : ∀ e ∈ after, e ∈ before ∨ ∃ path ∈ paths, e.1 = place path

variable {paths paths' : List String} {t t' t'' : FileTree}

theorem Changed.refl (t : FileTree) : Changed [] t t := ⟨fun _ _ => rfl, fun _ => .inl⟩

theorem Changed.mono (h : Changed paths t t') (hsub : paths ⊆ paths') : Changed paths' t t' where
  frame other hother := h.frame other fun path hpath => hother path (hsub hpath)
  mem_or e he := (h.mem_or e he).imp_right fun ⟨path, hpath, heq⟩ => ⟨path, hsub hpath, heq⟩

theorem Changed.trans (h : Changed paths t t') (h' : Changed paths' t' t'') :
    Changed (paths ++ paths') t t'' where
  frame other hother := by
    rw [h'.frame other fun path hpath => hother path (List.mem_append_right _ hpath)]
    exact h.frame other fun path hpath => hother path (List.mem_append_left _ hpath)
  mem_or e he := by
    rcases h'.mem_or e he with he | ⟨path, hpath, heq⟩
    · exact (h.mono (List.subset_append_left _ _)).mem_or e he
    · exact .inr ⟨path, List.mem_append_right _ hpath, heq⟩

/-! ## Writing a file -/

theorem FileTree.put_eq (t : FileTree) (path text : String) : t.put path text =
    t.filter (fun e => e.1 != place path) ++ [(place path, .file text)] := rfl

theorem find?_put {p q : String} {n : Node} (h : p ≠ q) (t : FileTree) :
    (t.filter (fun e => e.1 != q) ++ [(q, n)]).find? (fun e => e.1 == p) =
      t.find? fun e => e.1 == p := by
  rw [List.find?_append, List.find?_filter, List.find?_cons_of_neg (by simpa using h.symm),
    List.find?_nil, Option.or_none]
  congr 1
  funext e
  by_cases he : e.1 = p
  · simp [he, h]
  · simp [he]

theorem changed_put (t : FileTree) (path text : String) : Changed [path] t (t.put path text) where
  frame other hother := by
    simp only [FileTree.node?, FileTree.put_eq, find?_put (hother path List.mem_cons_self)]
  mem_or e he := by
    rw [FileTree.put_eq] at he
    rcases List.mem_append.1 he with he | he
    · exact .inl (List.mem_of_mem_filter he)
    · obtain rfl := List.mem_singleton.1 he
      refine .inr ⟨path, List.mem_singleton.2 rfl, ?_⟩
      simp only

/-- A file that is written is put in its place, unless what is there keeps nothing. -/
theorem changed_write {path text : String} (h : t.write path text = .ok t') :
    Changed [path] t t' := by
  unfold FileTree.write at h
  split at h
  · cases h
  · split at h
    · cases h
    · obtain rfl := Except.ok.inj h
      exact (Changed.refl t).mono (List.nil_subset _)
    · obtain rfl := Except.ok.inj h
      exact changed_put t path text

/-! ## Playing a script -/

/-- Messages are logged before what comes after them, and do nothing else. -/
theorem play_logs_append (ending : Ending) (files : FileTree) (ms : List Log.Message)
    (as : List Action) : play ending files (ms.map .log ++ as) =
      { play ending files as with logged := ms ++ (play ending files as).logged } := by
  induction ms with
  | nil => rfl
  | cons m ms ih =>
    rw [List.map_cons, List.cons_append, play, ih]
    rfl

theorem play_logs (ending : Ending) (files : FileTree) (ms : List Log.Message) :
    play ending files (ms.map .log) = ⟨[], ms, files, ending⟩ := by
  have hplay := play_logs_append ending files ms []
  rwa [play, List.append_nil, List.append_nil] at hplay

/-- The path that a step writes to. -/
def Action.path? : Action → Option String
  | .write path _ => some path
  | _ => none

/-- The steps of a script change nothing but at the places that they write to. -/
theorem changed_play (ending : Ending) (t : FileTree) (as : List Action) :
    Changed (as.filterMap Action.path?) t (play ending t as).files := by
  induction as generalizing t with
  | nil => exact .refl t
  | cons a as ih =>
    cases a with
    | log m => exact ih t
    | print text => exact ih t
    | write path text =>
      rw [play]
      cases hwrite : t.write path text with
      | error f => exact (Changed.refl t).mono (List.nil_subset _)
      | ok t' => exact (changed_write hwrite).trans (ih t')

/-! ## Carrying out a command -/

/-- The paths that a command is told to write to. -/
def Command.targets : Command → List String
  | .gen _ output versionsFile => (givenPath? output).toList ++ (givenPath? versionsFile).toList
  | .guard .. => []
  | .cfg .. => []

theorem paths_logs (ms : List Log.Message) :
    (ms.map Action.log).filterMap Action.path? = [] := by
  simp [List.filterMap_map, Function.comp_def, Action.path?]

theorem paths_deliver (c : Config) (code : String) (output versionsFile : Option String) :
    (deliver c code output versionsFile).filterMap Action.path? ⊆
      (givenPath? output).toList ++ (givenPath? versionsFile).toList := by
  unfold deliver
  cases givenPath? output <;> cases givenPath? versionsFile <;>
    simp [writeFile, progress, List.filterMap_cons, Action.path?]

theorem paths_generate (b : Bindings) (output versionsFile : Option String) :
    (generate b output versionsFile).actions.filterMap Action.path? ⊆
      (givenPath? output).toList ++ (givenPath? versionsFile).toList := by
  unfold generate Script.after
  rw [List.filterMap_append, paths_logs, List.nil_append]
  split
  · exact List.nil_subset _
  · exact List.nil_subset _
  · exact paths_deliver _ _ _ _

theorem paths_genScript (path : String) (contents : Except FileFault String)
    (output versionsFile : Option String) :
    (genScript path contents output versionsFile).actions.filterMap Action.path? ⊆
      (givenPath? output).toList ++ (givenPath? versionsFile).toList := by
  have hfrom : ∀ r, (generateFrom r output versionsFile).actions.filterMap Action.path? ⊆
      (givenPath? output).toList ++ (givenPath? versionsFile).toList := by
    intro r
    unfold generateFrom
    split
    · exact List.nil_subset _
    · exact List.nil_subset _
    · exact paths_generate _ _ _
  unfold genScript
  cases contents with
  | ok text => exact hfrom _
  | error f =>
    simp only
    cases f.report? path <;> exact List.nil_subset _

theorem paths_printGuard (version : Version) (baseline : Option Version)
    (crateTag : Option String) (noDoc complement : Bool) :
    (printGuard version baseline crateTag noDoc complement).actions.filterMap Action.path? =
      [] := by
  unfold printGuard
  split <;> rfl

theorem paths_guardScript (version : String) (baseline : Option (Option String))
    (crateTag : Option String) (noDoc complement : Bool) :
    (guardScript version baseline crateTag noDoc complement).actions.filterMap Action.path? =
      [] := by
  unfold guardScript
  split
  · rfl
  · exact paths_printGuard _ _ _ _ _
  · rfl
  · split
    · rfl
    · exact paths_printGuard _ _ _ _ _

theorem paths_cfgScript (predicate : String) (features flags : List (Option String)) :
    (cfgScript predicate features flags).actions.filterMap Action.path? = [] := by
  unfold cfgScript
  split
  · unfold evaluate
    split <;> rfl
  · rfl

/-- The script of a command writes to its targets, whatever it reads. -/
theorem paths_script (c : Command) (contents : Except FileFault String) :
    (c.script contents).actions.filterMap Action.path? ⊆ c.targets := by
  cases c with
  | gen path output versionsFile => exact paths_genScript path contents output versionsFile
  | guard version baseline crateTag noDoc complement =>
    exact List.subset_nil.2 (paths_guardScript version baseline crateTag noDoc complement)
  | cfg predicate features flags =>
    exact List.subset_nil.2 (paths_cfgScript predicate features flags)

/-- A run changes nothing but at the places that its command is told to write to. -/
theorem changed_run (c : Command) (files : FileTree) :
    Changed c.targets files (c.run files).files :=
  (changed_play _ files _).mono (paths_script c _)

/-- What is in a directory is found at its place. -/
theorem node?_ne_none {e : String × Node} (he : e ∈ t) (hplace : place e.1 = e.1) :
    t.node? e.1 ≠ none := by
  have hfind : (t.find? fun other => other.1 == e.1) ≠ none := by
    rw [ne_eq, List.find?_eq_none]
    exact fun h => h e he (beq_self_eq_true e.1)
  simp only [FileTree.node?, hplace]
  split_ifs
  · nofun
  · rwa [ne_eq, Option.map_eq_none_iff]

/-- In a directory whose places are named without steps up, a file is new only where the command is
told to write. -/
theorem mem_newFiles_run {c : Command} {files : FileTree} {f : String × String}
    (hplaces : ∀ e ∈ files, place e.1 = e.1) (h : f ∈ (c.run files).newFiles files) :
    isWithin f.1 = true ∧ ∃ path ∈ c.targets, f.1 = place path := by
  unfold Report.newFiles at h
  obtain ⟨e, he, hf⟩ := List.mem_filterMap.1 h
  obtain ⟨he, hwithin⟩ := List.mem_filter.1 he
  split at hf
  · rename_i hnew _
    obtain rfl := Option.some.inj hf
    have hbefore : e ∉ files := fun hbefore => node?_ne_none hbefore (hplaces e hbefore) hnew
    exact ⟨hwithin, ((changed_run c files).mem_or e he).resolve_left hbefore⟩
  · cases hf

end CommandLine

/-! ## What is shown of it -/

namespace Log.Context

variable (c : Context) (stamp : String)

theorem render_append (ms ms' : List Message) :
    c.render stamp (ms ++ ms') = c.render stamp ms ++ c.render stamp ms' := by
  unfold render lines
  rw [List.filter_append, List.map_append, List.map_append, String.join_append]

/-- Messages are shown together as they are reported one by one. -/
theorem render_eq_join (ms : List Message) :
    c.render stamp ms = String.join (ms.map (report (some c) stamp)) := by
  induction ms with
  | nil => rfl
  | cons m ms ih =>
    rw [List.map_cons, String.join_cons, ← ih]
    exact render_append c stamp [m] ms

end Log.Context

end Bindery
