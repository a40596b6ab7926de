import Bindery.Proofs.Bindings
import Bindery.Proofs.Description.Reading
import Bindery.Proofs.Run

/-!
# Generation from a description

A description of the right form that can be read can be rendered, unless a name has no crate or a
type cannot be declared; no other fault is left. The command reports the first fault and does
nothing else.
-/

namespace Bindery

open CommandLine

/-! ## What the command does -/

/-- The command on a description that has been read. -/
theorem run_gen {path text : String} {output versionsFile : Option String} {files : FileTree}
    {d : Description} (hfile : files.read path = .ok text)
    (hread : Description.readText (normalPath path) text = .ok d) :
    (Command.gen path output versionsFile).run files =
      let s := generate d.bindings output versionsFile
      play s.ending files ([progress ("Loading description: " ++ path), .log d.summary] ++
        s.actions) := by
  show play (genScript path (files.read path) output versionsFile).ending files
    (genScript path (files.read path) output versionsFile).actions = _
  unfold genScript
  rw [hfile]
  simp only [hread]
  rfl

/-- Without an error the code is printed, unless the command is told where to write it. -/
theorem run_gen_of_ok {path text : String} {files : FileTree} {d : Description}
    (hfile : files.read path = .ok text)
    (hread : Description.readText (normalPath path) text = .ok d)
    (hok : (Emit.bindings d.bindings).result = .ok ()) :
    ((Command.gen path none none).run files).output = (Emit.bindings d.bindings).text ∧
      ((Command.gen path none none).run files).files = files ∧
      ((Command.gen path none none).run files).ending = .exit 0 := by
  have hgenerate : generate d.bindings none none =
      ⟨(Emit.bindings d.bindings).messages.map .log ++ [.print (Emit.bindings d.bindings).text],
        .exit 0⟩ := by
    unfold generate
    simp only [hok]
    rfl
  have hlogs : ∀ ms : List Log.Message, [progress ("Loading description: " ++ path),
      Action.log d.summary] ++ ms.map .log =
        ((⟨.info, "Loading description: " ++ path⟩ : Log.Message) :: d.summary :: ms).map .log :=
    fun _ => rfl
  rw [run_gen hfile hread, hgenerate]
  simp only
  rw [← List.append_assoc, hlogs, play_logs_append]
  refine ⟨?_, rfl, rfl⟩
  show String.join [(Emit.bindings d.bindings).text] = _
  rw [String.join_cons, String.join_nil, String.append_empty]

/-- An error with a code of its own is reported after what has been logged before. -/
theorem generate_of_error {b : Bindings} {e : InternalError} (output versionsFile : Option String)
    (herror : (Emit.bindings b).result = .error e) (hcause : ∀ m, e.cause ≠ .unfit m) :
    generate b output versionsFile =
      ⟨((Emit.bindings b).messages ++ [(⟨.error, e.format⟩ : Log.Message)]).map .log, .exit 1⟩ := by
  unfold generate
  simp only [herror, List.map_append]
  obtain ⟨cause, location⟩ := e
  cases cause with
  | unfit m => exact absurd rfl (hcause m)
  | _ => rfl

/-! ## The codes -/

/-- The codes of the faults that a description may be left with. -/
def faultCodes : List String := ["[ICE-2030]", "[ICE-2010]", "[ICE-2011]", "[ICE-2020]"]

theorem FirstFault.exists_code {names : List String} {b : Bindings} {e : InternalError}
    (h : FirstFault names b e) : ∃ code ∈ faultCodes, ∃ text, e.cause.message = code ++ text := by
  cases h with
  | @name name _ =>
    have hmessage : (Cause.unqualifiedImport name).message =
        "[ICE-2030]" ++ (" import '" ++ name ++ "' has no namespace qualifier") := by
      rw [← String.append_assoc, ← String.append_assoc]
      rfl
    exact ⟨"[ICE-2030]", by simp [faultCodes], _, hmessage⟩
  | wrapper _ _ _ hfaulty _ =>
    rcases hfaulty.cause_eq with rfl | rfl | rfl
    · exact ⟨"[ICE-2010]", by simp [faultCodes],
        " root fundamental type has no ref/unref functions", rfl⟩
    · exact ⟨"[ICE-2011]", by simp [faultCodes],
        " no ancestor class of fundamental type declares ref/unref", rfl⟩
    · exact ⟨"[ICE-2020]", by simp [faultCodes],
        " init/copy_into/clear must be given together", rfl⟩

theorem FirstFault.ne_unfit {names : List String} {b : Bindings} {e : InternalError}
    (h : FirstFault names b e) (m : Misuse) : e.cause ≠ .unfit m := by
  cases h with
  | name hleast => exact nofun
  | wrapper _ _ _ hfaulty _ => rcases hfaulty.cause_eq with rfl | rfl | rfl <;> exact nofun

namespace Description

/-- What is wrong with a document that was read as a description is reported. -/
structure Reports (v : Json) (d : Description) (e : InternalError) : Prop where
  first : FirstFault (importNames v) d.bindings e
  code : ∃ code ∈ faultCodes, ∃ text, e.cause.message = code ++ text
  /-- The command logs it last, exits with 1, prints nothing and leaves all files as they are. -/
  command : ∀ path text output versionsFile files, files.read path = .ok text →
    readText (normalPath path) text = .ok d →
    ∃ before, (Command.gen path output versionsFile).run files =
      ⟨[], before ++ [⟨.error, e.format⟩], files, .exit 1⟩

/-- A document that was read as a description can be rendered. -/
structure Renders (v : Json) (d : Description) : Prop where
  /-- The ancestors of its wrappers are the types that it names. -/
  parents : List.Forall₂ (fun w s => ∀ ps ∈ s.kind.parents?,
      List.Forall₂ d.library.Resolves (listAt w "parents") ps)
    (listAt v "wrappers") d.bindings.wrappers
  /-- Its module is generated exactly where all names that it imports are qualified and nothing is
  wrong with its types. -/
  ok_iff : (Emit.bindings d.bindings).result = .ok () ↔
    (∀ name ∈ importNames v, IsQualified name) ∧
      ∀ w ∈ d.bindings.wrappers, ∀ c, ¬Wrapper.Faulty d.library w.kind c
  /-- Otherwise the first fault is reported with its code. -/
  reports : ∀ e, (Emit.bindings d.bindings).result = .error e → Reports v d e

/-- A description of the right form that can be read can be rendered. -/
theorem read_renders {v : Json} {d : Description} (hform : form v = true)
    (hread : read v = .ok d) : Renders v d := by
  have hreads := (read_eq_ok hform).1 hread
  have hwrappers := hreads.wrappers_spec hform
  obtain ⟨main, rest, hmain⟩ := hreads.exists_main
  obtain ⟨asks, -, hnames, himports⟩ := hreads.exists_asks hform
  have hspec := bindings_spec (b := d.bindings) hmain himports fun w hw => by
    obtain ⟨x, -, hplain, hknown, -⟩ := (exists_of_forall₂ hwrappers).1 w hw
    exact ⟨hplain, hknown⟩
  rw [← hnames] at hspec
  refine ⟨hwrappers.imp fun _ _ h => h.2.2, ?_, fun e he => ?_⟩
  · rcases hspec with ⟨hqualified, hfaultless, hok⟩ | ⟨e, hfault, herror⟩
    · exact iff_of_true hok ⟨hqualified, hfaultless⟩
    · exact iff_of_false (by rw [herror]; exact nofun) hfault.not_faultless
  · rcases hspec with ⟨-, -, hok⟩ | ⟨e', hfault, herror⟩
    · rw [hok] at he
      cases he
    obtain rfl : e' = e := Except.error.inj (herror.symm.trans he)
    refine ⟨hfault, hfault.exists_code, fun path text output versionsFile files hfile htext => ?_⟩
    refine ⟨⟨.info, "Loading description: " ++ path⟩ :: d.summary ::
      (Emit.bindings d.bindings).messages, ?_⟩
    rw [run_gen hfile htext, generate_of_error output versionsFile herror hfault.ne_unfit]
    exact play_logs _ _ (⟨.info, "Loading description: " ++ path⟩ :: d.summary ::
      ((Emit.bindings d.bindings).messages ++ [⟨.error, e'.format⟩]))

/-- A fundamental type whose only ancestor has no functions that count references. -/
def clipNode : Json :=
  .object [
    ("namespaces", .array [.object [("name", .string "Gsk"), ("crate_name", .string "gsk"),
      ("sys_crate_name", .string "ffi")]]),
    ("types", .array [.object [("namespace", .string "Gsk"), ("kind", .string "class"),
      ("name", .string "RenderNode"), ("c_type", .string "GskRenderNode")]]),
    ("imports", .array [.object [("name", .string "glib::translate::*")]]),
    ("wrappers", .array [.object [("kind", .string "fundamental"),
      ("type_name", .string "ClipNode"), ("glib_name", .string "GskClipNode"),
      ("get_type_fn", .string "gsk_clip_node_get_type"),
      ("parents", .array [.object [("namespace", .string "Gsk"),
        ("name", .string "RenderNode")]])]])]

/-- What `clipNode` is read as. -/
def clipNodeRead : Description where
  config := ⟨some ⟨0, 0, 0⟩, [], .null⟩
  namespaces := [⟨"Gsk", .string "gsk", .string "ffi", none⟩]
  types := ⟨[(⟨0, 0⟩, ⟨.classType, .string "RenderNode", .string "GskRenderNode", .null, .null,
    .null⟩)]⟩
  imports := ⟨[(.string "glib::translate::*", {})]⟩
  wrappers := [⟨.string "ClipNode", .string "GskClipNode", .everywhere, .null, [],
    .fundamental (.string "gsk_clip_node_get_type") .null .null
      [⟨⟨0, 0⟩, .string "RenderNode", .active⟩], [], .bool false⟩]

theorem read_renders_clipNode :
    form clipNode = true ∧ read clipNode = .ok clipNodeRead ∧
      (Emit.bindings clipNodeRead.bindings).result =
        .error ⟨.inheritedLifetime, some ⟨"Gsk", some (.string "ClipNode")⟩⟩ ∧
      FirstFault ["glib::translate::*"] clipNodeRead.bindings
        ⟨.inheritedLifetime, some ⟨"Gsk", some (.string "ClipNode")⟩⟩ := by
  have hform : form clipNode = true := by decide
  have hread : read clipNode = .ok clipNodeRead := by rfl
  have herror : (Emit.bindings clipNodeRead.bindings).result =
      .error ⟨.inheritedLifetime, some ⟨"Gsk", some (.string "ClipNode")⟩⟩ := by rfl
  exact ⟨hform, hread, herror, ((read_renders hform hread).reports _ herror).first⟩

end Description

end Bindery
