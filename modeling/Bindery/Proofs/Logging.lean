import Bindery.Description.Bindings
import Bindery.Description.Reader
import Bindery.Proofs.Console
import Bindery.Proofs.Renderer

/-!
# What a context changes

A description is loaded and its module is written in the same way in every context. All messages on
the way are about the progress or the details of the work, and a context shows those up to its
level, in their order and up to the end of the run, whatever the end.
-/

namespace Bindery

open Emit

/-! ## The levels of messages -/

/-- A message on the progress of the work or on a detail. -/
def Log.Message.IsOfWork (m : Log.Message) : Prop := m.level = .info ∨ m.level = .debug

theorem Log.isOfWork_stage (what : String) (subject : Option String) :
    (Log.stage what subject).IsOfWork := by
  cases subject with
  | none => exact .inl rfl
  | some s => exact .inl rfl

theorem Log.rank_le_debug (l : Log.Level) : l.rank ≤ Log.Level.debug.rank := by
  cases l <;> decide

namespace Emit

variable {α β : Type} {x : Emit α} {f : α → Emit β}

theorem messages_bind_of_ok {a : α} (h : x.result = .ok a) :
    (x >>= f).messages = x.messages ++ (f a).messages := by
  rw [bind_of_ok h, Emit.messages, List.filterMap_append]
  rfl

theorem messages_bind_of_error {e : InternalError} (h : x.result = .error e) :
    (x >>= f).messages = x.messages := by
  rw [bind_of_error h]
  rfl

theorem Composed.isOfWork (h : Composed x) : ∀ m ∈ x.messages, m.IsOfWork := by
  induction h with
  | pure | lift | line => exact fun _ hm => nomatch hm
  | stage what subject =>
    intro m hm
    obtain rfl := List.mem_singleton.1 hm
    exact Log.isOfWork_stage what subject
  | debug text =>
    intro m hm
    obtain rfl := List.mem_singleton.1 hm
    exact .inr rfl
  | @bind _ _ x f _ _ hx hf =>
    cases hresult : x.result with
    | ok a =>
      rw [messages_bind_of_ok hresult, List.forall_mem_append]
      exact ⟨hx, hf a⟩
    | error e =>
      rw [messages_bind_of_error hresult]
      exact hx

end Emit

/-! ## Loading and writing -/

namespace Workplace

variable {σ : Type}

/-- Announces a description that has been read, and writes its module. -/
def announced (d : Description) : Emit Unit := do
  Emit.log d.summary
  bindings d.bindings

/-- Loads a description and writes its module. One that cannot be read ends the run before anything
is done. -/
def generate (w : Workplace σ) (v : Json) (s : σ) :
    Desk σ × Except Description.Failure (Outcome Unit) :=
  match Description.read v with
  | .error f => (⟨s, []⟩, .error f)
  | .ok d => ((w.carryOut (announced d) ⟨s, []⟩).1, .ok (w.carryOut (announced d) ⟨s, []⟩).2)

theorem isOfWork_announced (d : Description) : ∀ m ∈ (announced d).messages, m.IsOfWork := by
  intro m hm
  rcases List.mem_cons.1 hm with rfl | hm
  · exact .inr rfl
  · exact (composed_bindings d.bindings).isOfWork m hm

/-- The run on a description: the messages that it comes to, and what else it leaves behind, are
the same in every context. -/
theorem generate_eq (sink : Sink σ) (v : Json) (s : σ) :
    ∃ (s' : σ) (o : Except Description.Failure (Outcome Unit)) (ms : List Log.Message),
      (∀ m ∈ ms, m.IsOfWork) ∧ ∀ c clock, generate ⟨sink, c, clock⟩ v s =
        (⟨s', shownOf ⟨sink, c, clock⟩ 0 ms⟩, o) := by
  unfold generate
  cases Description.read v with
  | error f => exact ⟨s, .error f, [], by simp, fun c clock => rfl⟩
  | ok d =>
    refine ⟨((announced d).deliver sink s).1, .ok ((announced d).deliver sink s).2,
      reached sink s (announced d).events,
      fun m hm => isOfWork_announced d m (mem_of_mem_reached hm), fun c clock => ?_⟩
    simp only [carryOut_eq]
    rfl

end Workplace

/-- What the context of a run on a description decides: nothing but which lines are shown of the
messages, and in which format. -/
structure OnlyFilters {σ : Type} (sink : Sink σ) (v : Json) (s : σ) : Prop where
  /-- What is written and how the run ends is the same in any two contexts, at any times. -/
  same_work : ∀ c clock c' clock',
    (Workplace.generate ⟨sink, c, clock⟩ v s).1.sink =
        (Workplace.generate ⟨sink, c', clock'⟩ v s).1.sink ∧
      (Workplace.generate ⟨sink, c, clock⟩ v s).2 = (Workplace.generate ⟨sink, c', clock'⟩ v s).2
  /-- A level shows the lines of its own and the weightier levels, of all that are shown with the
  details, and in their order. -/
  filtered : ∀ level clock clock',
    (Workplace.generate ⟨sink, ⟨level, false⟩, clock⟩ v s).1.console =
      (Workplace.generate ⟨sink, ⟨.debug, false⟩, clock'⟩ v s).1.console.filter fun l =>
        l.level.rank ≤ level.rank
  /-- Nothing is shown at the silent level, in either format. -/
  silent : ∀ rich clock, (Workplace.generate ⟨sink, ⟨.silent, rich⟩, clock⟩ v s).1.console = []
  /-- In the rich format there are the same lines, each behind its time and its level. -/
  stamped : ∀ level clock clock',
    (Workplace.generate ⟨sink, ⟨level, true⟩, clock⟩ v s).1.console =
      (Workplace.generate ⟨sink, ⟨level, false⟩, clock'⟩ v s).1.console.mapIdx fun i l =>
        l.stamped (clock i)

namespace Workplace

variable {σ : Type} (sink : Sink σ)

theorem shownOf_debug (clock : Nat → String) (count : Nat) (ms : List Log.Message) :
    shownOf ⟨sink, ⟨.debug, false⟩, clock⟩ count ms = ms.map fun m => ⟨m.level, m.text⟩ := by
  have hall : (ms.filter fun m => m.level.rank ≤ Log.Level.debug.rank) = ms :=
    List.filter_eq_self.2 fun m _ => decide_eq_true (Log.rank_le_debug m.level)
  rw [shownOf_plain, hall]

theorem shownOf_silent {ms : List Log.Message} (h : ∀ m ∈ ms, m.IsOfWork) (clock : Nat → String) :
    shownOf ⟨sink, ⟨.silent, false⟩, clock⟩ 0 ms = [] := by
  have hnone : (ms.filter fun m => m.level.rank ≤ Log.Level.silent.rank) = [] := by
    refine List.filter_eq_nil_iff.2 fun m hm => ?_
    rcases h m hm with hlevel | hlevel
    all_goals rw [hlevel]; decide
  rw [shownOf_plain, hnone, List.map_nil]

end Workplace

theorem onlyFilters {σ : Type} (sink : Sink σ) (v : Json) (s : σ) : OnlyFilters sink v s := by
  obtain ⟨s', o, ms, hms, hrun⟩ := Workplace.generate_eq sink v s
  refine ⟨fun c clock c' clock' => ?_, fun level clock clock' => ?_, fun rich clock => ?_,
    fun level clock clock' => ?_⟩
  · rw [hrun, hrun]
    exact ⟨rfl, rfl⟩
  · rw [hrun, hrun, Workplace.shownOf_debug, Workplace.shownOf_plain, List.filter_map]
    rfl
  · rw [hrun]
    cases rich with
    | false => exact Workplace.shownOf_silent sink hms clock
    | true =>
      show Workplace.shownOf _ _ _ = _
      rw [Workplace.shownOf_rich sink .silent clock clock, Workplace.shownOf_silent sink hms]
      rfl
  · rw [hrun, hrun]
    show Workplace.shownOf _ _ _ = _
    rw [Workplace.shownOf_rich sink level clock clock']
    simp only [Nat.zero_add]

/-- Levels are in the order of their weight. -/
structure LevelsOrdered (rank : Log.Level → Nat) : Prop where
  silent : rank .silent < rank .error
  error : rank .error < rank .warning
  warning : rank .warning < rank .info
  info : rank .info < rank .debug

/-- A description is loaded and its module is written to the same effect in every context. -/
structure ContextFree (v : Json) : Prop where
  /-- This is done step by step. -/
  stepwise : ∀ (σ : Type) (w : Workplace σ), w.IsStepwise
  levels : LevelsOrdered Log.Level.rank
  /-- A context filters and stamps the messages on the way and does nothing else. -/
  filters : ∀ (σ : Type) (sink : Sink σ) (s : σ), OnlyFilters sink v s
  /-- With the details shown and with a sink that takes everything, these are all of the
  messages. -/
  complete : ∀ (d : Description) (clock : Nat → String), Description.read v = .ok d →
    Workplace.generate ⟨Sink.unlimited, ⟨.debug, false⟩, clock⟩ v [] =
      (⟨(bindings d.bindings).writes,
          (d.summary :: (bindings d.bindings).messages).map fun m => ⟨m.level, m.text⟩⟩,
        .ok (bindings d.bindings).outcome)

/-- A context decides what is shown of the messages, and nothing else. -/
theorem context_only_filters (v : Json) : ContextFree v where
  stepwise _ w := w.isStepwise
  levels := ⟨by decide, by decide, by decide, by decide⟩
  filters _ sink s := onlyFilters sink v s
  complete d clock hread := by
    have hdeliver : (Workplace.announced d).deliver Sink.unlimited [] =
        ((bindings d.bindings).writes, (bindings d.bindings).outcome) :=
      deliver_unlimited (Workplace.announced d)
    unfold Workplace.generate
    rw [hread]
    simp only [Workplace.carryOut_eq, hdeliver, Workplace.reached_unlimited]
    show (Desk.mk _ (Workplace.shownOf _ _ (d.summary :: (bindings d.bindings).messages)), _) = _
    rw [Workplace.shownOf_debug]

end Bindery
