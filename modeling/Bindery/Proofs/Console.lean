import Bindery.Proofs.Sink

/-!
# Writing and logging

A renderer at work writes to a sink and logs to a console, each step in its turn. Whether a message
is shown, and how, is for the context to decide when the message comes. What the renderer does to
the sink and how it ends does not depend on the context (`carryOut_eq`), and the console shows the
same messages in every context, except for those that the context does not admit.
-/

namespace Bindery

/-! ## Places to work -/

/-- A line on the console, and the level of its message. -/
structure Shown where
  level : Log.Level
  line : String

/-- A line in the rich format: behind the time and the name of the level. -/
def Shown.stamped (l : Shown) (time : String) : Shown :=
  match l.level.name? with
  | some name => { l with line := time ++ " [" ++ name ++ "] " ++ l.line }
  | none => l

/-- What a run leaves behind: the state of the sink, and the lines on the console. -/
structure Desk (σ : Type) where
  sink : σ
  console : List Shown := []

/-- Where a renderer works: the sink, the context, and the time at which a line of the console is
shown, by its number. -/
structure Workplace (σ : Type) where
  sink : Sink σ
  context : Log.Context
  clock : Nat → String

namespace Workplace

open Emit

variable {σ α β : Type} (w : Workplace σ)

/-- One write. If the sink refuses it, the run ends. -/
def write (text : String) : Delivery (Desk σ) Unit := fun d =>
  match w.sink.write d.sink text with
  | some s => ({ d with sink := s }, .done ())
  | none => (d, .sinkFull)

/-- What is shown of a message behind some lines: one line, or none. -/
def shown (count : Nat) (m : Log.Message) : List Shown :=
  (w.context.lines (w.clock count) [m]).map (⟨m.level, ·⟩)

/-- One message. -/
def log (m : Log.Message) : Delivery (Desk σ) Unit := fun d =>
  ({ d with console := d.console ++ w.shown d.console.length m }, .done ())

/-- Some events, one after the other. -/
def handle : List Event → Delivery (Desk σ) Unit
  | [] => pure ()
  | .write text :: rest => do
    w.write text
    handle rest
  | .log m :: rest => do
    w.log m
    handle rest

theorem handle_append (es fs : List Event) :
    w.handle (es ++ fs) = (do w.handle es; w.handle fs) := by
  induction es with
  | nil => rfl
  | cons e es ih =>
    cases e with
    | write text => rw [List.cons_append, handle, handle, ih, bind_assoc]
    | log m => rw [List.cons_append, handle, handle, ih, bind_assoc]

/-- A renderer at work. -/
def carryOut (x : Emit α) : Delivery (Desk σ) α := do
  w.handle x.events
  Delivery.ended x.outcome

/-! ## Step by step -/

theorem carryOut_write (text : String) : w.carryOut (Emit.write text) = w.write text := by
  show (do (do w.write text; pure ()); pure ()) = _
  simp

theorem carryOut_log (m : Log.Message) : w.carryOut (Emit.log m) = w.log m := by
  show (do (do w.log m; pure ()); pure ()) = _
  simp

theorem carryOut_lift (r : Except InternalError α) : w.carryOut (liftM r : Emit α) =
    match r with
    | .ok a => pure a
    | .error e => Delivery.ended (.failed e) := by
  cases r <;> rfl

/-- A renderer works as it goes along: each write changes the sink and each message is put to the
context when it comes, and after a failure nothing more is done. -/
structure IsStepwise : Prop where
  of_pure : ∀ {α : Type} (a : α), w.carryOut (pure a) = pure a
  of_bind : ∀ {α β : Type} (x : Emit α) (f : α → Emit β),
    w.carryOut (x >>= f) = w.carryOut x >>= fun a => w.carryOut (f a)
  of_write : ∀ text, w.carryOut (Emit.write text) = w.write text
  of_log : ∀ m, w.carryOut (Emit.log m) = w.log m
  of_lift : ∀ {α : Type} (r : Except InternalError α), w.carryOut (liftM r : Emit α) =
    match r with
    | .ok a => pure a
    | .error e => Delivery.ended (.failed e)

theorem isStepwise : w.IsStepwise where
  of_pure _ := rfl
  of_bind := bind_ended w.handle_append
  of_write := w.carryOut_write
  of_log := w.carryOut_log
  of_lift := w.carryOut_lift

/-! ## The messages that are reached -/

/-- The messages among some events, up to the first write that the sink refuses. -/
def reached (sink : Sink σ) : σ → List Event → List Log.Message
  | _, [] => []
  | s, .write text :: rest =>
    match sink.write s text with
    | some s' => reached sink s' rest
    | none => []
  | s, .log m :: rest => m :: reached sink s rest

theorem mem_of_mem_reached {sink : Sink σ} {es : List Event} {s : σ} {m : Log.Message}
    (h : m ∈ reached sink s es) : m ∈ es.filterMap Event.message? := by
  induction es generalizing s with
  | nil => exact h
  | cons e es ih =>
    cases e with
    | write text =>
      rw [reached] at h
      cases hs : sink.write s text with
      | none => simp [hs] at h
      | some s' => exact ih (by simpa [hs] using h)
    | log l =>
      rcases List.mem_cons.1 h with rfl | h
      · exact List.mem_cons_self
      · exact List.mem_cons_of_mem _ (ih h)

theorem reached_unlimited (es : List Event) (seen : List String) :
    reached Sink.unlimited seen es = es.filterMap Event.message? := by
  induction es generalizing seen with
  | nil => rfl
  | cons e es ih =>
    cases e with
    | write text => exact ih (seen ++ [text])
    | log m => exact congrArg (m :: ·) (ih seen)

/-- What is shown of some messages behind some lines. -/
def shownOf (count : Nat) : List Log.Message → List Shown
  | [] => []
  | m :: ms => w.shown count m ++ shownOf (count + (w.shown count m).length) ms

/-- What is done with events: the sink fares as if there were no console, and the console shows the
messages that are reached. -/
theorem handle_eq (es : List Event) (s : σ) (console : List Shown) :
    w.handle es ⟨s, console⟩ =
      (⟨(Delivery.feed w.sink es s).1,
          console ++ w.shownOf console.length (reached w.sink s es)⟩,
        (Delivery.feed w.sink es s).2) := by
  induction es generalizing s console with
  | nil =>
    rw [reached, shownOf, List.append_nil]
    rfl
  | cons e es ih =>
    cases e with
    | write text =>
      rw [reached, handle, Delivery.feed]
      show Delivery.bind _ _ _ = (Desk.mk (Delivery.bind _ _ s).1 _, (Delivery.bind _ _ s).2)
      unfold Delivery.bind write Delivery.write
      cases hs : w.sink.write s text with
      | none => simp [shownOf]
      | some s' => exact ih s' console
    | log m =>
      show w.handle es ⟨s, console ++ w.shown console.length m⟩ = _
      rw [ih, reached, shownOf, Delivery.feed, List.length_append, List.append_assoc]

/-- A renderer at work does to the sink what it does without a console, and ends likewise. The
console shows the messages that it reaches. -/
theorem carryOut_eq (x : Emit α) (s : σ) (console : List Shown) :
    w.carryOut x ⟨s, console⟩ =
      (⟨(x.deliver w.sink s).1,
          console ++ w.shownOf console.length (reached w.sink s x.events)⟩,
        (x.deliver w.sink s).2) := by
  show Delivery.bind _ _ _ = (Desk.mk (Delivery.bind _ _ s).1 _, (Delivery.bind _ _ s).2)
  unfold Delivery.bind
  rw [handle_eq]
  cases Delivery.feed w.sink x.events s with
  | mk s' o => cases o <;> rfl

/-! ## One context and another -/

section Contexts

variable (sink : Sink σ) (level : Log.Level) (clock : Nat → String)

theorem shown_plain (count : Nat) (m : Log.Message) :
    shown ⟨sink, ⟨level, false⟩, clock⟩ count m =
      if m.level.rank ≤ level.rank then [⟨m.level, m.text⟩] else [] := by
  by_cases h : m.level.rank ≤ level.rank
  · simp [shown, Log.Context.lines, Log.Context.admits, Log.Context.lead, h]
  · simp [shown, Log.Context.lines, Log.Context.admits, h]

theorem shown_rich (count : Nat) (m : Log.Message) :
    shown ⟨sink, ⟨level, true⟩, clock⟩ count m =
      if m.level.rank ≤ level.rank then [Shown.stamped ⟨m.level, m.text⟩ (clock count)]
      else [] := by
  by_cases h : m.level.rank ≤ level.rank
  · obtain ⟨l, text⟩ := m
    cases l <;>
      simp_all [shown, Log.Context.lines, Log.Context.admits, Log.Context.lead, Shown.stamped,
        Log.Level.name?]
  · simp [shown, Log.Context.lines, Log.Context.admits, h]

/-- Without a lead, the messages that are admitted are shown as they are. -/
theorem shownOf_plain (count : Nat) (ms : List Log.Message) :
    shownOf ⟨sink, ⟨level, false⟩, clock⟩ count ms =
      (ms.filter fun m => m.level.rank ≤ level.rank).map fun m => ⟨m.level, m.text⟩ := by
  induction ms generalizing count with
  | nil => rfl
  | cons m ms ih =>
    rw [shownOf, ih, shown_plain]
    by_cases h : m.level.rank ≤ level.rank
    · simp [h]
    · simp [h]

/-- In the rich format there is a line for each line of the other, behind its lead. -/
theorem shownOf_rich (clock' : Nat → String) (count : Nat) (ms : List Log.Message) :
    shownOf ⟨sink, ⟨level, true⟩, clock⟩ count ms =
      (shownOf ⟨sink, ⟨level, false⟩, clock'⟩ count ms).mapIdx fun i l =>
        l.stamped (clock (count + i)) := by
  induction ms generalizing count with
  | nil => rfl
  | cons m ms ih =>
    rw [shownOf, shownOf, ih, shown_plain, shown_rich]
    by_cases h : m.level.rank ≤ level.rank
    · simp only [h, if_true, List.singleton_append, List.mapIdx_cons, Nat.add_zero,
        List.length_singleton]
      simp only [Nat.add_assoc, Nat.add_comm 1]
    · simp [h]

end Contexts

end Workplace

end Bindery
