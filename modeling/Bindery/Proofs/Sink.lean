import Bindery.Proofs.Emit
import Mathlib.Tactic.SplitIfs

/-!
# Writing to a sink

A renderer is run against a sink step by step: each of its writes changes the sink, and the first
one that the sink refuses ends the run. This does not depend on how the renderer is put together
(`deliver_bind`), and against a sink with room for some writes it comes to cutting the writes off
there (`deliver_limited`).
-/

namespace Bindery

/-! ## Sinks -/

/-- What texts are written to. A write gives it a new state, or is refused. -/
structure Sink (σ : Type) where
  write : σ → String → Option σ

namespace Sink

/-- Keeps every text. -/
def unlimited : Sink (List String) := ⟨fun seen text => some (seen ++ [text])⟩

/-- Keeps as many texts as it has room for, and refuses the next. -/
def limited (room : Nat) : Sink (List String) :=
  ⟨fun seen text => if seen.length < room then some (seen ++ [text]) else none⟩

end Sink

/-- A run against a sink, which leaves it in some state and ends in some way. -/
def Delivery (σ α : Type) : Type := σ → σ × Emit.Outcome α

namespace Delivery

variable {σ α β : Type}

/-- Ends at once. -/
def ended (o : Emit.Outcome α) : Delivery σ α := fun s => (s, o)

/-- Only what ends with a value is gone on with. -/
protected def bind (x : Delivery σ α) (f : α → Delivery σ β) : Delivery σ β := fun s =>
  match x s with
  | (s', .done a) => f a s'
  | (s', .failed e) => (s', .failed e)
  | (s', .sinkFull) => (s', .sinkFull)

instance : Monad (Delivery σ) where
  pure a := ended (.done a)
  bind := Delivery.bind

protected theorem id_map (x : Delivery σ α) : id <$> x = x := by
  funext s
  show Delivery.bind x _ s = x s
  unfold Delivery.bind
  split <;> simp_all [ended]

protected theorem bind_assoc {γ : Type} (x : Delivery σ α) (f : α → Delivery σ β)
    (g : β → Delivery σ γ) : x >>= f >>= g = x >>= fun a => f a >>= g := by
  funext s
  show Delivery.bind (Delivery.bind x f) g s = Delivery.bind x (fun a => Delivery.bind (f a) g) s
  unfold Delivery.bind
  cases x s with
  | mk s' o => cases o <;> rfl

instance : LawfulMonad (Delivery σ) :=
  LawfulMonad.mk' _ Delivery.id_map (fun _ _ => rfl) Delivery.bind_assoc

/-- One write; if it is refused, the run ends. -/
def write (sink : Sink σ) (text : String) : Delivery σ Unit := fun s =>
  match sink.write s text with
  | some s' => (s', .done ())
  | none => (s, .sinkFull)

/-- The writes among some events, one after the other. -/
def feed (sink : Sink σ) : List Event → Delivery σ Unit
  | [] => pure ()
  | .write text :: rest => do
    write sink text
    feed sink rest
  | .log _ :: rest => feed sink rest

theorem feed_append (sink : Sink σ) (es fs : List Event) :
    feed sink (es ++ fs) = (do feed sink es; feed sink fs) := by
  induction es with
  | nil => rfl
  | cons e es ih =>
    cases e with
    | write text => rw [List.cons_append, feed, feed, ih, bind_assoc]
    | log m => rw [List.cons_append, feed, feed, ih]

end Delivery

namespace Emit

open Delivery

variable {σ α β : Type} {sink : Sink σ}

/-- A renderer at work on a sink. -/
def deliver (sink : Sink σ) (x : Emit α) : Delivery σ α := do
  feed sink x.events
  ended x.outcome

theorem outcome_of_ok {x : Emit α} {a : α} (h : x.result = .ok a) : x.outcome = .done a := by
  unfold outcome
  rw [h]

theorem outcome_of_error {x : Emit α} {e : InternalError} (h : x.result = .error e) :
    x.outcome = .failed e := by
  unfold outcome
  rw [h]

/-! ## Step by step -/

/-- Whatever is done with the events of renderers, one after the other: for one renderer after
another it is done with the first and then with the second. -/
theorem bind_ended {handle : List Event → Delivery σ Unit}
    (happend : ∀ es fs, handle (es ++ fs) = (do handle es; handle fs)) (x : Emit α)
    (f : α → Emit β) :
    (do handle (x >>= f).events; ended (x >>= f).outcome) =
      ((do handle x.events; ended x.outcome) >>= fun a => do
        handle (f a).events
        ended (f a).outcome) := by
  cases h : x.result with
  | ok a =>
    rw [bind_of_ok h, outcome_of_ok h, happend]
    simp only [bind_assoc]
    rfl
  | error e =>
    -- An error leaves nothing to go on with, so nothing is done with the second renderer.
    rw [bind_of_error h, outcome_of_error h, bind_assoc]
    rfl

theorem deliver_bind (x : Emit α) (f : α → Emit β) :
    deliver sink (x >>= f) = deliver sink x >>= fun a => deliver sink (f a) :=
  bind_ended (feed_append sink) x f

theorem deliver_write (text : String) : deliver sink (write text) = Delivery.write sink text := by
  show (do (do Delivery.write sink text; pure ()); pure ()) = _
  simp

theorem deliver_lift (r : Except InternalError α) : deliver sink (liftM r : Emit α) =
    match r with
    | .ok a => pure a
    | .error e => ended (.failed e) := by
  cases r <;> rfl

/-- A sink is written to as a renderer goes along: nothing is held back, repeated or put in another
order, and after a failure nothing more is done. -/
structure IsStepwise (sink : Sink σ) : Prop where
  of_pure : ∀ {α : Type} (a : α), deliver sink (pure a) = pure a
  of_bind : ∀ {α β : Type} (x : Emit α) (f : α → Emit β),
    deliver sink (x >>= f) = deliver sink x >>= fun a => deliver sink (f a)
  of_write : ∀ text, deliver sink (write text) = Delivery.write sink text
  of_log : ∀ m, deliver sink (log m) = pure ()
  of_lift : ∀ {α : Type} (r : Except InternalError α), deliver sink (liftM r : Emit α) =
    match r with
    | .ok a => pure a
    | .error e => ended (.failed e)

theorem isStepwise (sink : Sink σ) : IsStepwise sink where
  of_pure _ := rfl
  of_bind := deliver_bind
  of_write := deliver_write
  of_log _ := rfl
  of_lift := deliver_lift

/-! ## The writes that are seen -/

/-- The texts of the writes among some events. -/
def texts (es : List Event) : List String := es.filterMap Event.text?

theorem feed_unlimited (es : List Event) (seen : List String) :
    feed Sink.unlimited es seen = (seen ++ texts es, .done ()) := by
  induction es generalizing seen with
  | nil =>
    rw [texts, List.filterMap_nil, List.append_nil]
    rfl
  | cons e es ih =>
    cases e with
    | write text =>
      show feed Sink.unlimited es (seen ++ [text]) = _
      rw [ih, List.append_assoc]
      rfl
    | log m => exact ih seen

/-- A sink sees the writes up to its room, and refuses the next if there is one. -/
theorem feed_limited (es : List Event) {room : Nat} {seen : List String}
    (h : seen.length ≤ room) : feed (Sink.limited room) es seen =
      if (seen ++ texts es).length ≤ room then (seen ++ texts es, .done ())
      else ((seen ++ texts es).take room, .sinkFull) := by
  induction es generalizing seen with
  | nil =>
    rw [texts, List.filterMap_nil, List.append_nil, if_pos h]
    rfl
  | cons e es ih =>
    cases e with
    | write text =>
      have htexts : seen ++ texts (.write text :: es) = (seen ++ [text]) ++ texts es := by
        rw [List.append_assoc]
        rfl
      rw [htexts]
      by_cases hroom : seen.length < room
      · have hstep : feed (Sink.limited room) (.write text :: es) seen =
            feed (Sink.limited room) es (seen ++ [text]) := by
          show Delivery.bind (Delivery.write _ _) _ seen = _
          simp [Delivery.bind, Delivery.write, Sink.limited, hroom]
        rw [hstep, ih (by simpa using Nat.succ_le_of_lt hroom)]
      · have hfull : feed (Sink.limited room) (.write text :: es) seen = (seen, .sinkFull) := by
          show Delivery.bind (Delivery.write _ _) _ seen = _
          simp [Delivery.bind, Delivery.write, Sink.limited, hroom]
        obtain rfl : seen.length = room := by omega
        rw [hfull, if_neg (by simp), List.append_assoc, List.take_left]
    | log m => exact ih h

variable (x : Emit α)

theorem deliver_unlimited : x.deliver Sink.unlimited [] = (x.writes, x.outcome) := by
  show Delivery.bind _ _ _ = _
  unfold Delivery.bind
  rw [feed_unlimited]
  rfl

/-- What a sink with room for some writes sees of a renderer, and how this one ends. -/
theorem deliver_limited (room : Nat) : x.deliver (Sink.limited room) [] =
    if x.writes.length ≤ room then (x.writes, x.outcome)
    else (x.writes.take room, .sinkFull) := by
  have hfeed : feed (Sink.limited room) x.events [] =
      if x.writes.length ≤ room then (x.writes, .done ())
      else (x.writes.take room, .sinkFull) := feed_limited x.events (Nat.zero_le room)
  show Delivery.bind _ _ _ = _
  unfold Delivery.bind
  rw [hfeed]
  split_ifs <;> rfl

/-! ## Cutting the events off -/

theorem cutAt_spec (es : List Event) (room : Nat) :
    ((texts es).length ≤ room ∧ cutAt room es = none) ∨
      (room < (texts es).length ∧
        ∃ fs, cutAt room es = some fs ∧ texts fs = (texts es).take room) := by
  induction es generalizing room with
  | nil => exact .inl ⟨Nat.zero_le _, rfl⟩
  | cons e es ih =>
    cases e with
    | write text =>
      have htexts : texts (.write text :: es) = text :: texts es := rfl
      cases room with
      | zero => exact .inr ⟨by simp [htexts], [], rfl, rfl⟩
      | succ room =>
        rw [htexts, cutAt]
        rcases ih room with ⟨hle, hnone⟩ | ⟨hlt, fs, hsome, hfs⟩
        · exact .inl ⟨by simpa using hle, by rw [hnone]; rfl⟩
        · refine .inr ⟨by simpa using hlt, .write text :: fs, by rw [hsome]; rfl, ?_⟩
          show text :: texts fs = _
          rw [hfs, List.take_succ_cons]
    | log m =>
      have htexts : texts (.log m :: es) = texts es := rfl
      rw [htexts, cutAt]
      rcases ih room with ⟨hle, hnone⟩ | ⟨hlt, fs, hsome, hfs⟩
      · exact .inl ⟨hle, by rw [hnone]; rfl⟩
      · exact .inr ⟨hlt, .log m :: fs, by rw [hsome]; rfl, hfs⟩

/-- A run is what a sink sees of it. -/
theorem deliver_eq_run (room : Nat) : x.deliver (Sink.limited room) [] =
    (texts (x.run (some room)).events, (x.run (some room)).outcome) := by
  rw [deliver_limited]
  simp only [run]
  rcases cutAt_spec x.events room with ⟨hle, hnone⟩ | ⟨hlt, fs, hsome, htexts⟩
  · rw [hnone]
    exact if_pos hle
  · rw [hsome, htexts]
    exact if_neg (Nat.not_le_of_lt hlt)

end Emit

end Bindery
