import Bindery.Emit

/-!
# What a renderer prints

Every text is written with the end of its line, so what a renderer writes is a list of lines.
-/

namespace Bindery.Emit

variable {α β : Type} {x : Emit α} {f : α → Emit β} {a : α} {b : β} {ls ms : List String}

/-- Ends with a value after writing some lines. -/
structure Prints (x : Emit α) (a : α) (ls : List String) : Prop where
  result : x.result = .ok a
  writes : x.writes = ls.flatMap fun l => [l, "\n"]

/-! ## One step after another -/

theorem bind_of_ok (h : x.result = .ok a) :
    (x >>= f) = ⟨x.events ++ (f a).events, (f a).result⟩ := by
  show Emit.bind x f = _
  unfold Emit.bind
  rw [h]

theorem bind_of_error {e : InternalError} (h : x.result = .error e) :
    (x >>= f) = ⟨x.events, .error e⟩ := by
  show Emit.bind x f = _
  unfold Emit.bind
  rw [h]

theorem result_bind_of_ok (h : x.result = .ok a) : (x >>= f).result = (f a).result := by
  rw [bind_of_ok h]

theorem result_bind_of_error {e : InternalError} (h : x.result = .error e) :
    (x >>= f).result = .error e := by
  rw [bind_of_error h]

theorem result_bind : (x >>= f).result = .ok b ↔ ∃ a, x.result = .ok a ∧ (f a).result = .ok b := by
  cases h : x.result with
  | ok a => simp [result_bind_of_ok h]
  | error e => simp [result_bind_of_error h]

theorem writes_bind_of_ok (h : x.result = .ok a) : (x >>= f).writes = x.writes ++ (f a).writes := by
  rw [bind_of_ok h, Emit.writes, List.filterMap_append]
  rfl

theorem writes_bind_of_error {e : InternalError} (h : x.result = .error e) :
    (x >>= f).writes = x.writes := by
  rw [bind_of_error h]
  rfl

theorem writes_bind_eq_nil (hx : x.writes = []) (hf : ∀ a, (f a).writes = []) :
    (x >>= f).writes = [] := by
  cases h : x.result with
  | ok a => rw [writes_bind_of_ok h, hx, hf, List.append_nil]
  | error e => rw [writes_bind_of_error h, hx]

theorem Prints.bind (hx : Prints x a ls) (hf : Prints (f a) b ms) :
    Prints (x >>= f) b (ls ++ ms) := by
  refine ⟨by rw [result_bind_of_ok hx.result, hf.result], ?_⟩
  rw [writes_bind_of_ok hx.result, hx.writes, hf.writes, List.flatMap_append]

theorem prints_pure (a : α) : Prints (pure a) a [] := ⟨rfl, rfl⟩

/-- A computation without output leaves no trace when it ends well. -/
theorem lift_bind {r : Except InternalError α} (h : r = .ok a) : (liftM r >>= f) = f a := by
  rw [h]
  rfl

/-- A first step that prints nothing. -/
theorem Prints.quiet_bind (hx : Prints x a []) (hf : Prints (f a) b ms) : Prints (x >>= f) b ms :=
  hx.bind hf

theorem Prints.lift_bind {r : Except InternalError α} (h : r = .ok a) (hf : Prints (f a) b ms) :
    Prints (liftM r >>= f) b ms := by
  rwa [Emit.lift_bind h]

/-! ## Errors -/

/-- Ends with an error after writing some lines. -/
structure Stops (x : Emit α) (e : InternalError) (ls : List String) : Prop where
  result : x.result = .error e
  writes : x.writes = ls.flatMap fun l => [l, "\n"]

theorem stops_lift {r : Except InternalError α} {e : InternalError} (h : r = .error e) :
    Stops (liftM r : Emit α) e [] := ⟨h, rfl⟩

/-- Nothing follows an error. -/
theorem Stops.bind {e : InternalError} (hx : Stops x e ls) (f : α → Emit β) :
    Stops (x >>= f) e ls :=
  ⟨result_bind_of_error hx.result, (writes_bind_of_error hx.result).trans hx.writes⟩

theorem Prints.bind_stops {e : InternalError} (hx : Prints x a ls) (hf : Stops (f a) e ms) :
    Stops (x >>= f) e (ls ++ ms) := by
  refine ⟨by rw [result_bind_of_ok hx.result, hf.result], ?_⟩
  rw [writes_bind_of_ok hx.result, hx.writes, hf.writes, List.flatMap_append]

theorem Stops.lift_bind {r : Except InternalError α} {e : InternalError} (h : r = .ok a)
    (hf : Stops (f a) e ms) : Stops (liftM r >>= f) e ms := by
  rwa [Emit.lift_bind h]

/-- Whether all errors that a computation can end with are of a sort. -/
def FailsWith (S : InternalError → Prop) (x : Emit α) : Prop := ∀ e, x.result = .error e → S e

theorem failsWith_of_ok {S : InternalError → Prop} (h : x.result = .ok a) : FailsWith S x := by
  intro e he
  rw [h] at he
  cases he

theorem FailsWith.mono {S T : InternalError → Prop} (h : FailsWith S x) (hST : ∀ e, S e → T e) :
    FailsWith T x := fun e he => hST e (h e he)

theorem FailsWith.bind {S : InternalError → Prop} (hx : FailsWith S x)
    (hf : ∀ a, FailsWith S (f a)) : FailsWith S (x >>= f) := by
  intro e he
  cases h : x.result with
  | ok a =>
    rw [result_bind_of_ok h] at he
    exact hf a e he
  | error e' =>
    rw [result_bind_of_error h] at he
    obtain rfl := Except.error.inj he
    exact hx _ h

/-! ## Lines -/

theorem prints_line (l : String) : Prints (line l) () [l] := ⟨rfl, rfl⟩

theorem prints_line? (l : Option String) : Prints (line? l) () l.toList := by
  cases l with
  | none => exact prints_pure ()
  | some l => exact prints_line l

theorem prints_eachLine (ls : List String) : Prints (eachLine ls) () ls := by
  induction ls with
  | nil => exact prints_pure ()
  | cons l ls ih => exact (prints_line l).bind ih

end Bindery.Emit
