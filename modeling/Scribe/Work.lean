import Scribe.Event

/-!
# Work

Work over a state takes the state it finds, and gives a value, the state it leaves and the events
that others saw, in order. The events of a sequence of steps are those of each step one after the
other.
-/

namespace Scribe

/-- What work has come to. -/
structure Done (σ α : Type) where
  value : α
  state : σ
  events : List Event

/-- Work over a state `σ` that gives an `α`. -/
def Work (σ α : Type) : Type := σ → Done σ α

namespace Work

variable {σ τ α β γ : Type}

def run (w : Work σ α) (s : σ) : Done σ α := w s

protected def pure (a : α) : Work σ α := fun s => ⟨a, s, []⟩

protected def bind (w : Work σ α) (f : α → Work σ β) : Work σ β := fun s =>
  let d := w s
  let e := f d.value d.state
  ⟨e.value, e.state, d.events ++ e.events⟩

instance : Monad (Work σ) where
  pure := Work.pure
  bind := Work.bind

@[simp]
theorem run_pure (a : α) (s : σ) : (pure a : Work σ α).run s = ⟨a, s, []⟩ := rfl

@[simp]
theorem run_bind (w : Work σ α) (f : α → Work σ β) (s : σ) :
    (w >>= f).run s =
      ⟨((f (w.run s).value).run (w.run s).state).value,
        ((f (w.run s).value).run (w.run s).state).state,
        (w.run s).events ++ ((f (w.run s).value).run (w.run s).state).events⟩ := rfl

theorem ext {w v : Work σ α} (h : ∀ s, w.run s = v.run s) : w = v := funext h

instance : LawfulMonad (Work σ) :=
  LawfulMonad.mk' (Work σ)
    (fun _ => ext fun _ => by simp [Functor.map, run, Work.bind, Work.pure])
    (fun _ _ => rfl)
    (fun _ _ _ => ext fun _ => by simp)

@[simp]
theorem run_map (f : α → β) (w : Work σ α) (s : σ) :
    (f <$> w).run s = ⟨f (w.run s).value, (w.run s).state, (w.run s).events⟩ := by
  rw [map_eq_pure_bind]
  simp only [run_bind, run_pure, List.append_nil]

/-- The state as it is. -/
def get : Work σ σ := fun s => ⟨s, s, []⟩

/-- Replaces the state. -/
def set (s : σ) : Work σ Unit := fun _ => ⟨(), s, []⟩

/-- Lets others see an event. -/
def tell (e : Event) : Work σ Unit := fun s => ⟨(), s, [e]⟩

/-- Prints a line of characters, which no console refuses. -/
def print (line : String) : Work σ Unit := tell (.printed line)

/-- Work over a part of the state. -/
def on (part : τ → σ) (replace : σ → τ → τ) (w : Work σ α) : Work τ α := fun t =>
  let d := w (part t)
  ⟨d.value, replace d.state t, d.events⟩

@[simp]
theorem run_get (s : σ) : (get : Work σ σ).run s = ⟨s, s, []⟩ := rfl

@[simp]
theorem run_set (s t : σ) : (set t).run s = ⟨(), t, []⟩ := rfl

@[simp]
theorem run_tell (e : Event) (s : σ) : (tell e).run s = ⟨(), s, [e]⟩ := rfl

@[simp]
theorem run_print (line : String) (s : σ) : (print line).run s = ⟨(), s, [.printed line]⟩ := rfl

@[simp]
theorem run_on (part : τ → σ) (replace : σ → τ → τ) (w : Work σ α) (t : τ) :
    (w.on part replace).run t =
      ⟨(w.run (part t)).value, replace (w.run (part t)).state t, (w.run (part t)).events⟩ := rfl

end Work

end Scribe
