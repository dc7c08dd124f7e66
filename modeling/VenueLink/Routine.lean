import VenueLink.Moment
import VenueLink.Venue.Request

/-!
# Routines

A routine is a piece of work on a state that others work on as well.  It looks at the state,
changes it, reads the clock and asks the venue.  What stands between two questions happens
at once; while a question is open, anything may happen to the state.
-/

namespace VenueLink

/-- What the venue answers to a request. -/
abbrev Reply := Except VenueError Json

/-- A piece of work on a state, with a result. -/
inductive Routine (σ α : Type) where
  /-- The work is done. -/
  | done (result : α)
  /-- Look at the state. -/
  | look (next : σ → Routine σ α)
  /-- Change the state. -/
  | change (f : σ → σ) (next : Routine σ α)
  /-- Read the clock. -/
  | clock (next : Moment → Routine σ α)
  /-- Ask the venue. -/
  | ask (request : VenueRequest) (next : Reply → Routine σ α)

namespace Routine

variable {σ τ α β γ : Type}

/-- One piece of work after another, which knows the result of the first. -/
def andThen : Routine σ α → (α → Routine σ β) → Routine σ β
  | done a, f => f a
  | look k, f => look fun s => andThen (k s) f
  | change g k, f => change g (andThen k f)
  | clock k, f => clock fun t => andThen (k t) f
  | ask r k, f => ask r fun reply => andThen (k reply) f

instance : Monad (Routine σ) where
  pure := done
  bind := andThen

theorem andThen_done (m : Routine σ α) :
  m.andThen done = m
  := by
  induction m with
  | done a => rfl
  | look k ih => simp only [andThen, ih]
  | change g k ih => simp only [andThen, ih]
  | clock k ih => simp only [andThen, ih]
  | ask r k ih => simp only [andThen, ih]

theorem andThen_assoc (m : Routine σ α) (f : α → Routine σ β) (g : β → Routine σ γ) :
  (m.andThen f).andThen g = m.andThen fun a => (f a).andThen g
  := by
  induction m with
  | done a => rfl
  | look k ih => simp only [andThen, ih]
  | change g k ih => simp only [andThen, ih]
  | clock k ih => simp only [andThen, ih]
  | ask r k ih => simp only [andThen, ih]

instance : LawfulMonad (Routine σ) :=
  LawfulMonad.mk' (Routine σ) andThen_done (fun _ _ => rfl) andThen_assoc

/-- The state as it is. -/
def state : Routine σ σ := look done

/-- A change of the state without a result. -/
def modify (f : σ → σ) : Routine σ Unit := change f (done ())

/-- A change of the state with a result. -/
def update (f : σ → β × σ) : Routine σ β :=
  look fun s => change (fun _ => (f s).2) (done (f s).1)

/-- The time. -/
def now : Routine σ Moment := clock done

/-- The result in the venue's answer to a request. -/
def fetch (r : VenueRequest) : Routine σ Reply :=
  ask r fun
    | .ok response => done (r.result response)
    | .error e => done (.error e)

/-- Work on a part of a state. -/
def within (get : τ → σ) (set : σ → τ → τ) : Routine σ α → Routine τ α
  | done a => done a
  | look k => look fun t => within get set (k (get t))
  | change f k => change (fun t => set (f (get t)) t) (within get set k)
  | clock k => clock fun t => within get set (k t)
  | ask r k => ask r fun reply => within get set (k reply)

/-- The outcome of a routine when nothing else happens, with a venue that answers the same
to the same request. -/
def answeredBy (t : Moment) (venue : VenueRequest → Reply) : Routine σ α → σ → α × σ
  | done a, s => (a, s)
  | look k, s => answeredBy t venue (k s) s
  | change f k, s => answeredBy t venue k (f s)
  | clock k, s => answeredBy t venue (k t) s
  | ask r k, s => answeredBy t venue (k (venue r)) s

/-- Where a routine stands: at its end, or at a question. -/
inductive Pause (σ α : Type) where
  | finished (result : α)
  | asking (request : VenueRequest) (next : Reply → Routine σ α)

/-- Let a routine go on to its next question or to its end. -/
def advance (t : Moment) : Routine σ α → σ → Pause σ α × σ
  | done a, s => (.finished a, s)
  | look k, s => advance t (k s) s
  | change f k, s => advance t k (f s)
  | clock k, s => advance t (k t) s
  | ask r k, s => (.asking r k, s)

end Routine

end VenueLink
