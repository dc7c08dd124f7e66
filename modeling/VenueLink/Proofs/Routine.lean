import VenueLink.Routine
import Mathlib.Tactic.Common

/-!
# Routines beside others

What a routine does falls into stretches: from its beginning or from the answer to a
question up to its next question or its end.  A stretch happens at once; between two
stretches others change the state.  `Reaches` says where a stretch can lead, `Keeps` says
of a whole routine what each of its stretches brings about.
-/

namespace VenueLink

/-- What an answer to a request comes to: the result in a response, or a failure. -/
def VenueRequest.outcome (r : VenueRequest) : Reply → Reply
  | .ok response => r.result response
  | .error e => .error e

namespace Routine

variable {σ α β : Type}

/-! ## Stretches -/

/-- From a state a routine can come to a pause and leave another state there, whatever the
clock shows on the way. -/
def Reaches : Routine σ α → σ → Pause σ α → σ → Prop
  | done a, s, q, s' => q = .finished a ∧ s' = s
  | look k, s, q, s' => (k s).Reaches s q s'
  | change f m, s, q, s' => m.Reaches (f s) q s'
  | clock k, s, q, s' => ∃ t, (k t).Reaches s q s'
  | ask r k, s, q, s' => q = .asking r k ∧ s' = s

/-- Under a clock that stands still a routine comes to the pause that `advance` finds. -/
theorem reaches_advance (t : Moment) (m : Routine σ α) (s : σ) :
  m.Reaches s (m.advance t s).1 (m.advance t s).2
  := by
  induction m generalizing s with
  | done a => exact ⟨rfl, rfl⟩
  | look k ih => apply ih
  | change f m ih => apply ih
  | clock k ih =>
      use t
      apply ih
  | ask r k ih => exact ⟨rfl, rfl⟩

/-- A stretch of one routine after another ends at a question of the first one, or goes on
in the second one where the first has ended. -/
theorem reaches_andThen (m : Routine σ α) (f : α → Routine σ β) (s s' : σ) (q : Pause σ β) :
  (m.andThen f).Reaches s q s'
    ↔ (∃ r k, m.Reaches s (.asking r k) s' ∧ q = .asking r fun reply => (k reply).andThen f)
      ∨ ∃ a s₁, m.Reaches s (.finished a) s₁ ∧ (f a).Reaches s₁ q s'
  := by
  induction m generalizing s with
  | done a => simp [andThen, Reaches]
  | look k ih => apply ih
  | change g m ih => apply ih
  | clock k ih =>
      simp only [andThen, Reaches, ih]
      constructor
      · rintro ⟨t, ⟨r, k', h, hq⟩ | ⟨a, s₁, h, h'⟩⟩
        · exact .inl ⟨r, k', ⟨t, h⟩, hq⟩
        · exact .inr ⟨a, s₁, ⟨t, h⟩, h'⟩
      · rintro (⟨r, k', ⟨t, h⟩, hq⟩ | ⟨a, s₁, ⟨t, h⟩, h'⟩)
        · exact ⟨t, .inl ⟨r, k', h, hq⟩⟩
        · exact ⟨t, .inr ⟨a, s₁, h, h'⟩⟩
  | ask r k ih =>
      constructor
      · rintro ⟨rfl, rfl⟩
        exact .inl ⟨r, k, ⟨rfl, rfl⟩, rfl⟩
      · rintro (⟨r', k', ⟨hk, rfl⟩, rfl⟩ | ⟨a, s₁, ⟨ha, -⟩, -⟩)
        · cases hk
          exact ⟨rfl, rfl⟩
        · cases ha

/-! ## What stretches bring about -/

/-- Where a stretch begins: the state, and the question with its answer unless the routine
only begins. -/
structure Origin (σ : Type) where
  state : σ
  answered? : Option (VenueRequest × Reply) := none

/-- A routine in the middle of a stretch brings about `pause` with every stretch that ends
at a question, and `goal` with its last one, whatever the answers are and whatever others
do to the state in the meantime. -/
def Keeps (pause : Origin σ → VenueRequest → σ → Prop) (goal : Origin σ → α → σ → Prop) :
    Routine σ α → Origin σ → σ → Prop
  | done a, x, s => goal x a s
  | look k, x, s => (k s).Keeps pause goal x s
  | change f m, x, s => m.Keeps pause goal x (f s)
  | clock k, x, s => ∀ t, (k t).Keeps pause goal x s
  | ask r k, x, s => pause x r s
    ∧ ∀ reply s', (k reply).Keeps pause goal ⟨s', (r, reply)⟩ s'

variable {pause : Origin σ → VenueRequest → σ → Prop} {goal : Origin σ → α → σ → Prop}
  {x : Origin σ} {s s' : σ}

/-- The last stretch brings about what a routine keeps. -/
theorem Keeps.goal_of_reaches {m : Routine σ α} {a : α} (hm : m.Keeps pause goal x s)
    (h : m.Reaches s (.finished a) s') :
  goal x a s'
  := by
  induction m generalizing s with
  | done b =>
      obtain ⟨hq, rfl⟩ := h
      cases hq
      apply hm
  | look k ih => apply ih _ hm h
  | change f m ih => apply ih hm h
  | clock k ih =>
      obtain ⟨t, h⟩ := h
      apply ih t (hm t) h
  | ask r k ih => cases h.1

/-- A stretch that ends at a question brings about what a routine keeps, and the routine
goes on to keep it. -/
theorem Keeps.pause_of_reaches {m : Routine σ α} {r : VenueRequest} {k : Reply → Routine σ α}
    (hm : m.Keeps pause goal x s) (h : m.Reaches s (.asking r k) s') :
  pause x r s' ∧ ∀ reply s₁, (k reply).Keeps pause goal ⟨s₁, (r, reply)⟩ s₁
  := by
  induction m generalizing s with
  | done a => cases h.1
  | look k ih => apply ih _ hm h
  | change f m ih => apply ih hm h
  | clock k ih =>
      obtain ⟨t, h⟩ := h
      apply ih t (hm t) h
  | ask r k ih =>
      obtain ⟨hq, rfl⟩ := h
      cases hq
      apply hm

/-- What brings about more brings about less. -/
theorem Keeps.mono {pause' : Origin σ → VenueRequest → σ → Prop}
    {goal' : Origin σ → α → σ → Prop} {m : Routine σ α} (hm : m.Keeps pause goal x s)
    (hpause : ∀ x r s, pause x r s → pause' x r s)
    (hgoal : ∀ x a s, goal x a s → goal' x a s) :
  m.Keeps pause' goal' x s
  := by
  induction m generalizing x s with
  | done a => apply hgoal _ _ _ hm
  | look k ih => apply ih _ hm
  | change f m ih => apply ih hm
  | clock k ih =>
      intro t
      apply ih t (hm t)
  | ask r k ih =>
      use hpause _ _ _ hm.1
      intro reply s'
      apply ih reply (hm.2 reply s')

/-- What brings something about also brings about what follows from it. -/
theorem Keeps.imp {goal' : Origin σ → α → σ → Prop} {m : Routine σ α}
    (hm : m.Keeps pause goal x s) (h : ∀ x a s, goal x a s → goal' x a s) :
  m.Keeps pause goal' x s
  := hm.mono (fun _ _ _ h => h) h

/-! ## The steps of a routine -/

@[simp]
theorem keeps_bind {goal : Origin σ → β → σ → Prop} (m : Routine σ α) (f : α → Routine σ β) :
  (m >>= f).Keeps pause goal x s
    ↔ m.Keeps pause (fun x a s => (f a).Keeps pause goal x s) x s
  := by
  change (m.andThen f).Keeps pause goal x s ↔ _
  induction m generalizing x s with
  | done a => rfl
  | look k ih => apply ih
  | change g m ih => apply ih
  | clock k ih => simp only [andThen, Keeps, ih]
  | ask r k ih => simp only [andThen, Keeps, ih]

@[simp]
theorem keeps_map {goal : Origin σ → β → σ → Prop} (f : α → β) (m : Routine σ α) :
  (f <$> m).Keeps pause goal x s ↔ m.Keeps pause (fun x a s => goal x (f a) s) x s
  := by
  rw [map_eq_pure_bind]
  apply keeps_bind

@[simp]
theorem keeps_state {goal : Origin σ → σ → σ → Prop} :
  state.Keeps pause goal x s ↔ goal x s s
  := Iff.rfl

@[simp]
theorem keeps_now {goal : Origin σ → Moment → σ → Prop} :
  now.Keeps pause goal x s ↔ ∀ t, goal x t s
  := Iff.rfl

theorem fetch_eq (r : VenueRequest) :
  (fetch r : Routine σ Reply) = ask r fun reply => done (r.outcome reply)
  := by
  rw [fetch]
  congr 1
  funext reply
  cases reply with
  | ok response => rfl
  | error e => rfl

@[simp]
theorem keeps_fetch {goal : Origin σ → Reply → σ → Prop} (r : VenueRequest) :
  (fetch r).Keeps pause goal x s
    ↔ pause x r s ∧ ∀ reply s', goal ⟨s', (r, reply)⟩ (r.outcome reply) s'
  := by
  rw [fetch_eq]
  rfl

end Routine

end VenueLink
