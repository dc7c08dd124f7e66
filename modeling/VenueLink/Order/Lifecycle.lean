/-!
# Order lifecycle

An order rests on the venue until it is filled, canceled or failed, and stays what it then
is.  A proposed state is applied, changes nothing, or conflicts with the end already
reached.
-/

namespace VenueLink

/-- The state of an order. -/
inductive OrderState where
  /-- On the venue, perhaps filled in part. -/
  | resting
  /-- Filled completely. -/
  | filled
  /-- Canceled on the venue. -/
  | canceled
  /-- Refused or given up as lost. -/
  | failed
deriving DecidableEq, Repr, Inhabited

/-- What becomes of a proposed state. -/
inductive Transition where
  /-- The proposed state replaces the current one. -/
  | applied
  /-- The proposed state is the current one. -/
  | unchanged
  /-- An ended order is said to rest. -/
  | ignored
  /-- An ended order is said to have ended otherwise. -/
  | conflict (kept refused : OrderState)
deriving DecidableEq, Repr

namespace OrderState

/-- Whether the order has ended. -/
def isTerminal : OrderState → Bool
  | resting => false
  | _ => true

/-- The word for a state. -/
def label : OrderState → String
  | resting => "open"
  | filled => "filled"
  | canceled => "canceled"
  | failed => "failed"

/-- Whether a move from one state to another is a step of the lifecycle: only a resting
order moves, and only to an end. -/
def canMove (current proposed : OrderState) : Bool :=
  !current.isTerminal && proposed.isTerminal

/-- What becomes of a state proposed for an order in the current one. -/
def propose (current proposed : OrderState) : Transition :=
  if current = proposed then .unchanged
  else if canMove current proposed then .applied
  else if proposed = resting then .ignored
  else .conflict current proposed

/-- The state after a proposal. -/
def after (current proposed : OrderState) : OrderState :=
  match propose current proposed with
  | .applied => proposed
  | _ => current

/-- An ended order stays what it is. -/
theorem after_of_isTerminal {s : OrderState} (h : s.isTerminal = true) (t : OrderState) :
  s.after t = s
  := by
  cases s with
  | resting => exact absurd h (by decide)
  | filled => cases t <;> rfl
  | canceled => cases t <;> rfl
  | failed => cases t <;> rfl

/-- A resting order takes every state that is proposed for it. -/
@[simp] theorem after_resting (t : OrderState) :
  resting.after t = t
  := by
  cases t <;> rfl

/-- A proposal repeated changes nothing more. -/
@[simp] theorem after_after (s t : OrderState) :
  (s.after t).after t = s.after t
  := by
  cases s <;> cases t <;> rfl

/-- A proposal is applied just when it changes the state. -/
theorem propose_eq_applied_iff (s t : OrderState) :
  s.propose t = .applied ↔ s.after t ≠ s
  := by
  cases s <;> cases t <;> decide

end OrderState

end VenueLink
