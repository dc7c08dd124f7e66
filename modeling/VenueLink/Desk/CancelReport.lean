import VenueLink.Desk.Cancel

/-!
# The report of a cancel run

Every order of a run gets one outcome, the first one that is settled for it.  What is not
settled when the run is cut short fails for that reason.
-/

namespace VenueLink

/-- What became of one order of a run. -/
inductive CancelOutcome where
  /-- It is canceled. -/
  | canceled
  /-- It could not be confirmed canceled. -/
  | failed (reason : String)
deriving DecidableEq, Repr

namespace CancelOutcome

/-- The outcome of a single cancel. -/
def ofResult : Except CancelError Unit → CancelOutcome
  | .ok _ => canceled
  | .error e => failed e.message

/-- Whether the order is canceled. -/
def isSuccess : CancelOutcome → Bool
  | canceled => true
  | failed _ => false

/-- The word under which an outcome is counted. -/
def label : CancelOutcome → String
  | canceled => "canceled"
  | failed _ => "failed"

end CancelOutcome

/-- The outcomes of a run, sorted by order. -/
structure CancelReport where
  outcomes : List (ClientId × CancelOutcome) := []
deriving DecidableEq, Repr, Inhabited

namespace CancelReport

/-- Put the outcome of an order at its place among sorted outcomes. -/
def insertOutcome (id : ClientId) (outcome : CancelOutcome) :
    List (ClientId × CancelOutcome) → List (ClientId × CancelOutcome)
  | [] => [(id, outcome)]
  | (k, v) :: rest =>
    if id = k then (id, outcome) :: rest
    else if id.text < k.text then (id, outcome) :: (k, v) :: rest
    else (k, v) :: insertOutcome id outcome rest

/-- Report the outcome of an order. -/
def insert (r : CancelReport) (id : ClientId) (outcome : CancelOutcome) : CancelReport :=
  ⟨insertOutcome id outcome r.outcomes⟩

/-- The outcome of an order. -/
def get? (r : CancelReport) (id : ClientId) : Option CancelOutcome :=
  r.outcomes.lookup id

/-- An outcome put into a report is found under its order, and the others are found as
before. -/
theorem get?_insert (r : CancelReport) (id other : ClientId) (outcome : CancelOutcome) :
  (r.insert id outcome).get? other = if other = id then some outcome else r.get? other
  := by
  obtain ⟨outcomes⟩ := r
  simp only [insert, get?]
  fun_induction insertOutcome id outcome outcomes with
  | case1 =>
    by_cases h : other = id
    · simp [h]
    · simp [List.lookup_cons, h, beq_false_of_ne h]
  | case2 v rest =>
    by_cases h : other = id
    · simp [h]
    · simp [List.lookup_cons, h, beq_false_of_ne h]
  | case3 k v rest hne hlt =>
    by_cases h : other = id
    · simp [h]
    · simp [List.lookup_cons, h, beq_false_of_ne h]
  | case4 k v rest hne hlt ih =>
    by_cases hk : other = k
    · simp [hk, show ¬k = id from fun h => hne h.symm]
    · simp [List.lookup_cons, beq_false_of_ne hk, ih]

/-- The orders reported canceled. -/
def successes (r : CancelReport) : List ClientId :=
  (r.outcomes.filter fun entry => entry.2.isSuccess).map (·.1)

/-- The orders reported otherwise. -/
def failures (r : CancelReport) : List ClientId :=
  (r.outcomes.filter fun entry => !entry.2.isSuccess).map (·.1)

/-- What a report counts. -/
def metrics (r : CancelReport) : List Metric :=
  r.outcomes.map fun entry => .cancelOutcome entry.2.label

end CancelReport

/-- A run on its way: the orders without an outcome, and the outcomes so far. -/
structure CancelProgress where
  pending : List ClientId
  report : CancelReport
deriving DecidableEq, Repr

namespace CancelProgress

/-- No order has an outcome yet. -/
def start (orders : List Order) : CancelProgress :=
  ⟨(orders.map (·.clientId)).eraseDups, {}⟩

/-- Give an order its outcome, unless it has one. -/
def settle (id : ClientId) (outcome : CancelOutcome) (g : CancelProgress) : CancelProgress :=
  if id ∈ g.pending then ⟨g.pending.filter (· ≠ id), g.report.insert id outcome⟩ else g

/-- The report of a run that is over: what is still pending failed for a reason. -/
def finish (g : CancelProgress) (reason : String) : CancelReport :=
  g.pending.foldl (fun report id => report.insert id (.failed reason)) g.report

end CancelProgress

end VenueLink
