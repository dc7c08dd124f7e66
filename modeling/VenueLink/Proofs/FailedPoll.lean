import VenueLink.Desk.Balances
import VenueLink.Desk.Poll
import VenueLink.Proofs.Book
import VenueLink.Proofs.Runs

/-!
# Polls that fail

A refresh of the balances, a poll of fills or a poll of a state that ends with a failure of the
venue has done nothing but ask: its last question came to that failure, and at no time has it
changed the desk.  What the desk is then is what others have made of it.
-/

namespace VenueLink

/-! ## Runs that change nothing -/

namespace Routine

variable {σ : Type} {s s' : σ} {x : Exchange σ} {xs : List (Exchange σ)}

/-- No stretch between some exchanges has changed the state. -/
def Untouched (s : σ) (xs : List (Exchange σ)) (s' : σ) : Prop :=
  ∀ y ∈ stretches s xs s', y.2 = y.1

theorem untouched_nil :
  Untouched s [] s' ↔ s' = s
  := List.forall_mem_singleton

theorem untouched_cons :
  Untouched s (x :: xs) s' ↔ x.left = s ∧ Untouched x.found xs s'
  := List.forall_mem_cons

theorem untouched_singleton :
  Untouched s [x] s' ↔ x.left = s ∧ s' = x.found
  := by
  rw [untouched_cons, untouched_nil]

/-- Where nobody else changes the state either, it stays as it is. -/
theorem Untouched.eq_of_alone (h : Untouched s xs s') (halone : ∀ x ∈ xs, x.found = x.left) :
  s' = s
  := by
  induction xs generalizing s with
  | nil => exact untouched_nil.mp h
  | cons x rest ih =>
      obtain ⟨rfl, hrest⟩ := untouched_cons.mp h
      rw [List.forall_mem_cons] at halone
      rw [ih hrest halone.2, halone.1]

end Routine

open Routine (Untouched exchanges requests)

namespace Desk

variable {p : Policy} {o : Order} {id : VenueId} {d d' : Desk} {es : List (Event Desk)}
  {e : VenueError}

/-! ## Questions for one order -/

/-- What an answer to the question for one order tells: the entry of the order, or that there is
none, or a failure. -/
def told : Reply → Except VenueError (Option Json.Members)
  | .ok result => .ok (result.orderMembers?.filter fun entry => !entry.isEmpty)
  | .error e => if e.isMissingOrder then .ok none else .error e

theorem eq_error_of_told {reply : Reply} (h : told reply = .error e) :
  reply = .error e
  := by
  cases reply with
  | ok result => cases h
  | error e' =>
      rw [told] at h
      split at h
      · cases h
      · cases h
        rfl

/-- The question for one order is all that is done for it. -/
theorem runs_detail {endpoint : Endpoint} {found : Except VenueError (Option Json.Members)} :
  (detail endpoint o id).Runs d es (.finished found) d'
    ↔ ∃ x, es = [.exchange x] ∧ x.left = d ∧ x.request = orderRequest endpoint o id
      ∧ x.found = d' ∧ found = told x.outcome
  := by
  have hdetail : detail endpoint o id = told <$> .fetch (orderRequest endpoint o id) := by
    rw [detail, map_eq_pure_bind]
    congr 1
    funext reply
    cases reply with
    | ok result => rfl
    | error e => exact (apply_ite pure (e.isMissingOrder = true) _ _).symm
  rw [hdetail, Routine.runs_map]
  simp only [Routine.runs_fetch]
  constructor
  · rintro ⟨_, ⟨x, rfl, rfl, hrequest, rfl, rfl⟩, rfl⟩
    exact ⟨x, rfl, rfl, hrequest, rfl, rfl⟩
  · rintro ⟨x, rfl, rfl, hrequest, rfl, rfl⟩
    exact ⟨_, ⟨x, rfl, rfl, hrequest, rfl, rfl⟩, rfl⟩

/-! ## Failures -/

/-- A run that failed has asked some questions and done nothing else.  The last answer was the
failure, and the desk is as it was if others have left it so. -/
structure Failed (d : Desk) (es : List (Event Desk)) (asked : List VenueRequest)
    (e : VenueError) (d' : Desk) : Prop where
  asked : requests es = asked
  failure : ∃ x, (exchanges es).getLast? = some x ∧ x.outcome = .error e
  untouched : Untouched d (exchanges es) d'
  alone : (∀ x ∈ exchanges es, x.found = x.left) → d' = d

theorem Failed.of_untouched {asked : List VenueRequest} {x : Exchange Desk}
    (hasked : requests es = asked) (hlast : (exchanges es).getLast? = some x)
    (hfails : x.outcome = .error e) (huntouched : Untouched d (exchanges es) d') :
  Failed d es asked e d'
  := ⟨hasked, ⟨x, hlast, hfails⟩, huntouched, huntouched.eq_of_alone⟩

theorem failed_of_exchange {x : Exchange Desk} (hfails : x.outcome = .error e) :
  Failed x.left [.exchange x] [x.request] e x.found
  := .of_untouched rfl rfl hfails (Routine.untouched_singleton.mpr ⟨rfl, rfl⟩)

/-- A question before a failure. -/
theorem Failed.cons {asked : List VenueRequest} {x : Exchange Desk}
    (h : Failed x.found es asked e d') :
  Failed x.left (.exchange x :: es) (x.request :: asked) e d'
  := by
  obtain ⟨z, hlast, hfails⟩ := h.failure
  apply Failed.of_untouched (x := z) _ _ hfails (Routine.untouched_cons.mpr ⟨rfl, h.untouched⟩)
  · exact congrArg (x.request :: ·) h.asked
  · rw [Routine.exchanges_exchange, List.getLast?_cons, hlast]
    rfl

/-- What asks one question, and does not fail any more when it has the answer. -/
theorem failed_of_fetch {α : Type} {r : VenueRequest}
    {k : Reply → Routine Desk (Except VenueError α)} (herror : ∀ e, k (.error e) = pure (.error e))
    (hok : ∀ raw s es s', ¬ (k (.ok raw)).Runs s es (.finished (.error e)) s')
    (h : (.fetch r >>= k).Runs d es (.finished (.error e)) d') :
  Failed d es [r] e d'
  := by
  obtain ⟨_, _, _, _, rfl, hfetch, h⟩ := (Routine.runs_bind _ _).mp h
  obtain ⟨x, rfl, rfl, hrequest, rfl, rfl⟩ := (Routine.runs_fetch _).mp hfetch
  cases hfails : x.outcome with
  | ok raw =>
      rw [hfails] at h
      exact absurd h (hok raw _ _ _)
  | error e' =>
      rw [hfails, herror] at h
      obtain ⟨rfl, heq, rfl⟩ := (Routine.runs_pure _).mp h
      cases heq
      rw [← hrequest]
      exact failed_of_exchange hfails

theorem failed_of_refreshBalances
    (h : (refreshBalances p).Runs d es (.finished (.error e)) d') :
  Failed d es [.of .balances []] e d'
  := by
  apply failed_of_fetch _ _ h
  · intro e
    rfl
  · intro raw s es s' h
    obtain ⟨_, _, _, _, -, -, h⟩ := (Routine.runs_bind _ _).mp h
    cases ((Routine.runs_pure _).mp h).2.1

theorem failed_of_pollFills (h : (pollFills o).Runs d es (.finished (.error e)) d') :
  ∃ id, o.knownId? = some id ∧ Failed d es [orderRequest .deals o id] e d'
  := by
  unfold pollFills at h
  cases hid : o.knownId? with
  | none =>
      rw [hid] at h
      cases ((Routine.runs_pure _).mp h).2.1
  | some id =>
      rw [hid] at h
      use id, rfl
      apply failed_of_fetch _ _ h
      · intro e
        rfl
      · intro raw s es s' h
        simp only [Routine.runs_bind, Routine.runs_pure] at h
        obtain ⟨_, _, _, _, -, -, _, _, _, _, -, -, -, heq, -⟩ := h
        cases heq

/-- The question among the finished orders is asked after the one among the resting orders has
told of none, and either of them can fail. -/
theorem failed_of_anyDetail (h : (anyDetail o id).Runs d es (.finished (.error e)) d') :
  Failed d es [orderRequest .pendingDetail o id] e d'
    ∨ Failed d es [orderRequest .pendingDetail o id, orderRequest .finishedDetail o id] e d'
  := by
  obtain ⟨found, _, _, _, rfl, hdetail, h⟩ := (Routine.runs_bind _ _).mp h
  obtain ⟨x, rfl, rfl, hrequest, rfl, rfl⟩ := runs_detail.mp hdetail
  rw [← hrequest]
  split at h
  case h_1 =>
    right
    obtain ⟨y, rfl, hleft, hrequest', rfl, hfails⟩ := runs_detail.mp h
    rw [← hrequest']
    apply Failed.cons
    rw [← hleft]
    exact failed_of_exchange (eq_error_of_told hfails.symm)
  case h_2 =>
    left
    obtain ⟨rfl, hfails, rfl⟩ := (Routine.runs_pure _).mp h
    exact failed_of_exchange (eq_error_of_told hfails.symm)

theorem failed_of_pollStatus (hid : o.confirmedId? = some id)
    (h : (pollStatus p o).Runs d es (.finished (.error (.venue e))) d') :
  Failed d es [orderRequest .pendingDetail o id] e d'
    ∨ Failed d es [orderRequest .pendingDetail o id, orderRequest .finishedDetail o id] e d'
  := by
  rw [pollStatus, resolveMissing, hid] at h
  change Routine.Runs (anyDetail o id >>= _) d es _ d' at h
  obtain ⟨found, _, _, _, rfl, hdetail, h⟩ := (Routine.runs_bind _ _).mp h
  split at h
  case h_1 =>
    obtain ⟨rfl, heq, rfl⟩ := (Routine.runs_pure _).mp h
    cases heq
    rw [List.append_nil]
    exact failed_of_anyDetail hdetail
  case h_2 =>
    obtain ⟨_, _, _, _, -, -, h⟩ := (Routine.runs_bind _ _).mp h
    cases ((Routine.runs_pure _).mp h).2.1
  case h_3 =>
    simp only [Routine.runs_bind, Routine.runs_pure] at h
    obtain ⟨_, _, _, _, -, -, _, _, _, _, -, -, -, heq, -⟩ := h
    cases heq

/-- A refresh of the balances, a poll of fills or a poll of the state of an order with a confirmed
venue id leaves no trace on the desk when it fails.  The poll of a state has asked for the order
among the resting ones, or then also among the finished ones. -/
theorem failed_of_runs (p : Policy) (d d' : Desk) (es : List (Event Desk)) :
  (∀ e, (refreshBalances p).Runs d es (.finished (.error e)) d' →
    Failed d es [.of .balances []] e d') ∧
  (∀ o e, (pollFills o).Runs d es (.finished (.error e)) d' →
    ∃ id, o.knownId? = some id ∧ Failed d es [orderRequest .deals o id] e d') ∧
  ∀ o id e, o.confirmedId? = some id →
    (pollStatus p o).Runs d es (.finished (.error (.venue e))) d' →
    Failed d es [orderRequest .pendingDetail o id] e d'
      ∨ Failed d es [orderRequest .pendingDetail o id, orderRequest .finishedDetail o id] e d'
  := ⟨fun _ => failed_of_refreshBalances, fun _ _ => failed_of_pollFills,
    fun _ _ _ => failed_of_pollStatus⟩

/-- A venue that limits the rate of requests, but may answer that no such order rests. -/
def limitingVenue (answers : Bool) (r : VenueRequest) : Reply :=
  if answers ∧ r.endpoint = .pendingDetail then .ok (.object [("result", .object [])])
  else .error .rateLimited

/-- A resting order with a confirmed venue id. -/
def limitedOrder : Order := .sample "c1" (.confirmed ⟨"7"⟩)

/-- A desk with the order. -/
def limitedDesk : Desk := { book := { orders := [limitedOrder] } }

/-- A piece of work on the desk at such a venue, with nobody else at work. -/
def limitedRun {α : Type} (answers : Bool) (m : Routine Desk α) : List (Event Desk) × α × Desk :=
  m.played ⟨0⟩ (limitingVenue answers) (fun _ d => d) limitedDesk

theorem runs_limitedRun {α : Type} {answers : Bool} {m : Routine Desk α} {a : α}
    (h : (limitedRun answers m).2.1 = a) :
  m.Runs limitedDesk (limitedRun answers m).1 (.finished a) (limitedRun answers m).2.2
  := by
  rw [← h]
  apply Routine.runs_played

theorem Failed.limited {α : Type} {answers : Bool} {m : Routine Desk α}
    {asked : List VenueRequest}
    (h : Failed limitedDesk (limitedRun answers m).1 asked e (limitedRun answers m).2.2) :
  (limitedRun answers m).2.2 = limitedDesk
  := h.alone fun _ hx => (Routine.of_mem_played hx).2

/-- All the polls fail at the venue and leave the desk as it is, the poll of the order's state at
the first question or at the second one. -/
theorem failed_of_runs_limited :
  (limitedRun false (refreshBalances {})).2 = (.error .rateLimited, limitedDesk)
    ∧ (limitedRun false (pollFills limitedOrder)).2 = (.error .rateLimited, limitedDesk)
    ∧ ∀ answers, (limitedRun answers (pollStatus {} limitedOrder)).2
      = (.error (.venue .rateLimited), limitedDesk)
  := by
  refine ⟨Prod.ext rfl ?_, Prod.ext rfl ?_, fun answers => ?_⟩
  · obtain ⟨hrefresh, -, -⟩ := failed_of_runs {} limitedDesk _ _
    exact (hrefresh .rateLimited (runs_limitedRun rfl)).limited
  · obtain ⟨-, hfills, -⟩ := failed_of_runs {} limitedDesk _ (limitedRun false _).1
    obtain ⟨_, -, hfailed⟩ := hfills limitedOrder .rateLimited (runs_limitedRun rfl)
    exact hfailed.limited
  · have hfails : (limitedRun answers (pollStatus {} limitedOrder)).2.1
        = .error (.venue .rateLimited) := by
      cases answers with
      | false => rfl
      | true => rfl
    obtain ⟨-, -, hstatus⟩ := failed_of_runs {} limitedDesk _ _
    apply Prod.ext hfails
    rcases hstatus _ _ _ rfl (runs_limitedRun hfails) with hfailed | hfailed
    · exact hfailed.limited
    · exact hfailed.limited

end Desk

end VenueLink
