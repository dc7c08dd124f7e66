import VenueLink.Proofs.CancelRoutes
import VenueLink.Proofs.MissingOrder
import VenueLink.Proofs.Runs

/-!
# What an answer to a single cancel counts for

The cancel of a resting order with a confirmed venue id asks one question, and what it comes to
is decided by the answer alone.  A failure counts for canceled when a text in it tells of a
missing order, also a text of the transport.  An answer that is accepted counts for canceled
whatever result it has in it, although the same result may acknowledge nothing in the answer to a
bulk request.
-/

namespace VenueLink

open Json (Members)
open Routine (exchanges)

/-! ## Flags and codes -/

namespace Json

theorem members?_eq_some_iff {v : Json} {members : Members} :
  v.members? = some members ↔ v = .obj members
  := by
  cases v with
  | obj entries => simp [Json.members?]
  | _ => simp [Json.members?]

/-- A flag says no: it is false, or the number zero. -/
def Refuses : Json → Prop
  | .bool b => b = false
  | .num (.int n) => n = 0
  | .num (.float x) => (x == 0) = true
  | _ => False

/-- A flag that says no is not taken for a yes. -/
theorem not_isTruthy_of_refuses {flag : Json} (h : Refuses flag) :
  Json.isTruthy (some flag) = false
  := by
  cases flag with
  | bool b => exact h
  | num n =>
      cases n with
      | int n =>
          cases h
          decide
      | float x => exact congrArg not h
  | _ => cases h

end Json

/-- An answer is accepted if its code reports success. -/
theorem VenueRequest.exists_outcome_of_accepted {members : Members} (r : VenueRequest)
    (hcode : Json.isSuccessCode (members.get? "code") = true) :
  ∃ response, r.outcome (.ok (.obj members)) = .ok response
  := by
  use (members.get? "result").getD (.obj members)
  simp [VenueRequest.outcome, VenueRequest.result, Json.result, Json.members?, hcode]

namespace Desk

variable {p : Policy} {o a : Order} {id : VenueId} {d d' : Desk} {es : List (Event Desk)}
  {result : Except CancelError Unit}

/-! ## Runs of single cancels -/

/-- What becomes of the cancel of an order, and of the desk, with an outcome of the request. -/
def verdict (o : Order) (now : Moment) (outcome : Reply) (d : Desk) :
    Except CancelError Unit × Desk :=
  match outcome with
  | .ok _ => (.ok (), d.markCanceled o now)
  | .error e =>
    if e.isMissingOrder then (.ok (), d.markCanceled o now)
    else (.error (.rejected o.clientId e), d)

/-- A cancel that was sent ends with the verdict on its outcome. -/
theorem runs_answeredCancel (o : Order) (outcome : Reply) :
  (answeredCancel o outcome).Runs d es (.finished result) d'
    ↔ ∃ now, es = [.clock now] ∧ (result, d') = verdict o now outcome d
  := by
  have hmark : (∃ now after, es = .clock now :: after
      ∧ (after = [] ∧ d' = d.markCanceled o now) ∧ result = .ok ())
      ↔ ∃ now, es = [.clock now] ∧ result = .ok () ∧ d' = d.markCanceled o now := by
    simp only [and_assoc, and_comm, exists_and_left, exists_eq_left]
  cases outcome with
  | ok response => simpa [answeredCancel, verdict] using hmark
  | error e =>
      cases hmissing : e.isMissingOrder with
      | true => simpa [answeredCancel, verdict, hmissing] using hmark
      | false =>
          simp only [answeredCancel, hmissing, Bool.false_eq_true, if_false, Routine.runs_bind,
            Routine.runs_now, Routine.runs_pure, verdict, Prod.mk.injEq]
          constructor
          · rintro ⟨now, _, _, _, rfl, ⟨rfl, rfl⟩, rfl, rfl, rfl⟩
            exact ⟨now, rfl, rfl, rfl⟩
          · rintro ⟨now, rfl, rfl, rfl⟩
            exact ⟨now, _, _, _, rfl, ⟨rfl, rfl⟩, rfl, rfl, rfl⟩

theorem runs_submitCancel :
  (submitCancel a id).Runs d es (.finished result) d'
    ↔ ∃ x now, es = [.exchange x, .clock now] ∧ x.left = d
      ∧ x.request = orderRequest .cancel a id
      ∧ (result, d') = verdict a now x.outcome x.found
  := by
  have hfetch : submitCancel a id = (do
      let outcome ← .fetch (orderRequest .cancel a id)
      answeredCancel a outcome) := rfl
  rw [hfetch, Routine.runs_bind]
  simp only [Routine.runs_fetch, runs_answeredCancel]
  constructor
  · rintro ⟨_, _, _, _, rfl, ⟨x, rfl, rfl, hrequest, rfl, rfl⟩, now, rfl, hverdict⟩
    exact ⟨x, now, rfl, rfl, hrequest, hverdict⟩
  · rintro ⟨x, now, rfl, rfl, hrequest, hverdict⟩
    exact ⟨_, _, _, _, rfl, ⟨x, rfl, rfl, hrequest, rfl, rfl⟩, now, rfl, hverdict⟩

/-- The cancel of an order that rests under a confirmed venue id asks for it once, and ends with
the verdict on what comes of that. -/
theorem runs_cancelOrder (ha : d.book.find? o.clientId = some a) (hrests : a.state = .resting)
    (hid : a.confirmedId? = some id) :
  (cancelOrder p o).Runs d es (.finished result) d'
    ↔ ∃ x now, es = [.exchange x, .clock now] ∧ x.left = d
      ∧ x.request = orderRequest .cancel a id
      ∧ (result, d') = verdict a now x.outcome x.found
  := by
  have hcurrent : d.current o = a := by rw [current, ha, Option.getD_some]
  have hagain : d.current a = a := by rw [← hcurrent, current_current]
  have hsettled : settled? a = none := by rw [settled?, hrests]
  have hlook (k : Desk → Routine Desk (Except CancelError Unit)) :
      (Routine.state >>= k).Runs d es (.finished result) d'
        ↔ (k d).Runs d es (.finished result) d' := Iff.rfl
  rw [← runs_submitCancel, cancelOrder, hlook, hcurrent]
  dsimp only
  rw [hsettled]
  dsimp only
  rw [resolveMissing, hid, pure_bind]
  dsimp only
  rw [hlook, hagain]
  rw [hsettled]

/-- An answer to the request makes the verdict on it the end of the cancel. -/
theorem runs_cancelOrder_of_answer {x : Exchange Desk} {now : Moment}
    (ha : d.book.find? o.clientId = some a) (hrests : a.state = .resting)
    (hid : a.confirmedId? = some id) (hleft : x.left = d)
    (hrequest : x.request = orderRequest .cancel a id) :
  (cancelOrder p o).Runs d [.exchange x, .clock now] (.finished result) d'
    ↔ (result, d') = verdict a now x.outcome x.found
  := by
  rw [runs_cancelOrder ha hrests hid]
  constructor
  · rintro ⟨_, _, ⟨⟩, -, -, hverdict⟩
    exact hverdict
  · intro hverdict
    exact ⟨x, now, rfl, hleft, hrequest, hverdict⟩

/-- The cancel of an order asks for it once, under the venue id of the order in the book, and
leaves the desk as it is until the answer comes. -/
def AsksOnce (p : Policy) (o a : Order) (id : VenueId) (d : Desk) : Prop :=
  ∀ es result d', (cancelOrder p o).Runs d es (.finished result) d' →
    ∃ x now, es = [.exchange x, .clock now] ∧ x.left = d ∧ x.request = orderRequest .cancel a id

theorem asksOnce (ha : d.book.find? o.clientId = some a) (hrests : a.state = .resting)
    (hid : a.confirmedId? = some id) :
  AsksOnce p o a id d
  := by
  intro es result d' h
  obtain ⟨x, now, hes, hleft, hrequest, -⟩ := (runs_cancelOrder ha hrests hid).mp h
  exact ⟨x, now, hes, hleft, hrequest⟩

/-! ## Failures -/

/-- A failed request counts for canceled if it tells of a missing order, and for nothing
otherwise. -/
theorem eq_verdict_error (o : Order) (now : Moment) (e : VenueError) (d : Desk) :
  (result, d') = verdict o now (.error e) d
    ↔ e.TellsMissing ∧ result = .ok () ∧ d' = d.markCanceled o now
      ∨ ¬e.TellsMissing ∧ result = .error (.rejected o.clientId e) ∧ d' = d
  := by
  rw [← e.isMissingOrder_iff, verdict]
  cases e.isMissingOrder <;> simp

/-- A failure of the request to cancel a resting order with a confirmed venue id, whichever kind it
is of, counts for canceled just when a text in it tells of a missing order.  Otherwise the cancel
is rejected, and the desk stays as it was found. -/
theorem canceled_iff_tellsMissing (ha : d.book.find? o.clientId = some a)
    (hrests : a.state = .resting) (hid : a.confirmedId? = some id) :
  AsksOnce p o a id d ∧
  ∀ (x : Exchange Desk) (e : VenueError), x.left = d → x.request = orderRequest .cancel a id →
    x.outcome = .error e → ∀ now result d',
      (cancelOrder p o).Runs d [.exchange x, .clock now] (.finished result) d' ↔
        e.TellsMissing ∧ result = .ok () ∧ d' = x.found.markCanceled a now ∨
        ¬e.TellsMissing ∧ result = .error (.rejected a.clientId e) ∧ d' = x.found
  := by
  use asksOnce ha hrests hid
  intro x e hleft hrequest hfails now result d'
  rw [runs_cancelOrder_of_answer ha hrests hid hleft hrequest, hfails]
  exact eq_verdict_error a now e x.found

/-- An order rests under a confirmed venue id. -/
def confirmedOrder : Order := .sample "c1" (.confirmed ⟨"7"⟩)

/-- A desk that watches the order. -/
def confirmedDesk : Desk := { book := { orders := [confirmedOrder] } }

/-- The order is canceled, and the request is answered. -/
def answeredRun (reply : Reply) : List (Event Desk) × Except CancelError Unit × Desk :=
  (cancelOrder {} confirmedOrder).played ⟨0⟩ (fun _ => reply) (fun _ d => d) confirmedDesk

theorem runs_answeredRun (reply : Reply) :
  (cancelOrder {} confirmedOrder).Runs confirmedDesk (answeredRun reply).1
    (.finished (answeredRun reply).2.1) (answeredRun reply).2.2
  := Routine.runs_played ..

/-- No connection could be had. -/
def refusedConnection : VenueError := .connection "connection refused"

/-- When no connection can be had, and nothing is said of orders, the cancel is rejected and
changes nothing. -/
theorem canceled_iff_tellsMissing_refusedConnection :
  (answeredRun (.error refusedConnection)).2
    = (.error (.rejected ⟨"c1"⟩ refusedConnection), confirmedDesk)
  := by
  have hrun := runs_answeredRun (.error refusedConnection)
  have hwatched : confirmedDesk.book.find? confirmedOrder.clientId = some confirmedOrder := by
    decide
  obtain ⟨hasks, hfails⟩ := canceled_iff_tellsMissing (p := {}) hwatched rfl rfl
  obtain ⟨x, now, hes, hleft, hrequest⟩ := hasks _ _ _ hrun
  have hx : x ∈ exchanges (answeredRun (.error refusedConnection)).1 := by simp [hes]
  obtain ⟨hreply, hfound⟩ := Routine.of_mem_played hx
  have houtcome : x.outcome = .error refusedConnection := by
    rw [Exchange.outcome, hreply]
    rfl
  rw [hes] at hrun
  rcases (hfails x _ hleft hrequest houtcome now _ _).mp hrun with
    ⟨hmissing, -, -⟩ | ⟨-, hresult, hdesk⟩
  · exact absurd hmissing (by decide +kernel)
  · rw [hfound, hleft] at hdesk
    exact Prod.ext hresult hdesk

/-- The request to cancel the order is answered, nothing else happens, and the order is canceled. -/
def CountsCanceled (reply : Reply) : Prop :=
  ∃ es d', (cancelOrder {} confirmedOrder).Runs confirmedDesk es (.finished (.ok ())) d'
    ∧ (∀ x ∈ exchanges es, x.reply = reply ∧ x.found = x.left)
    ∧ d'.book.orders = [{ confirmedOrder with state := .canceled }]

theorem countsCanceled_of_answeredRun {reply : Reply} (hresult : (answeredRun reply).2.1 = .ok ())
    (hcanceled : (answeredRun reply).2.2.book.orders
      = [{ confirmedOrder with state := .canceled }]) :
  CountsCanceled reply
  := by
  have hrun := runs_answeredRun reply
  rw [hresult] at hrun
  exact ⟨_, _, hrun, fun x hx => Routine.of_mem_played hx, hcanceled⟩

/-- The transport never reaches the venue, or the answer cannot be read, and the order counts for
canceled all the same, since the text of the failure happens to hold a telling phrase. -/
theorem canceled_without_verdict :
  CountsCanceled (.error (.connection "dns error: host does not exist"))
    ∧ CountsCanceled (.error (.invalidResponse "schema order not found"))
  := by
  constructor
  · apply countsCanceled_of_answeredRun <;> decide +kernel
  · apply countsCanceled_of_answeredRun <;> decide +kernel

/-! ## Accepted answers -/

/-- An entry of a bulk answer acknowledges the cancel of a venue id. -/
def Acknowledges (entry : Members) (id : VenueId) : Prop :=
  Json.isTruthy (entry.get? "result") = true ∧ OrderEntry.venueId? entry = some id

/-- The entries of a bulk answer acknowledge each for itself. -/
theorem acknowledges_append_cons {b : BulkExchange} {before after : List Json}
    {members : Members}
    (h : (CancelRun.bulkRequest b.members).outcome b.reply
      = .ok (.arr (before ++ .obj members :: after))) (m : BulkMember) :
  b.Acknowledges m ↔ Acknowledges members m.venueId
    ∨ ∃ entry, .obj entry ∈ before ++ after ∧ Acknowledges entry m.venueId
  := by
  rw [BulkExchange.Acknowledges, h]
  constructor
  · rintro ⟨_, ⟨⟩, _, hentry, entry, hmembers, hacknowledges⟩
    obtain rfl := Json.members?_eq_some_iff.mp hmembers
    rcases List.mem_cons.mp (List.perm_middle.mem_iff.mp hentry) with ⟨⟨⟩⟩ | hother
    · exact .inl hacknowledges
    · exact .inr ⟨entry, hother, hacknowledges⟩
  · rintro (hacknowledges | ⟨entry, hother, hacknowledges⟩)
    · exact ⟨_, rfl, _, List.mem_append_cons_self, members, rfl, hacknowledges⟩
    · have hentry := List.perm_middle.mem_iff.mpr (List.mem_cons_of_mem (.obj members) hother)
      exact ⟨_, rfl, _, hentry, entry, rfl, hacknowledges⟩

/-- The cancel of a resting order with a confirmed venue id takes every answer that is accepted
for a success, whatever result stands in it, and the order is marked canceled.  Among the entries
of an accepted answer to a bulk request the same object acknowledges its venue id only when the
result in it is a yes, so with a no it acknowledges nothing. -/
theorem canceled_of_accepted {members : Members} (ha : d.book.find? o.clientId = some a)
    (hrests : a.state = .resting) (hid : a.confirmedId? = some id)
    (hcode : Json.isSuccessCode (members.get? "code") = true) :
  AsksOnce p o a id d ∧
  (∀ x : Exchange Desk, x.left = d → x.request = orderRequest .cancel a id →
    x.reply = .ok (.obj members) → ∀ now,
      (∀ result d', (cancelOrder p o).Runs d [.exchange x, .clock now] (.finished result) d'
        ↔ result = .ok () ∧ d' = x.found.markCanceled a now) ∧
      ∀ q, x.found.book.find? a.clientId = some q →
        (x.found.markCanceled a now).Stands a.clientId (q.state.after .canceled)) ∧
  (∀ (b : BulkExchange) (before after : List Json),
    (CancelRun.bulkRequest b.members).outcome b.reply
      = .ok (.arr (before ++ .obj members :: after)) →
    ∀ m, b.Acknowledges m ↔ Acknowledges members m.venueId
      ∨ ∃ entry, .obj entry ∈ before ++ after ∧ Acknowledges entry m.venueId) ∧
  ∀ flag, members.get? "result" = some flag → flag.Refuses →
    ∀ id, ¬Acknowledges members id
  := by
  refine ⟨asksOnce ha hrests hid, ?_,
    fun b before after houtcome m => acknowledges_append_cons houtcome m, ?_⟩
  · intro x hleft hrequest hreply now
    obtain ⟨response, houtcome⟩ : ∃ response, x.outcome = .ok response := by
      rw [Exchange.outcome, hreply]
      exact x.request.exists_outcome_of_accepted hcode
    constructor
    · intro result d'
      rw [runs_cancelOrder_of_answer ha hrests hid hleft hrequest, houtcome, verdict,
        Prod.mk.injEq]
    · intro q hq
      exact stands_propose hq .canceled now
  · rintro flag hflag hrefuses id ⟨htruthy, -⟩
    rw [hflag, Json.not_isTruthy_of_refuses hrefuses] at htruthy
    cases htruthy

/-- An accepted answer with a flag for its result, which could also stand in a bulk answer. -/
def flaggedAnswer (flag : Json) : Members :=
  .ofList [("code", .ofInt 0), ("order_id", .str "7"), ("result", flag)]

/-- The order in a bulk request. -/
def confirmedMember : BulkMember := ⟨confirmedOrder, ⟨"7"⟩⟩

/-- A bulk request for the order, to which the answer is the only entry. -/
def flaggedBulk (flag : Json) : BulkExchange :=
  ⟨[confirmedMember], .ok (.object [("result", .arr [.obj (flaggedAnswer flag)])])⟩

/-- With a yes for its result an answer cancels the order, and would acknowledge it in a bulk
answer. -/
theorem canceled_of_accepted_granted :
  (∃ es d', (cancelOrder {} confirmedOrder).Runs confirmedDesk es (.finished (.ok ())) d'
    ∧ d'.Stands ⟨"c1"⟩ .canceled)
    ∧ (flaggedBulk (.bool true)).Acknowledges confirmedMember
  := by
  have hwatched : confirmedDesk.book.find? confirmedOrder.clientId = some confirmedOrder := by
    decide
  have hcode : Json.isSuccessCode ((flaggedAnswer (.bool true)).get? "code") = true := by decide
  obtain ⟨-, hsingle, hbulk, -⟩ := canceled_of_accepted (p := {}) hwatched rfl rfl hcode
  obtain ⟨hruns, hstands⟩ := hsingle ⟨confirmedDesk, orderRequest .cancel confirmedOrder ⟨"7"⟩,
    .ok (.obj (flaggedAnswer (.bool true))), confirmedDesk⟩ rfl rfl rfl ⟨0⟩
  constructor
  · exact ⟨_, _, (hruns _ _).mpr ⟨rfl, rfl⟩, hstands confirmedOrder (by decide)⟩
  · rw [hbulk _ [] [] rfl]
    exact .inl ⟨rfl, by decide⟩

/-- Answers that say no cancel the order as well, although they would acknowledge nothing in a
bulk answer. -/
theorem canceled_though_refused :
  (CountsCanceled (.ok (.obj (flaggedAnswer (.bool false))))
      ∧ ¬(flaggedBulk (.bool false)).Acknowledges confirmedMember)
    ∧ CountsCanceled (.ok (.obj (flaggedAnswer (.ofInt 0))))
      ∧ ¬(flaggedBulk (.ofInt 0)).Acknowledges confirmedMember
  := by
  rw [BulkExchange.acknowledges_iff, BulkExchange.acknowledges_iff]
  refine ⟨⟨?_, by decide⟩, ?_, by decide⟩
  · apply countsCanceled_of_answeredRun <;> decide +kernel
  · apply countsCanceled_of_answeredRun <;> decide +kernel

end Desk

end VenueLink
