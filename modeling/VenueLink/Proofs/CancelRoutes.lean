import VenueLink.Proofs.CancelCandidates
import VenueLink.Proofs.CancelOutcome
import VenueLink.Proofs.CancelPlay
import Mathlib.Data.List.Perm.Basic

/-!
# The routes of a cancel run

Every order of a run takes one of two routes: a bulk request acknowledges it, or a single
cancel is begun for it.  A log of a run tells which: it has the answers that the run takes up
and the single cancels that it begins.
-/

namespace VenueLink

open CancelRun (Finds candidates unfound pieces batchSize acknowledgedBy)
open Routine (replies)

/-! ## Logs -/

/-- What happens in a cancel run. -/
inductive CancelEvent where
  /-- An answer is taken up. -/
  | answered (a : CancelAnswer)
  /-- The single cancel of an order begins. -/
  | begun (o : Order)

/-- A bulk request that was answered. -/
structure BulkExchange where
  members : List BulkMember
  reply : Reply

namespace CancelEvent

/-- The answers that an event takes up. -/
def answers : CancelEvent → List CancelAnswer
  | answered a => [a]
  | begun _ => []

/-- The answer on the way to the venue ids that an event takes up. -/
@[simp]
def listing? : CancelEvent → Option (VenueRequest × Reply)
  | answered (.listing r reply) => some (r, reply)
  | _ => none

/-- The bulk request to which an event takes up the answer. -/
@[simp]
def bulk? : CancelEvent → Option BulkExchange
  | answered (.bulk ms reply) => some ⟨ms, reply⟩
  | _ => none

/-- The order whose single cancel an event begins. -/
@[simp]
def begun? : CancelEvent → Option Order
  | begun o => some o
  | _ => none

end CancelEvent

namespace CancelLog

/-- The answers on the way to the venue ids. -/
def listings (events : List CancelEvent) : List (VenueRequest × Reply) :=
  events.filterMap CancelEvent.listing?

/-- The bulk requests, in the order in which they are sent. -/
def bulks (events : List CancelEvent) : List BulkExchange :=
  events.filterMap CancelEvent.bulk?

/-- The orders whose single cancels begin. -/
def begun (events : List CancelEvent) : List Order :=
  events.filterMap CancelEvent.begun?

theorem filterMap_concat {α : Type} (f : CancelEvent → Option α) (events : List CancelEvent)
    (e : CancelEvent) :
  (events ++ [e]).filterMap f = events.filterMap f ++ (f e).toList
  := by
  rw [List.filterMap_append]
  cases h : f e with
  | none => simp [h]
  | some a => simp [h]

@[simp]
theorem listings_concat (events : List CancelEvent) (e : CancelEvent) :
  listings (events ++ [e]) = listings events ++ e.listing?.toList
  := filterMap_concat _ events e

@[simp]
theorem bulks_concat (events : List CancelEvent) (e : CancelEvent) :
  bulks (events ++ [e]) = bulks events ++ e.bulk?.toList
  := filterMap_concat _ events e

@[simp]
theorem begun_concat (events : List CancelEvent) (e : CancelEvent) :
  begun (events ++ [e]) = begun events ++ e.begun?.toList
  := filterMap_concat _ events e

end CancelLog

namespace CancelPoint

/-- A cancel run comes from one point to the next by an event. -/
inductive Move (p : Policy) : CancelPoint → CancelEvent → CancelPoint → Prop where
  | answer {c c' : CancelPoint} {a : CancelAnswer} (h : Step p c [a] c') :
    Move p c (.answered a) c'
  | begin {run run' : CancelRun} {before after : List Order} {o : Order}
    {asking : List SingleCancel} {q : Routine.Pause CancelRun Unit}
    (h : (CancelRun.singlePart p o).Reaches run q run') :
    Move p ⟨run, .singles (before ++ o :: after) asking⟩ (.begun o)
      ⟨run', .singles (before ++ after) (asking ++ SingleCancel.ofPause o q)⟩

/-- A cancel run comes along by events, and while it waits others work at its desk. -/
inductive Log (p : Policy) (others : Desk → Desk → Prop) :
    CancelPoint → List CancelEvent → CancelPoint → Prop where
  | nil (c : CancelPoint) : Log p others c [] c
  | others {c c' : CancelPoint} {events : List CancelEvent} {d : Desk}
    (h : Log p others c events c') (hd : others c'.run.desk d) :
    Log p others c events { c' with run.desk := d }
  | move {c c' c'' : CancelPoint} {events : List CancelEvent} {e : CancelEvent}
    (h : Log p others c events c') (h' : Move p c' e c'') :
    Log p others c (events ++ [e]) c''

variable {p : Policy} {others : Desk → Desk → Prop} {orders : List Order} {d : Desk}
  {c c' : CancelPoint} {e : CancelEvent} {events : List CancelEvent}
  {answers : List CancelAnswer}

theorem Move.step (h : Move p c e c') :
  Step p c e.answers c'
  := by
  cases h with
  | answer h => exact h
  | begin h => exact .takeUp h

theorem Step.exists_move (h : Step p c answers c') :
  ∃ e, Move p c e c' ∧ e.answers = answers
  := by
  cases h with
  | find h => exact ⟨_, .answer (.find h), rfl⟩
  | bulk h => exact ⟨_, .answer (.bulk h), rfl⟩
  | takeUp h => exact ⟨_, .begin h, rfl⟩
  | answer h => exact ⟨_, .answer (.answer h), rfl⟩

/-- A run that is logged takes a course. -/
theorem Log.course (h : Log p others c events c') :
  Course p others c (events.flatMap CancelEvent.answers) c'
  := by
  induction h with
  | nil => exact .nil _
  | others h hd ih => exact ih.others hd
  | move h h' ih =>
      rw [List.flatMap_append, List.flatMap_singleton]
      exact ih.step h'.step

/-- Every course can be logged. -/
theorem Course.exists_log (h : Course p others c answers c') :
  ∃ events, Log p others c events c' ∧ events.flatMap CancelEvent.answers = answers
  := by
  induction h with
  | nil => exact ⟨[], .nil _, rfl⟩
  | others h hd ih =>
      obtain ⟨events, hlog, hanswers⟩ := ih
      exact ⟨events, hlog.others hd, hanswers⟩
  | step h h' ih =>
      obtain ⟨events, hlog, rfl⟩ := ih
      obtain ⟨e, hmove, rfl⟩ := h'.exists_move
      refine ⟨events ++ [e], hlog.move hmove, ?_⟩
      rw [List.flatMap_append, List.flatMap_singleton]

end CancelPoint

/-! ## Acknowledgements -/

/-- An answer to a bulk request acknowledges a member: it is accepted, and one of its entries is
an object with the member's venue id and a truthy result. -/
def BulkExchange.Acknowledges (b : BulkExchange) (m : BulkMember) : Prop :=
  ∃ result, (CancelRun.bulkRequest b.members).outcome b.reply = .ok result
    ∧ ∃ entry ∈ result.entries, ∃ members, entry.members? = some members
      ∧ Json.isTruthy (members.get? "result") = true
      ∧ OrderEntry.venueId? members = some m.venueId

namespace BulkExchange

theorem acknowledges_iff (b : BulkExchange) (m : BulkMember) :
  b.Acknowledges m ↔ m.venueId ∈ acknowledgedBy b.members b.reply
  := by
  rw [Acknowledges, acknowledgedBy]
  cases (CancelRun.bulkRequest b.members).outcome b.reply with
  | error e => simp [Reply.entries, CancelRun.acknowledged]
  | ok result =>
      simp only [Reply.entries, CancelRun.acknowledged, List.mem_filterMap, List.mem_filter]
      constructor
      · rintro ⟨_, ⟨⟩, entry, hentry, members, hmembers, htruthy, hid⟩
        exact ⟨members, ⟨⟨entry, hentry, hmembers⟩, htruthy⟩, hid⟩
      · rintro ⟨members, ⟨⟨entry, hentry, hmembers⟩, htruthy⟩, hid⟩
        exact ⟨result, rfl, entry, hentry, members, hmembers, htruthy, hid⟩

/-- The orders that an answer acknowledges. -/
def acked (b : BulkExchange) : List Order :=
  (b.members.filter fun m => (acknowledgedBy b.members b.reply).contains m.venueId).map (·.order)

/-- The orders that an answer misses. -/
def missed (b : BulkExchange) : List Order :=
  (b.members.filter fun m => !(acknowledgedBy b.members b.reply).contains m.venueId).map (·.order)

theorem mem_acked_iff (b : BulkExchange) (o : Order) :
  o ∈ b.acked ↔ ∃ m ∈ b.members, m.order = o ∧ b.Acknowledges m
  := by
  simp only [acked, List.mem_map, List.mem_filter, List.contains_iff_mem, acknowledges_iff]
  constructor
  · rintro ⟨m, ⟨hm, hid⟩, rfl⟩
    exact ⟨m, hm, rfl, hid⟩
  · rintro ⟨m, hm, rfl, hid⟩
    exact ⟨m, ⟨hm, hid⟩, rfl⟩

theorem acked_append_missed_perm (b : BulkExchange) :
  (b.acked ++ b.missed).Perm (b.members.map (·.order))
  := by
  rw [acked, missed, ← List.map_append]
  exact (List.filter_append_perm _ _).map _

end BulkExchange

namespace CancelPoint

variable {p : Policy} {others : Desk → Desk → Prop} {orders left : List Order} {d : Desk}
  {c c' : CancelPoint} {e : CancelEvent} {events : List CancelEvent}
  {rest : List (List BulkMember)}

/-! ## Routes -/

/-- The routes that the orders of a run have taken when the venue ids have been found: some
bulk requests are answered and others are to follow, some single cancels have begun and some
orders are left for others. -/
structure Routes (p : Policy) (orders : List Order) (d : Desk) (events : List CancelEvent)
    (rest : List (List BulkMember)) (left : List Order) (es : List (Event Desk))
    (found : List (Order × Option VenueId)) : Prop where
  finds : ∃ d', Finds p d orders es found d'
  asked : CancelLog.listings events = replies es
  sent : (CancelLog.bulks events).map (·.members) ++ rest
    = pieces (batchSize p - 1) (candidates found)
  single : (CancelLog.begun events ++ left).Perm
    (unfound found ++ (CancelLog.bulks events).flatMap (·.missed))

namespace Routes

variable {es : List (Event Desk)} {found : List (Order × Option VenueId)} {o : Order}
  {ms : List BulkMember} {before after : List Order}

/-- An answer to a bulk request leaves what it misses. -/
theorem bulk (h : Routes p orders d events (ms :: rest) left es found) (reply : Reply) :
  Routes p orders d (events ++ [.answered (.bulk ms reply)]) rest
    (left ++ BulkExchange.missed ⟨ms, reply⟩) es found where
  finds := h.finds
  asked := by simp [h.asked]
  sent := by simp [← h.sent]
  single := by
    have hsingle := h.single.append_right (BulkExchange.missed ⟨ms, reply⟩)
    simpa using hsingle

/-- An order whose single cancel begins is not left any more. -/
theorem begin (h : Routes p orders d events rest (before ++ o :: after) es found) :
  Routes p orders d (events ++ [.begun o]) rest (before ++ after) es found where
  finds := h.finds
  asked := by simp [h.asked]
  sent := by simp [← h.sent]
  single := by
    have hmove : (CancelLog.begun events ++ o :: (before ++ after)).Perm
        (CancelLog.begun events ++ (before ++ o :: after)) :=
      List.perm_middle.symm.append_left _
    have hsingle := hmove.trans h.single
    simpa using hsingle

/-- An answer to a single cancel changes no route. -/
theorem answer {r : VenueRequest} {reply : Reply}
    (h : Routes p orders d events rest left es found) :
  Routes p orders d (events ++ [.answered (.single o r reply)]) rest left es found where
  finds := h.finds
  asked := by simp [h.asked]
  sent := by simp [← h.sent]
  single := by simpa using h.single

/-- The members of the bulk requests that a finished run has sent are the candidates. -/
theorem members_flatten (h : Routes p orders d events [] [] es found) :
  ((CancelLog.bulks events).map (·.members)).flatten = candidates found
  := by
  rw [← CancelRun.flatten_pieces (batchSize p - 1) (candidates found), ← h.sent, List.append_nil]

/-- The bulk requests of a finished run list the candidates, in their order and in pieces of
the allowed size. -/
theorem exists_lists (h : Routes p orders d events [] [] es found) :
  ∃ lists : List (List (String × String)), ((CancelLog.bulks events).map fun b =>
      CancelRun.sentMembers? (CancelRun.bulkRequest b.members)) = lists.map some
    ∧ lists.flatten = (candidates found).map (fun m => (m.order.pair.symbol, m.venueId.text))
    ∧ ∀ list ∈ lists, 1 ≤ list.length ∧ list.length ≤ max 1 (min p.batchSize 10)
  := by
  refine ⟨(CancelLog.bulks events).map fun b =>
    b.members.map fun m => (m.order.pair.symbol, m.venueId.text), ?_, ?_, ?_⟩
  · simp [CancelRun.sentMembers?_bulkRequest]
  · rw [← h.members_flatten, List.map_flatten, List.map_map]
    rfl
  · rw [List.forall_mem_map]
    intro b hb
    have hpiece : b.members ∈ pieces (batchSize p - 1) (candidates found) := by
      rw [← h.sent, List.append_nil]
      exact List.mem_map_of_mem hb
    have hlength := CancelRun.length_of_mem_pieces hpiece
    rw [CancelRun.batchSize_sub_one_add_one] at hlength
    rwa [List.length_map]

/-- Every order of a finished run has taken one route. -/
theorem acked_append_begun_perm (h : Routes p orders d events [] [] es found) :
  ((CancelLog.bulks events).flatMap (·.acked) ++ CancelLog.begun events).Perm orders
  := by
  obtain ⟨d', hfinds⟩ := h.finds
  -- The bulk requests divide the candidates into acknowledged and missed orders, and the
  -- missed ones join the orders without a venue id.
  have hmembers : (CancelLog.bulks events).flatMap (fun b => b.members.map (·.order))
      = (candidates found).map (·.order) := by
    rw [← h.members_flatten, List.map_flatten, List.map_map, List.flatMap_def]
    rfl
  have hbulks : ((CancelLog.bulks events).flatMap (·.acked)
      ++ (CancelLog.bulks events).flatMap (·.missed)).Perm ((candidates found).map (·.order)) := by
    rw [← hmembers]
    apply (List.flatMap_append_perm _ _ _).trans
    exact List.Perm.flatMap_left _ fun b _ => b.acked_append_missed_perm
  have hsingle := h.single
  rw [List.append_nil] at hsingle
  rw [← hfinds.map_fst]
  refine List.Perm.trans ?_ (CancelRun.candidates_append_unfound_perm found)
  apply (hsingle.trans List.perm_append_comm).append_left _ |>.trans
  rw [← List.append_assoc]
  exact hbulks.append_right _

end Routes

/-- What a log tells about the point that a run comes to. -/
def Routed (p : Policy) (orders : List Order) (d : Desk) (events : List CancelEvent) :
    CancelStage → Prop
  | .finding r k => ∃ es d', (CancelRun.members p orders).Runs d es (.asking r k) d'
    ∧ CancelLog.listings events = replies es ∧ CancelLog.bulks events = []
    ∧ CancelLog.begun events = []
  | .bulk ms rest left => ∃ es found, Routes p orders d events (ms :: rest) left es found
  | .singles waiting _ => ∃ es found, Routes p orders d events [] waiting es found

theorem routed_sending {es : List (Event Desk)} {found : List (Order × Option VenueId)}
    (h : Routes p orders d events rest left es found) :
  Routed p orders d events (.sending rest left)
  := by
  cases rest with
  | nil => exact ⟨es, found, h⟩
  | cons ms rest => exact ⟨es, found, h⟩

/-- When the search for venue ids comes to a pause, all orders are still to be routed. -/
theorem routed_found {es : List (Event Desk)} {d' : Desk}
    {q : Routine.Pause Desk (List BulkMember × List Order)}
    (h : (CancelRun.members p orders).Runs d es q d')
    (hasked : CancelLog.listings events = replies es) (hbulks : CancelLog.bulks events = [])
    (hbegun : CancelLog.begun events = []) :
  Routed p orders d events (.found p q)
  := by
  cases q with
  | asking r k => exact ⟨es, d', h, hasked, hbulks, hbegun⟩
  | finished parts =>
      obtain ⟨found, hfinds, rfl⟩ := CancelRun.exists_finds_of_runs h
      have hroutes : Routes p orders d events (pieces (batchSize p - 1) (candidates found))
          (unfound found) es found := by
        refine ⟨⟨d', hfinds⟩, hasked, ?_, ?_⟩
        · rw [hbulks]
          rfl
        · rw [hbulks, hbegun, List.flatMap_nil, List.append_nil]
          exact .refl _
      exact routed_sending hroutes

theorem routed_of_begins (h : Begins p orders d c) :
  Routed p orders d [] c.stage
  := by
  obtain ⟨h⟩ := h
  obtain ⟨es, hruns, hnone⟩ := h.runs
  apply routed_found hruns
  · rw [replies, hnone]
    rfl
  · rfl
  · rfl

/-- What a log tells about a run goes on with each event. -/
theorem Move.routed (h : Move p c e c') (hc : Routed p orders d events c.stage) :
  Routed p orders d (events ++ [e]) c'.stage
  := by
  cases h with
  | begin h =>
      obtain ⟨es, found, hroutes⟩ := hc
      exact ⟨es, found, hroutes.begin⟩
  | answer h =>
      cases h with
      | @find run r k reply q d' h =>
          obtain ⟨es, left, hruns, hasked, hbulks, hbegun⟩ := hc
          obtain ⟨es', hruns', hnone⟩ := h.runs
          apply routed_found (hruns.answered hruns')
          · simp [hasked, replies, hnone]
          · simp [hbulks]
          · simp [hbegun]
      | @bulk run run' ms rest left missed reply now h =>
          obtain ⟨es, found, hroutes⟩ := hc
          obtain ⟨rfl, -, -⟩ := CancelRun.settleBulk_eq h
          exact routed_sending (hroutes.bulk reply)
      | @answer run run' waiting before after s reply q h =>
          obtain ⟨es, found, hroutes⟩ := hc
          exact ⟨es, found, hroutes.answer⟩

theorem Log.routed (h : Log p others c events c') (hc : Routed p orders d [] c.stage) :
  Routed p orders d events c'.stage
  := by
  induction h with
  | nil => exact hc
  | others h hd ih => exact ih
  | move h h' ih => exact h'.routed ih

/-! ## Finished runs -/

section Finished

variable {run : CancelRun} {c₀ : CancelPoint}

/-- The answer to a bulk request that a log has acknowledges an order. -/
def Acked (events : List CancelEvent) (o : Order) : Prop :=
  ∃ b ∈ CancelLog.bulks events, ∃ m ∈ b.members, m.order = o ∧ b.Acknowledges m

theorem acked_iff (events : List CancelEvent) (o : Order) :
  Acked events o ↔ o ∈ (CancelLog.bulks events).flatMap (·.acked)
  := by
  simp only [Acked, List.mem_flatMap, BulkExchange.mem_acked_iff]

theorem mem_answers_of_mem_bulks {b : BulkExchange} (hb : b ∈ CancelLog.bulks events) :
  .bulk b.members b.reply ∈ events.flatMap CancelEvent.answers
  := by
  obtain ⟨e, he, hbulk⟩ := List.mem_filterMap.mp hb
  rw [List.mem_flatMap]
  use e, he
  unfold CancelEvent.bulk? at hbulk
  split at hbulk
  · cases hbulk
    exact List.mem_singleton_self _
  · cases hbulk

/-- Nothing is pending when a run has finished its single cancels. -/
theorem get?_report_of_finished (h : Sound orders ⟨run, .singles [] []⟩) (id : ClientId) :
  (report ⟨run, .singles [] []⟩).get? id = run.progress.report.get? id
  := by
  rw [get?_report, if_neg]
  intro hp
  exact absurd (h.stage.1.covered id hp) List.not_mem_nil

/-- Every order of a finished run has taken exactly one route.  The bulk requests list the
candidates, in their order and in pieces of the allowed size; a candidate that is acknowledged
is reported canceled, and no single cancel begins for it; for every other order exactly one
begins.  No order is timed out. -/
theorem routes_of_log (hnodup : (orders.map (·.clientId)).Nodup) (hbegins : Begins p orders d c₀)
    (h : Log p others c₀ events ⟨run, .singles [] []⟩) :
  ∃ es found d', Finds p d orders es found d' ∧ CancelLog.listings events = replies es
    ∧ (∃ lists : List (List (String × String)), ((CancelLog.bulks events).map fun b =>
        CancelRun.sentMembers? (CancelRun.bulkRequest b.members)) = lists.map some
      ∧ lists.flatten = (candidates found).map (fun m => (m.order.pair.symbol, m.venueId.text))
      ∧ ∀ list ∈ lists, 1 ≤ list.length ∧ list.length ≤ max 1 (min p.batchSize 10))
    ∧ (∀ o ∈ orders, Acked events o → (CancelLog.begun events).count o = 0
      ∧ (report ⟨run, .singles [] []⟩).get? o.clientId = some .canceled)
    ∧ (∀ o ∈ orders, ¬Acked events o → (CancelLog.begun events).count o = 1)
    ∧ ∀ id, (report ⟨run, .singles [] []⟩).get? id ≠ some (.failed CancelRun.timeoutReason)
  := by
  obtain ⟨es, found, hroutes⟩ := h.routed (routed_of_begins hbegins)
  obtain ⟨d', hfinds⟩ := hroutes.finds
  have hsound₀ := (sound_of_begins hbegins).2
  have hsound := h.course.sound hsound₀
  have hone : ∀ o ∈ orders, ((CancelLog.bulks events).flatMap (·.acked)).count o
      + (CancelLog.begun events).count o = 1 := by
    intro o ho
    rw [← List.count_append, hroutes.acked_append_begun_perm.count_eq]
    exact List.count_eq_one_of_mem hnodup.of_map ho
  refine ⟨es, found, d', hfinds, hroutes.asked, hroutes.exists_lists, ?_, ?_, ?_⟩
  · intro o ho hacked
    have hcount := hone o ho
    have hpos := List.count_pos_iff.mpr ((acked_iff events o).mp hacked)
    use by omega
    obtain ⟨b, hb, m, hm, rfl, hid⟩ := hacked
    have hacknowledges : (CancelAnswer.bulk b.members b.reply).Acknowledges m.order.clientId :=
      ⟨m, hm, rfl, (b.acknowledges_iff m).mp hid⟩
    obtain ⟨outcome, hout, hcanceled⟩ :=
      h.course.settled hsound₀ (mem_answers_of_mem_bulks hb) hacknowledges
    rw [get?_report_of_finished hsound, hout,
      hcanceled (List.count_eq_one_of_mem hnodup (List.mem_map_of_mem ho))]
  · intro o ho hacked
    have hcount := hone o ho
    rw [List.count_eq_zero.mpr fun hmem => hacked ((acked_iff events o).mpr hmem)] at hcount
    omega
  · intro id hout
    rw [get?_report_of_finished hsound] at hout
    have hstart := h.course.inTime hsound₀ hout
    rw [get?_of_begins hbegins] at hstart
    cases hstart

/-- A run that is answered by a venue, and whose single cancels are done one after the other,
finishes, and it can be logged. -/
theorem exists_log_answeredBy (p : Policy) (others : Desk → Desk → Prop) (orders : List Order)
    (d : Desk) (t : Moment) (venue : VenueRequest → Reply) :
  ∃ c₀ events run, Begins p orders d c₀ ∧ Log p others c₀ events ⟨run, .singles [] []⟩
  := by
  obtain ⟨answers, hbulks⟩ := (follows_bulkPart p others orders d).answeredBy t venue
  obtain ⟨answers', c₀, hbegins, hcourse⟩ := comes_answeredBy hbulks t venue
  obtain ⟨events, hlog, -⟩ := hcourse.exists_log
  exact ⟨c₀, events, _, hbegins, hlog⟩

/-- A venue that acknowledges one of the members of a bulk request. -/
def firstAcknowledged : Reply :=
  .ok (.object [("result", .arr [.object [("order_id", .str "v1"), ("result", .bool true)]])])

/-- What happens when the first of two orders is acknowledged, and the second one canceled by
itself. -/
def sampleLog : List CancelEvent :=
  let second := sampleMember "c2" "v2"
  [.answered (.bulk [sampleMember "c1" "v1", second] firstAcknowledged), .begun second.order,
    .answered (.single second.order (Desk.orderRequest .cancel second.order second.venueId)
      notFoundReply)]

theorem exists_log_sampleLog :
  ∃ c₀ run, Begins {} sampleOrders sampleDesk c₀
    ∧ Log {} (fun _ _ => False) c₀ sampleLog ⟨run, .singles [] []⟩
  := by
  let ms := [sampleMember "c1" "v1", sampleMember "c2" "v2"]
  let second := sampleMember "c2" "v2"
  have hbegins := @begins_of_confirmed {} sampleDesk ms (by decide) (by decide) (by decide)
  obtain ⟨run, hsettle, hcurrent⟩ : ∃ run, CancelRun.settleBulk ⟨0⟩
      (acknowledgedBy ms firstAcknowledged) ms (.start sampleDesk sampleOrders)
        = ([second.order], run) ∧ run.desk.current second.order = second.order :=
    ⟨_, Prod.ext (by decide) rfl, by decide +kernel⟩
  have hbulk := @Step.bulk {} _ run ms [] [] _ firstAcknowledged ⟨0⟩ hsettle
  have hbegin := @Move.begin {} run run [] [] second.order [] _
    (reaches_singlePart hcurrent rfl rfl)
  have hgrant := @Step.grant {} run [] second.order second.venueId [] [] notFoundReply ⟨0⟩
    isMissingOrder_of_notFoundReply
  exact ⟨_, _, hbegins, ((Log.nil _ |>.move (.answer hbulk)).move hbegin).move (.answer hgrant)⟩

/-- The first order is then reported canceled without a single cancel, and one begins for the
second. -/
theorem routes_of_log_sampleLog :
  ∃ c₀ run, Log {} (fun _ _ => False) c₀ sampleLog ⟨run, .singles [] []⟩
    ∧ (report ⟨run, .singles [] []⟩).get? ⟨"c1"⟩ = some .canceled
    ∧ (CancelLog.begun sampleLog).count (sampleMember "c2" "v2").order = 1
  := by
  obtain ⟨c₀, run, hbegins, hlog⟩ := exists_log_sampleLog
  obtain ⟨es, found, d', -, -, -, hacked, hbegun, -⟩ := routes_of_log (by decide) hbegins hlog
  have hfirst : Acked sampleLog (sampleMember "c1" "v1").order := by
    rw [acked_iff]
    decide
  have hsecond : ¬Acked sampleLog (sampleMember "c2" "v2").order := by
    rw [acked_iff]
    decide
  have hcanceled := (hacked _ List.mem_cons_self hfirst).2
  have hbegun' := hbegun _ (List.mem_cons_of_mem _ List.mem_cons_self) hsecond
  exact ⟨c₀, run, hlog, hcanceled, hbegun'⟩

end Finished

end CancelPoint

end VenueLink
