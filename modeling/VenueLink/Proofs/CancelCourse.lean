import VenueLink.Desk.CancelRun
import VenueLink.Proofs.CancelProgress
import VenueLink.Proofs.SingleCancel

/-!
# The course of a cancel run

A cancel run waits while the venue ids of its orders are found, while a bulk request is
open, and while single cancels are open side by side.  `CancelPoint.Step` says how it comes
from one such point to the next, `CancelPoint.Course` how it comes along while others work
at the desk.
-/

namespace VenueLink

/-! ## Points of a run -/

/-- A single cancel of a run, at an open question. -/
structure SingleCancel where
  order : Order
  request : VenueRequest
  next : Reply → Routine CancelRun Unit

/-- A single cancel that came to a pause: nothing once it is finished. -/
def SingleCancel.ofPause (o : Order) : Routine.Pause CancelRun Unit → List SingleCancel
  | .finished _ => []
  | .asking r k => [⟨o, r, k⟩]

/-- Where a cancel run stands while it waits. -/
inductive CancelStage where
  /-- The venue ids of its orders are being found. -/
  | finding (request : VenueRequest) (next : Reply → Routine Desk (List BulkMember × List Order))
  /-- A bulk request is open, others are to follow, and some orders are left so far. -/
  | bulk (members : List BulkMember) (rest : List (List BulkMember)) (left : List Order)
  /-- The orders left are canceled one by one.  Some wait to be taken up, for others a
  question is open. -/
  | singles (waiting : List Order) (asking : List SingleCancel)

namespace CancelStage

/-- Bulk requests are to be sent one after the other, and some orders are left. -/
def sending : List (List BulkMember) → List Order → CancelStage
  | [], left => singles left []
  | ms :: rest, left => bulk ms rest left

/-- The venue ids are being found, or have been. -/
def found (p : Policy) : Routine.Pause Desk (List BulkMember × List Order) → CancelStage
  | .asking r k => finding r k
  | .finished (ms, others) => sending (CancelRun.pieces (CancelRun.batchSize p - 1) ms) others

end CancelStage

/-- An answer that a cancel run takes up. -/
inductive CancelAnswer where
  /-- An answer on the way to the venue ids. -/
  | listing (request : VenueRequest) (reply : Reply)
  /-- The answer to the bulk request for some members. -/
  | bulk (members : List BulkMember) (reply : Reply)
  /-- An answer to the single cancel of an order. -/
  | single (order : Order) (request : VenueRequest) (reply : Reply)

/-- The venue ids that the answer to the bulk request for some members acknowledges. -/
def CancelRun.acknowledgedBy (ms : List BulkMember) (reply : Reply) : List VenueId :=
  acknowledged (Reply.entries ((bulkRequest ms).outcome reply))

/-- An answer acknowledges that an order is canceled: in a bulk answer under the venue id of
the order, for a single cancel by granting it. -/
def CancelAnswer.Acknowledges (id : ClientId) : CancelAnswer → Prop
  | listing _ _ => False
  | bulk ms reply =>
    ∃ m ∈ ms, m.order.clientId = id ∧ m.venueId ∈ CancelRun.acknowledgedBy ms reply
  | single o r reply => o.clientId = id ∧ r.Grants reply

/-- A cancel run at a moment at which it waits. -/
structure CancelPoint where
  run : CancelRun
  stage : CancelStage

namespace CancelPoint

/-- A cancel run of some orders begins at a desk. -/
inductive Begins (p : Policy) (orders : List Order) (d : Desk) : CancelPoint → Prop where
  | mk {q : Routine.Pause Desk (List BulkMember × List Order)} {d' : Desk}
    (h : (CancelRun.members p orders).Reaches d q d') :
    Begins p orders d ⟨.start d' orders, .found p q⟩

/-- A cancel run comes from one point to the next, and takes up an answer if there was a
question.  The single cancels are taken up and answered in any order. -/
inductive Step (p : Policy) : CancelPoint → List CancelAnswer → CancelPoint → Prop where
  | find {run : CancelRun} {r : VenueRequest}
    {k : Reply → Routine Desk (List BulkMember × List Order)} {reply : Reply}
    {q : Routine.Pause Desk (List BulkMember × List Order)} {d : Desk}
    (h : (k reply).Reaches run.desk q d) :
    Step p ⟨run, .finding r k⟩ [.listing r reply] ⟨{ run with desk := d }, .found p q⟩
  | bulk {run run' : CancelRun} {ms : List BulkMember} {rest : List (List BulkMember)}
    {left missed : List Order} {reply : Reply} {now : Moment}
    (h : CancelRun.settleBulk now (CancelRun.acknowledgedBy ms reply) ms run = (missed, run')) :
    Step p ⟨run, .bulk ms rest left⟩ [.bulk ms reply] ⟨run', .sending rest (left ++ missed)⟩
  | takeUp {run run' : CancelRun} {before after : List Order} {o : Order}
    {asking : List SingleCancel} {q : Routine.Pause CancelRun Unit}
    (h : (CancelRun.singlePart p o).Reaches run q run') :
    Step p ⟨run, .singles (before ++ o :: after) asking⟩ []
      ⟨run', .singles (before ++ after) (asking ++ SingleCancel.ofPause o q)⟩
  | answer {run run' : CancelRun} {waiting : List Order} {before after : List SingleCancel}
    {s : SingleCancel} {reply : Reply} {q : Routine.Pause CancelRun Unit}
    (h : (s.next reply).Reaches run q run') :
    Step p ⟨run, .singles waiting (before ++ s :: after)⟩ [.single s.order s.request reply]
      ⟨run', .singles waiting (before ++ SingleCancel.ofPause s.order q ++ after)⟩

/-- A cancel run comes along: it goes on by steps, and while it waits others work at its
desk. -/
inductive Course (p : Policy) (others : Desk → Desk → Prop) :
    CancelPoint → List CancelAnswer → CancelPoint → Prop where
  | nil (c : CancelPoint) : Course p others c [] c
  | others {c c' : CancelPoint} {answers : List CancelAnswer} {d : Desk}
    (h : Course p others c answers c') (hd : others c'.run.desk d) :
    Course p others c answers { c' with run.desk := d }
  | step {c c' c'' : CancelPoint} {answers answers' : List CancelAnswer}
    (h : Course p others c answers c') (h' : Step p c' answers' c'') :
    Course p others c (answers ++ answers') c''

theorem Course.append {p : Policy} {others : Desk → Desk → Prop} {c c' c'' : CancelPoint}
    {answers answers' : List CancelAnswer} (h : Course p others c answers c')
    (h' : Course p others c' answers' c'') :
  Course p others c (answers ++ answers') c''
  := by
  induction h' with
  | nil => rwa [List.append_nil]
  | others _ hd ih => exact ih.others hd
  | step _ hstep ih =>
      rw [← List.append_assoc]
      exact ih.step hstep

/-- A cancel run of some orders, begun at a desk, comes to a point and takes up answers on
its way. -/
def Comes (p : Policy) (others : Desk → Desk → Prop) (orders : List Order) (d : Desk)
    (answers : List CancelAnswer) (c : CancelPoint) : Prop :=
  ∃ c₀, Begins p orders d c₀ ∧ Course p others c₀ answers c

theorem Comes.step {p : Policy} {others : Desk → Desk → Prop} {orders : List Order} {d : Desk}
    {c c' : CancelPoint} {answers answers' : List CancelAnswer}
    (h : Comes p others orders d answers c) (h' : Step p c answers' c') :
  Comes p others orders d (answers ++ answers') c'
  := by
  obtain ⟨c₀, hbegins, hcourse⟩ := h
  exact ⟨c₀, hbegins, hcourse.step h'⟩

/-- The report of a run that ends at a point, by itself or cut short. -/
def report (c : CancelPoint) : CancelReport := c.run.finish.1

end CancelPoint

end VenueLink
