import VenueLink.Proofs.CancelParts
import VenueLink.Proofs.Confined

/-!
# Single cancels are confined to their orders

All that the single cancel of an order under watch does is about this order and its outcome:
updates and confirmations carry its client id, and only what the book has under this client
id makes a difference.
-/

namespace VenueLink

open Routine (Confined)

/-! ## The order of a client id in a book -/

namespace Book

/-- What no cancel touches: which orders are under watch, and the fills. -/
def frame (b : Book) : List ClientId × List (ClientId × List Fill) × List TradeId :=
  (b.orders.map (·.clientId), b.fills, b.seen)

/-- Two books differ in the order of a client id at most. -/
structure Spares (id : ClientId) (b b' : Book) : Prop where
  find? : ∀ other, other ≠ id → b'.find? other = b.find? other
  frame : b'.frame = b.frame

theorem Spares.refl (id : ClientId) (b : Book) :
  b.Spares id b
  := ⟨fun _ _ => rfl, rfl⟩

theorem Spares.trans {id : ClientId} {b₁ b₂ b₃ : Book} (h : b₁.Spares id b₂)
    (h' : b₂.Spares id b₃) :
  b₁.Spares id b₃ where
  find? other hne := (h'.find? other hne).trans (h.find? other hne)
  frame := h'.frame.trans h.frame

variable {b : Book} {o : Order}

theorem spares_put (b : Book) (o : Order) :
  b.Spares o.clientId (b.put o) where
  find? other hne := by rw [find?_put, if_neg hne]
  frame := by
    rw [frame, map_clientId_put]
    rfl

/-- An update that carries the client id of an order puts this order in place. -/
theorem apply_of_clientId {id : ClientId} {u : Update} (hu : u.clientId? = some id)
    (ho : b.find? id = some o) :
  (b.apply u).1 = b.put (updated o u).1
  := by
  rw [apply, target?_of_clientId hu ho]

theorem confirm_eq_ok {id : ClientId} {o' : Order} {v : VenueId} (ho : b.find? id = some o)
    (h : o.confirm v = .ok o') :
  b.confirm id v = .ok (b.put o')
  := by
  simp only [confirm, ho, h]

theorem confirm_eq_error {id : ClientId} {e : IdConflict} {v : VenueId}
    (ho : b.find? id = some o) (h : o.confirm v = .error e) :
  b.confirm id v = .error (.conflict e)
  := by
  simp only [confirm, ho, h]

/-- Two books with the same frame and the same orders under all client ids are the same. -/
theorem eq_of_find? {b' : Book} (hb : b.Keyed) (hframe : b'.frame = b.frame)
    (h : ∀ id, b'.find? id = b.find? id) :
  b' = b
  := by
  have hids : b'.orders.map (·.clientId) = b.orders.map (·.clientId) := congrArg (·.1) hframe
  have hfound : ∀ b : Book, b.Keyed → b.orders.map some = (b.orders.map (·.clientId)).map b.find? := by
    intro b hb
    rw [List.map_map]
    apply List.map_congr_left
    intro o ho
    exact (find?_of_mem hb ho).symm
  have horders : b'.orders = b.orders := by
    apply List.map_injective_iff.mpr (fun _ _ h => Option.some.inj h)
    have hb' : b'.Keyed := by
      rw [Keyed, hids]
      exact hb
    rw [hfound b hb, hfound b' hb', hids]
    apply List.map_congr_left
    intro id _
    apply h
  have hfills : b'.fills = b.fills := congrArg (·.2.1) hframe
  have hseen : b'.seen = b.seen := congrArg (·.2.2) hframe
  cases b
  cases b'
  simp_all

end Book

/-! ## Single cancels at the desk -/

namespace Desk

/-- The order under watch of a client id, as a part of the desk. -/
def part (id : ClientId) : Routine.Part Desk where
  Same d d' := ∃ o, d.book.find? id = some o ∧ d'.book.find? id = some o
  Spares d d' := d.book.Spares id d'.book
  symm := by
    rintro d d' ⟨o, h, h'⟩
    exact ⟨o, h', h⟩
  trans := by
    rintro d₁ d₂ d₃ ⟨o, h₁, h₂⟩ ⟨o', h₂', h₃⟩
    cases h₂.symm.trans h₂'
    exact ⟨o, h₁, h₃⟩
  spares_refl d := .refl id d.book
  spares_trans := .trans

variable {α : Type} {id : ClientId} {t : Moment}

/-- A change of the desk minds the order of a client id if the order alone decides on the
result and on what becomes of the order. -/
theorem minds_of_find? {f : Desk → α × Desk}
    (hf : ∀ o, o.clientId = id → ∃ a o', ∀ d : Desk, d.book.find? id = some o →
      (f d).1 = a ∧ (f d).2.book.find? id = some o' ∧ d.book.Spares id (f d).2.book) :
  (part id).Minds f
  := by
  constructor
  · rintro d d' ⟨o, h, h'⟩
    obtain ⟨a, o', hfind⟩ := hf o (Book.clientId_of_find? h)
    rw [(hfind d h).1, (hfind d' h').1]
  · rintro d d' ⟨o, h, h'⟩
    obtain ⟨a, o', hfind⟩ := hf o (Book.clientId_of_find? h)
    exact ⟨o', (hfind d h).2.1, (hfind d' h').2.1⟩
  · rintro d ⟨o, h, -⟩
    obtain ⟨a, o', hfind⟩ := hf o (Book.clientId_of_find? h)
    exact (hfind d h).2.2

theorem minds_of_book {f : Desk → α × Desk} (a : α) (hf : ∀ d, (f d).1 = a)
    (hbook : ∀ d, (f d).2.book = d.book) :
  (part id).Minds f
  := by
  apply minds_of_find?
  intro o _
  use a, o
  intro d hd
  rw [hbook]
  exact ⟨hf d, hd, .refl id d.book⟩

/-- What is put in place of an order is found under its client id, and the others are
spared. -/
theorem find?_put_of_find? {b : Book} {o o' : Order} (ho : b.find? id = some o)
    (hid : o'.clientId = id) :
  (b.put o').find? id = some o' ∧ b.Spares id (b.put o')
  := by
  subst hid
  rw [Book.find?_put, if_pos rfl, ho]
  exact ⟨rfl, Book.spares_put b o'⟩

theorem minds_propose {u : Update} (hu : u.clientId? = some id) :
  (part id).Minds fun d => ((), d.propose u)
  := by
  apply minds_of_find?
  intro o ho
  use (), (Book.updated o u).1
  intro d hd
  use rfl
  change (d.book.apply u).1.find? id = _ ∧ d.book.Spares id (d.book.apply u).1
  rw [Book.apply_of_clientId hu hd]
  apply find?_put_of_find? hd
  rw [(Book.becomes_updated o u).clientId, ho]

theorem minds_adopt (o : Order) (c : Candidate) :
  (part o.clientId).Minds (Resolution.adopt o c)
  := by
  apply minds_of_find?
  intro p hp
  cases hconfirm : p.confirm c.venueId with
  | error e =>
      use .unresolved, p
      intro d hd
      rw [Resolution.adopt, Book.confirm_eq_error hd hconfirm]
      exact ⟨rfl, hd, .refl _ _⟩
  | ok p' =>
      have hid : p'.clientId = o.clientId := (Order.becomes_confirm hconfirm).clientId.trans hp
      cases hstate : c.state.isTerminal with
      | false =>
          use .resolved c.venueId, p'
          intro d hd
          rw [Resolution.adopt, Book.confirm_eq_ok hd hconfirm]
          simp only [hstate, Bool.false_eq_true, if_false]
          exact ⟨trivial, find?_put_of_find? hd hid⟩
      | true =>
          -- The order is put in place twice, first with its id and then with its end.
          let u := Update.forOrder { o with venue := .confirmed c.venueId } c.state c.timestamp
          use .resolved c.venueId, (Book.updated p' u).1
          intro d hd
          obtain ⟨hput, hspares⟩ := find?_put_of_find? hd hid
          rw [Resolution.adopt, Book.confirm_eq_ok hd hconfirm]
          simp only [hstate, if_true]
          use trivial
          change ((d.book.put p').apply u).1.find? o.clientId = _
            ∧ d.book.Spares o.clientId ((d.book.put p').apply u).1
          rw [Book.apply_of_clientId rfl hput]
          obtain ⟨hput', hspares'⟩ := find?_put_of_find? hput
            ((Book.becomes_updated p' u).clientId.trans hid)
          exact ⟨hput', hspares.trans hspares'⟩

theorem minds_escalate (p : Policy) (o : Order) (now : Moment) :
  (part o.clientId).Minds (Resolution.escalate p o now)
  := by
  unfold Resolution.escalate
  split
  · apply minds_of_book .unresolved (fun _ => rfl) fun _ => rfl
  · apply (minds_propose (u := .forOrder o .failed now) rfl).followed
      (g := fun _ d => (Resolution.failed, d))
    intro d _
    apply minds_of_book .failed (fun _ => rfl) fun _ => rfl

theorem minds_conclude (p : Policy) (o : Order) (now : Moment) (best? : Option Candidate) :
  (part o.clientId).Minds (Resolution.conclude p o now best?)
  := by
  have hcount : ∀ resolution : Resolution,
      (part o.clientId).Minds fun d => (resolution, d.count (.resolution resolution.label)) := by
    intro resolution
    apply minds_of_book resolution (fun _ => rfl) fun _ => rfl
  cases best? with
  | none =>
      apply (minds_escalate p o now).followed
        (g := fun resolution d => (resolution, d.count (.resolution resolution.label)))
      exact fun d _ => hcount _
  | some c =>
      apply (minds_adopt o c).followed
        (g := fun resolution d => (resolution, d.count (.resolution resolution.label)))
      exact fun d _ => hcount _

theorem minds_markCanceled (o : Order) (now : Moment) :
  (part o.clientId).Minds fun d => ((), d.markCanceled o now)
  := minds_propose rfl

theorem current_of_same {o : Order} {d d' : Desk} (h : (part o.clientId).Same d d') :
  d.current o = d'.current o
  := by
  obtain ⟨p, hd, hd'⟩ := h
  rw [current, current, hd, hd']

theorem confined_search (p : Policy) (o : Order) (listings : List Endpoint)
    (best? : Option Candidate) :
  Confined (part id) t (Resolution.search p o listings best?)
  := by
  induction listings generalizing best? with
  | nil => apply Routine.confined_pure
  | cons l rest ih =>
      rw [Resolution.search_cons]
      apply Routine.confined_bind (Routine.confined_fetch _)
      intro reply
      apply Routine.confined_bind Routine.confined_now
      intro now
      dsimp only
      split
      · apply Routine.confined_pure
      · apply ih

theorem confined_resolve (p : Policy) (o : Order) :
  Confined (part o.clientId) t (resolve p o)
  := by
  apply Routine.confined_bind (confined_search p o _ none)
  intro best?
  apply Routine.confined_bind Routine.confined_now
  intro now
  apply Routine.confined_update (minds_conclude p o now best?)

theorem confined_submitCancel (o : Order) (venueId : VenueId) :
  Confined (part o.clientId) t (submitCancel o venueId)
  := by
  apply Routine.confined_bind (Routine.confined_fetch _)
  intro reply
  apply Routine.confined_bind Routine.confined_now
  intro now
  have hmark : Confined (part o.clientId) t (do
      .modify (markCanceled o now)
      return .ok () : Routine Desk (Except CancelError Unit)) := by
    apply Routine.confined_bind (Routine.confined_modify (minds_markCanceled o now))
    intro done
    apply Routine.confined_pure
  split
  · apply hmark
  · split
    · apply hmark
    · apply Routine.confined_pure

/-- What a single cancel does when the search for the venue's id is over is confined to the
order. -/
theorem confined_afterResolution (o : Order) (venueId : VenueId) :
  Confined (part o.clientId) t (do
    let o := (← .state).current o
    match settled? o with
    | some result => return result
    | none => submitCancel o venueId : Routine Desk (Except CancelError Unit))
  := by
  apply Routine.confined_look
  · intro d d' h
    rw [current_of_same h]
  · intro d _
    dsimp only
    split
    · apply Routine.confined_pure
    · rw [← current_clientId d o]
      apply confined_submitCancel

/-- The single cancel of an order under watch is confined to this order. -/
theorem confined_cancelOrder (p : Policy) (o : Order) :
  Confined (part o.clientId) t (cancelOrder p o)
  := by
  apply Routine.confined_look
  · intro d d' h
    rw [current_of_same h]
  · intro d _
    dsimp only
    split
    · apply Routine.confined_pure
    · rw [← current_clientId d o]
      apply Routine.confined_bind
      · unfold resolveMissing
        split
        · apply Routine.confined_pure
        · apply confined_resolve
      · intro resolution
        split
        · apply confined_afterResolution
        · apply Routine.confined_pure

end Desk

/-! ## Single cancels of a run -/

/-- Two runs have come equally far with an order. -/
def CancelProgress.Same (id : ClientId) (g g' : CancelProgress) : Prop :=
  (id ∈ g.pending ↔ id ∈ g'.pending) ∧ g.report.get? id = g'.report.get? id

namespace CancelRun

variable {α : Type} {id : ClientId} {t : Moment}

/-- The order under watch of a client id with its outcome, as a part of a run. -/
def part (id : ClientId) : Routine.Part CancelRun where
  Same run run' := (Desk.part id).Same run.desk run'.desk ∧ run.progress.Same id run'.progress
  Spares run run' := (Desk.part id).Spares run.desk run'.desk
    ∧ ∀ other, other ≠ id → run.progress.Same other run'.progress
  symm h := ⟨(Desk.part id).symm h.1, h.2.1.symm, h.2.2.symm⟩
  trans h h' := ⟨(Desk.part id).trans h.1 h'.1, h.2.1.trans h'.2.1, h.2.2.trans h'.2.2⟩
  spares_refl run := ⟨(Desk.part id).spares_refl run.desk, fun _ _ => ⟨Iff.rfl, rfl⟩⟩
  spares_trans h h' := ⟨(Desk.part id).spares_trans h.1 h'.1, fun other hne =>
    ⟨(h.2 other hne).1.trans (h'.2 other hne).1, (h.2 other hne).2.trans (h'.2 other hne).2⟩⟩

theorem advance_atDesk (t : Moment) (m : Routine Desk α) (run : CancelRun) :
  (atDesk m).advance t run = (deskPause (m.advance t run.desk).1,
    { run with desk := (m.advance t run.desk).2 })
  := by
  induction m generalizing run with
  | done a => rfl
  | look k ih => apply ih
  | change f m ih => apply ih
  | clock k ih => apply ih
  | ask r k ih => rfl

theorem answeredBy_atDesk (t : Moment) (venue : VenueRequest → Reply) (m : Routine Desk α)
    (run : CancelRun) :
  (atDesk m).answeredBy t venue run = ((m.answeredBy t venue run.desk).1,
    { run with desk := (m.answeredBy t venue run.desk).2 })
  := by
  induction m generalizing run with
  | done a => rfl
  | look k ih => apply ih
  | change f m ih => apply ih
  | clock k ih => apply ih
  | ask r k ih => apply ih

theorem confined_atDesk {m : Routine Desk α} (h : Confined (Desk.part id) t m) :
  Confined (part id) t (atDesk m)
  := by
  induction h with
  | @mk m stretch next ih =>
      constructor
      · rw [funext (advance_atDesk t m)]
        constructor
        · intro run run' h
          dsimp only
          rw [stretch.result h.1]
        · intro run run' h
          exact ⟨stretch.same h.1, h.2⟩
        · intro run h
          exact ⟨stretch.spares h.1, fun _ _ => ⟨Iff.rfl, rfl⟩⟩
      · intro run r k h hasks reply
        rw [advance_atDesk] at hasks
        cases hpause : (m.advance t run.desk).1 with
        | finished a =>
            rw [hpause] at hasks
            cases hasks
        | asking r' k' =>
            rw [hpause] at hasks
            cases hasks
            apply ih run.desk r k' h.1 hpause

theorem minds_settle (id : ClientId) (outcome : CancelOutcome) :
  (part id).Minds fun run => ((), settle id outcome run)
  := by
  constructor
  · intro run run' _
    rfl
  · rintro run run' ⟨hdesk, hpending, hreport⟩
    use hdesk
    simp only [CancelProgress.Same, settle, CancelProgress.mem_pending_settle,
      CancelProgress.get?_settle, hpending, hreport, and_self]
  · intro run h
    use (Desk.part id).spares_refl run.desk
    intro other hne
    simp [CancelProgress.Same, settle, CancelProgress.mem_pending_settle,
      CancelProgress.get?_settle, hne]

/-- What a run does for one order in its second part, when nothing else happens. -/
theorem answeredBy_singlePart (t : Moment) (venue : VenueRequest → Reply) (p : Policy)
    (o : Order) (run : CancelRun) :
  ((singlePart p o).answeredBy t venue run).2
    = settle o.clientId (.ofResult ((Desk.cancelOrder p o).answeredBy t venue run.desk).1)
      { run with desk := ((Desk.cancelOrder p o).answeredBy t venue run.desk).2 }
  := by
  rw [singlePart, Routine.answeredBy_bind, answeredBy_atDesk]
  rfl

/-- What a run does for one order in its second part is confined to this order and its
outcome. -/
theorem confined_singlePart (p : Policy) (o : Order) :
  Confined (part o.clientId) t (singlePart p o)
  := by
  apply Routine.confined_bind (confined_atDesk (Desk.confined_cancelOrder p o))
  intro result
  apply Routine.confined_modify (minds_settle o.clientId _)

end CancelRun

end VenueLink
