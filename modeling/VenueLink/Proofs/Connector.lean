import VenueLink.Proofs.CancelStep
import VenueLink.Proofs.Ownership
import Mathlib.Logic.Relation

/-!
# The connector

All that works at one desk: messages of the user stream, polls, sweeps, resolutions and
cancels of which any number are under way at the same time, each going on when an answer
comes.  Whatever they do and in whatever order, the book is led on by operations.  So every
order keeps to its lifecycle over whole runs, and each venue id has one owner as long as no
operation confirms it for a second one.
-/

namespace VenueLink

open Relation (ReflTransGen)

/-! ## Works -/

/-- What the connector may begin to do at its desk. -/
inductive Task where
  | refreshBalances
  | resolve (o : Order)
  | resolveMissing (o : Order)
  | pollStatus (o : Order)
  | pollFills (o : Order)
  | sweep
  | cancelOrder (o : Order)

/-- The routine of a task, whose result is not looked at. -/
def Task.routine (p : Policy) : Task → Routine Desk Unit
  | refreshBalances => (fun _ => ()) <$> Desk.refreshBalances p
  | resolve o => (fun _ => ()) <$> Desk.resolve p o
  | resolveMissing o => (fun _ => ()) <$> Desk.resolveMissing p o
  | pollStatus o => (fun _ => ()) <$> Desk.pollStatus p o
  | pollFills o => (fun _ => ()) <$> Desk.pollFills o
  | sweep => Desk.sweep p
  | cancelOrder o => (fun _ => ()) <$> Desk.cancelOrder p o

/-- Work under way, which waits for an answer. -/
inductive Work where
  /-- A routine at a question. -/
  | desk (request : VenueRequest) (next : Reply → Routine Desk Unit)
  /-- A cancel run. -/
  | cancel (progress : CancelProgress) (stage : CancelStage)

/-- A routine that came to a pause: nothing once it is finished. -/
def Work.ofPause : Routine.Pause Desk Unit → List Work
  | .finished _ => []
  | .asking r k => [.desk r k]

/-- The desk, and all that is under way at it. -/
structure Connector where
  desk : Desk
  works : List Work := []

namespace Connector

/-- One thing happens: a message comes, an order is put under watch, work begins, goes on with
an answer, or ends. -/
inductive Step (p : Policy) : Connector → Connector → Prop where
  /-- A message of the user stream comes. -/
  | message {c : Connector} (now : Moment) (m : Json) :
    Step p c { c with desk := c.desk.applyMessage now m }
  /-- An order whose client id is new is put under watch. -/
  | track {c : Connector} (o : Order) (h : c.desk.book.find? o.clientId = none) :
    Step p c { c with desk.book := c.desk.book.track o }
  /-- A task begins. -/
  | start {c : Connector} (t : Task) {q : Routine.Pause Desk Unit} {d : Desk}
    (h : (t.routine p).Reaches c.desk q d) :
    Step p c ⟨d, c.works ++ Work.ofPause q⟩
  /-- A routine goes on with an answer. -/
  | answer {d d' : Desk} {before after : List Work} {r : VenueRequest}
    {k : Reply → Routine Desk Unit} (reply : Reply) {q : Routine.Pause Desk Unit}
    (h : (k reply).Reaches d q d') :
    Step p ⟨d, before ++ .desk r k :: after⟩ ⟨d', before ++ Work.ofPause q ++ after⟩
  /-- A routine is given up at its question. -/
  | drop {d : Desk} {before after : List Work} {r : VenueRequest}
    {k : Reply → Routine Desk Unit} :
    Step p ⟨d, before ++ .desk r k :: after⟩ ⟨d, before ++ after⟩
  /-- A cancel run of some orders begins. -/
  | startCancel {c : Connector} (orders : List Order) {x : CancelPoint}
    (h : CancelPoint.Begins p orders c.desk x) :
    Step p c ⟨x.run.desk, c.works ++ [.cancel x.run.progress x.stage]⟩
  /-- A cancel run goes on. -/
  | goOn {d : Desk} {before after : List Work} {g : CancelProgress} {s : CancelStage}
    {answers : List CancelAnswer} {x : CancelPoint}
    (h : CancelPoint.Step p ⟨⟨d, g⟩, s⟩ answers x) :
    Step p ⟨d, before ++ .cancel g s :: after⟩
      ⟨x.run.desk, before ++ .cancel x.run.progress x.stage :: after⟩
  /-- A cancel run ends, by itself or cut short. -/
  | finish {d : Desk} {before after : List Work} {g : CancelProgress} {s : CancelStage} :
    Step p ⟨d, before ++ .cancel g s :: after⟩ ⟨(CancelRun.finish ⟨d, g⟩).2, before ++ after⟩

/-- Things happen one after the other. -/
def Run (p : Policy) : Connector → Connector → Prop := ReflTransGen (Step p)

/-- What a connector comes to that begins with an empty book. -/
def Reachable (p : Policy) (c : Connector) : Prop :=
  ∃ d : Desk, d.book = {} ∧ Run p ⟨d, []⟩ c

end Connector

/-! ## What works bring about -/

/-- Work under way leads the book on by operations however it is answered. -/
def Work.Sound : Work → Prop
  | desk r k => ∀ reply d, (k reply).Keeps (fun x _ d => x.state.Leads d)
    (fun x _ d => x.state.Leads d) ⟨d, (r, reply)⟩ d
  | cancel g s => ∃ orders : List Order, g.Parts (orders.map (·.clientId)) ∧ s.Sound orders g

theorem Task.orderly_routine (p : Policy) (t : Task) :
  Desk.Orderly (t.routine p)
  := by
  cases t with
  | refreshBalances => exact Desk.orderly_map _ (Desk.orderly_refreshBalances p)
  | resolve o => exact Desk.orderly_map _ (Desk.orderly_resolve p o)
  | resolveMissing o => exact Desk.orderly_map _ (Desk.orderly_resolveMissing p o)
  | pollStatus o => exact Desk.orderly_map _ (Desk.orderly_pollStatus p o)
  | pollFills o => exact Desk.orderly_map _ (Desk.orderly_pollFills o)
  | sweep => exact Desk.orderly_sweep p
  | cancelOrder o => exact Desk.orderly_map _ (Desk.orderly_cancelOrder p o)

/-- A stretch of a routine leads the book on by operations, and what is left of the routine is
sound. -/
theorem Work.sound_ofPause {m : Routine Desk Unit} {x : Routine.Origin Desk} {d d' : Desk}
    {q : Routine.Pause Desk Unit}
    (hm : m.Keeps (fun x _ d => x.state.Leads d) (fun x _ d => x.state.Leads d) x d)
    (h : m.Reaches d q d') :
  x.state.Leads d' ∧ ∀ w ∈ ofPause q, w.Sound
  := by
  cases q with
  | finished u =>
      use hm.goal_of_reaches h
      intro w hw
      exact absurd hw List.not_mem_nil
  | asking r k =>
      obtain ⟨hleads, hnext⟩ := hm.pause_of_reaches h
      use hleads
      intro w hw
      rw [List.mem_singleton.mp hw]
      exact hnext

namespace Connector

variable {p : Policy} {c c' : Connector} {d : Desk}

/-- All that is under way is sound. -/
def Sound (c : Connector) : Prop := ∀ w ∈ c.works, w.Sound

/-- Whatever happens leads the book on by operations. -/
theorem Step.leads (h : Step p c c') (hc : c.Sound) :
  c.desk.Leads c'.desk ∧ c'.Sound
  := by
  cases h with
  | message now m => exact ⟨Desk.leads_applyMessage now m c.desk, hc⟩
  | track o h => exact ⟨Book.leads_perform (.track o) h, hc⟩
  | start t h =>
      obtain ⟨hleads, hsound⟩ :=
        Work.sound_ofPause (Task.orderly_routine p t ⟨c.desk, none⟩ c.desk (.refl _)) h
      use hleads
      intro w hw
      exact (List.mem_append.mp hw).elim (hc w) (hsound w)
  | answer reply h =>
      simp only [Sound, List.forall_mem_append, List.forall_mem_cons] at hc ⊢
      obtain ⟨hbefore, hwork, hafter⟩ := hc
      obtain ⟨hleads, hsound⟩ := Work.sound_ofPause (hwork reply _) h
      exact ⟨hleads, ⟨hbefore, hsound⟩, hafter⟩
  | drop =>
      simp only [Sound, List.forall_mem_append, List.forall_mem_cons] at hc ⊢
      exact ⟨.refl _, hc.1, hc.2.2⟩
  | startCancel orders h =>
      obtain ⟨hleads, hsound⟩ := CancelPoint.sound_of_begins h
      simp only [Sound, List.forall_mem_append, List.forall_mem_singleton]
      exact ⟨hleads, hc, orders, hsound.parts, hsound.stage⟩
  | goOn h =>
      simp only [Sound, List.forall_mem_append, List.forall_mem_cons] at hc ⊢
      obtain ⟨hbefore, ⟨orders, hparts, hstage⟩, hafter⟩ := hc
      obtain ⟨hadvance, hsound, -⟩ := h.advance ⟨hparts, hstage⟩
      exact ⟨hadvance.leads, hbefore, ⟨orders, hsound.parts, hsound.stage⟩, hafter⟩
  | finish =>
      simp only [Sound, List.forall_mem_append, List.forall_mem_cons] at hc ⊢
      exact ⟨.refl _, hc.1, hc.2.2⟩

theorem Run.leads (h : Run p c c') (hc : c.Sound) :
  c.desk.Leads c'.desk ∧ c'.Sound
  := by
  induction h with
  | refl => exact ⟨.refl _, hc⟩
  | tail _ hstep ih =>
      obtain ⟨hleads, hsound⟩ := ih
      obtain ⟨hleads', hsound'⟩ := hstep.leads hsound
      exact ⟨hleads.trans hleads', hsound'⟩

theorem sound_of_no_works (d : Desk) :
  Sound ⟨d, []⟩
  := by
  intro w hw
  exact absurd hw List.not_mem_nil

/-! ## Whole runs -/

/-- Whatever happens from a reachable state on, every order stays under its client id and
becomes only what it may become: its end, its confirmed venue id and what was submitted
stay, and a venue id once seen does not get lost. -/
theorem becomes_of_run (hc : Reachable p c) (h : Run p c c') :
  c'.desk.book.Keyed ∧ ∀ id o, c.desk.book.find? id = some o →
    ∃ o', c'.desk.book.find? id = some o' ∧ o'.clientId = id ∧ o.Becomes o'
  := by
  obtain ⟨d, hempty, hrun⟩ := hc
  obtain ⟨hleads, hsound⟩ := hrun.leads (sound_of_no_works d)
  have hkeyed : c.desk.book.Keyed := by
    apply Book.Leads.keyed hleads
    rw [hempty]
    exact List.nodup_nil
  have hleads' := (h.leads hsound).1
  use hleads'.keyed hkeyed
  intro id o ho
  obtain ⟨o', ho', hbecomes⟩ := hleads'.succeeds hkeyed id o ho
  exact ⟨o', ho', Book.clientId_of_find? ho', hbecomes⟩

/-- An order whose venue id is confirmed. -/
def sampleOrder : Order := .sample "a" (.confirmed ⟨"7"⟩)

/-- A message that an order is filled under some venue id. -/
def filledMessage (id venueId : String) : Json :=
  .object [("method", .str "order.update"), ("params", .object [("market", .str "BTC_USDT"),
    ("client_id", .str id), ("order_id", .str venueId), ("status", .str "filled")])]

/-- An order that is said to be filled under another venue id keeps the confirmed one. -/
theorem becomes_of_run_filledMessage :
  ∃ c c', Reachable {} c ∧ Run {} c c' ∧ c.desk.book.find? ⟨"a"⟩ = some sampleOrder
    ∧ ∃ o, c'.desk.book.find? ⟨"a"⟩ = some o ∧ o.venue = .confirmed ⟨"7"⟩
  := by
  have hc : Reachable {} ⟨{ book := { orders := [sampleOrder] } }, []⟩ :=
    ⟨{}, rfl, .single (.track sampleOrder rfl)⟩
  have hrun := ReflTransGen.single (@Step.message {} ⟨{ book := { orders := [sampleOrder] } }, []⟩
    ⟨0⟩ (filledMessage "a" "8"))
  obtain ⟨-, hbecomes⟩ := becomes_of_run hc hrun
  obtain ⟨o, ho, -, ho'⟩ := hbecomes ⟨"a"⟩ sampleOrder rfl
  exact ⟨_, _, hc, hrun, rfl, o, ho, ho'.confirmed _ rfl⟩

/-- Over a whole run each venue id has one owner just as long as no operation that leads to
the book confirms for an order, which had no confirmed id, one that an order under watch has
already.  The operations of every run are those of the book. -/
theorem ownedOnce_iff_of_run (hkeyed : d.book.Keyed) (hown : d.book.OwnedOnce)
    (h : Run p ⟨d, []⟩ c) :
  (∃ ops, d.book.Course ops c.desk.book)
    ∧ ∀ ops, d.book.Course ops c.desk.book → (c.desk.book.OwnedOnce ↔ ¬d.book.Clashing ops)
  := ⟨(h.leads (sound_of_no_works d)).1, fun _ hops => hops.ownedOnce_iff hkeyed hown⟩

/-- A desk that watches the order and another one whose venue id is unknown. -/
def sampleDesk : Desk :=
  { book := { orders := [sampleOrder, .sample "b" .unknown] } }

/-- The desk after a message about the other order. -/
def afterMessage (venueId : String) : Desk :=
  sampleDesk.applyMessage ⟨0⟩ (filledMessage "b" venueId)

theorem run_afterMessage (venueId : String) :
  Run {} ⟨sampleDesk, []⟩ ⟨afterMessage venueId, []⟩
  := .single (.message ⟨0⟩ (filledMessage "b" venueId))

/-- A venue id that is new finds its owner without a clash. -/
theorem ownedOnce_iff_of_run_afterMessage :
  ∃ ops, sampleDesk.book.Course ops (afterMessage "8").book ∧ ¬sampleDesk.book.Clashing ops
  := by
  obtain ⟨⟨ops, hops⟩, howned⟩ :=
    ownedOnce_iff_of_run (by decide) (by decide) (run_afterMessage "8")
  exact ⟨ops, hops, (howned ops hops).mp (by decide)⟩

/-- A message can confirm for one order the venue id of another one. -/
theorem not_ownedOnce_of_run :
  ∃ d c, d.book.Keyed ∧ (d.book.orders.filterMap (·.knownId?)).Nodup ∧ Run {} ⟨d, []⟩ c
    ∧ ¬c.desk.book.OwnedOnce
  := ⟨sampleDesk, _, by decide, by decide, run_afterMessage "7", by decide⟩

end Connector

end VenueLink
