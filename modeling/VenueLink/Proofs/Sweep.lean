import VenueLink.Proofs.Connector
import VenueLink.Proofs.Runs
import Mathlib.Data.List.Perm.Lattice

/-!
# Sweeps

A sweep visits the orders that rest when it begins, one after the other, and fetches the
fills of each before it asks for its state.  An order that is filled when the sweep comes to
it has its fills fetched afterwards.  An order that is filled before the sweep begins, or after
it has come to the order, has not: later sweeps pass it over.
-/

namespace VenueLink

open Routine (exchanges)

/-! ## Resting orders -/

theorem OrderState.isTerminal_eq_false_iff (s : OrderState) :
  s.isTerminal = false ↔ s = .resting
  := by
  cases s with
  | resting => decide
  | filled => decide
  | canceled => decide
  | failed => decide

namespace Book

variable {b : Book} {o : Order} {id : ClientId}

theorem insertBySubmission_perm (o : Order) (orders : List Order) :
  (insertBySubmission o orders).Perm (o :: orders)
  := by
  fun_induction insertBySubmission o orders with
  | case1 => exact .refl _
  | case2 => exact .refl _
  | case3 p rest hnot ih => exact (ih.cons p).trans (.swap o p rest)

/-- The resting orders are those of the book, sorted. -/
theorem resting_perm (b : Book) :
  b.resting.Perm (b.orders.filter Order.isResting)
  := by
  rw [resting]
  induction b.orders.filter Order.isResting with
  | nil => exact .nil
  | cons o rest ih => exact (insertBySubmission_perm o _).trans (ih.cons o)

theorem filter_clientId (hb : b.Keyed) (id : ClientId) :
  b.orders.filter (fun o => o.clientId = id) = (b.find? id).toList
  := by
  obtain ⟨orders, _, _⟩ := b
  simp only [Keyed, find?] at *
  induction orders with
  | nil => rfl
  | cons p rest ih =>
      rw [List.map_cons, List.nodup_cons] at hb
      by_cases hid : p.clientId = id
      · subst hid
        have hrest : rest.filter (fun o => o.clientId = p.clientId) = [] := by
          rw [List.filter_eq_nil_iff]
          intro o ho heq
          apply hb.1
          rw [← of_decide_eq_true heq]
          exact List.mem_map_of_mem ho
        simp [hrest]
      · simp [hid, ih hb.2]

/-- A client id has one resting order, or none. -/
theorem filter_resting (hb : b.Keyed) (id : ClientId) :
  b.resting.filter (fun o => o.clientId = id) = ((b.find? id).filter Order.isResting).toList
  := by
  have hperm := (resting_perm b).filter fun o => o.clientId = id
  rw [List.filter_comm, filter_clientId hb] at hperm
  cases hfind : b.find? id with
  | none => simpa [hfind] using hperm
  | some o =>
      cases hrests : o.isResting with
      | true => simpa [hfind, hrests, Option.filter] using hperm
      | false => simpa [hfind, hrests, Option.filter] using hperm

end Book

/-! ## Requests of polls -/

namespace Desk

variable {p : Policy} {o : Order} {d d' : Desk} {es : List (Event Desk)}

/-- The request for the fills of an order, if its venue id is known. -/
def dealsRequest? (o : Order) : Option VenueRequest := o.knownId?.map (orderRequest .deals o)

/-- The fills of an order are asked for at once, and once. -/
theorem exchanges_of_pollFills {got : Except VenueError (List Fill)}
    (h : (pollFills o).Runs d es (.finished got) d') :
  (exchanges es).map (·.request) = (dealsRequest? o).toList ∧ ∀ x ∈ exchanges es, x.left = d
  := by
  unfold pollFills at h
  split at h
  case h_1 hnone =>
    obtain ⟨rfl, -, -⟩ := (Routine.runs_pure _).mp h
    rw [dealsRequest?, hnone]
    use rfl
    intro x hx
    exact absurd hx List.not_mem_nil
  case h_2 id hid =>
    rw [Routine.runs_bind] at h
    obtain ⟨reply, d₁, _, after, rfl, hfetch, h⟩ := h
    obtain ⟨x, rfl, rfl, hrequest, -, -⟩ := (Routine.runs_fetch _).mp hfetch
    have hafter : exchanges after = [] := by
      split at h
      · obtain ⟨rfl, -, -⟩ := (Routine.runs_pure _).mp h
        rfl
      · simp only [Routine.runs_bind, Routine.runs_now, Routine.runs_update,
          Routine.runs_pure] at h
        obtain ⟨now, _, _, _, rfl, ⟨rfl, -⟩, _, _, _, _, rfl, ⟨rfl, -, -⟩, rfl, -, -⟩ := h
        rfl
    rw [dealsRequest?, hid]
    simp [hafter, hrequest]

/-- A routine never asks for fills. -/
def AsksNoFills {α : Type} (m : Routine Desk α) : Prop :=
  ∀ x d, m.Keeps (fun _ r _ => r.endpoint ≠ .deals) (fun _ _ _ => True) x d

section Asks

variable {α β : Type}

theorem asksNoFills_pure (a : α) :
  AsksNoFills (pure a)
  := fun _ _ => trivial

theorem asksNoFills_bind {m : Routine Desk α} {f : α → Routine Desk β} (hm : AsksNoFills m)
    (hf : ∀ a, AsksNoFills (f a)) :
  AsksNoFills (m >>= f)
  := by
  intro x d
  rw [Routine.keeps_bind]
  apply (hm x d).imp
  intro x a d _
  apply hf

theorem asksNoFills_fetch {r : VenueRequest} (h : r.endpoint ≠ .deals) :
  AsksNoFills (.fetch r)
  := by
  intro x d
  rw [Routine.keeps_fetch]
  exact ⟨h, fun _ _ => trivial⟩

theorem asksNoFills_resolve (p : Policy) (o : Order) :
  AsksNoFills (resolve p o)
  := by
  have hlisting : ∀ l ∈ Resolution.listings,
      (Resolution.listingRequest p o l).endpoint ≠ .deals := by
    intro l hl
    change l ≠ .deals
    rintro rfl
    simp [Resolution.listings] at hl
  intro x d
  apply keeps_resolve
  · exact hlisting
  · intro l l' reply d _ hl'
    exact hlisting l' hl'
  · intros
    trivial

theorem asksNoFills_detail {endpoint : Endpoint} (h : endpoint ≠ .deals) (o : Order)
    (id : VenueId) :
  AsksNoFills (detail endpoint o id)
  := by
  apply asksNoFills_bind (asksNoFills_fetch h)
  rintro (e | result)
  · dsimp only
    split
    · apply asksNoFills_pure
    · apply asksNoFills_pure
  · apply asksNoFills_pure

/-- The poll of a state never asks for fills. -/
theorem asksNoFills_pollStatus (p : Policy) (o : Order) :
  AsksNoFills (pollStatus p o)
  := by
  apply asksNoFills_bind
  · unfold resolveMissing
    split
    · apply asksNoFills_pure
    · apply asksNoFills_resolve
  · intro resolution
    split
    case h_1 id =>
      apply asksNoFills_bind
      · apply asksNoFills_bind (asksNoFills_detail (by decide) o id)
        intro found
        split
        · apply asksNoFills_detail (by decide)
        · apply asksNoFills_pure
      · intro found
        split
        · apply asksNoFills_pure
        · apply asksNoFills_bind (asksNoFills_resolve p o)
          intro again
          apply asksNoFills_pure
        · intro x d now
          trivial
    · apply asksNoFills_pure

end Asks

end Desk

/-! ## Visits -/

/-- What a sweep does for one order. -/
structure Visit where
  /-- The order as it was when the sweep began. -/
  order : Order
  /-- The desk when the sweep comes to the order. -/
  desk : Desk
  /-- The poll of its fills. -/
  fills : List (Event Desk)
  /-- The poll of its state. -/
  status : List (Event Desk)

/-- All that happens in a visit. -/
def Visit.events (v : Visit) : List (Event Desk) := v.fills ++ v.status

/-- Orders are visited one after the other. -/
inductive Visits (p : Policy) : Desk → List Visit → Desk → Prop where
  | nil (d : Desk) : Visits p d [] d
  | cons {d d₁ d₂ d' : Desk} {o : Order} {fills status : List (Event Desk)}
    {got : Except VenueError (List Fill)} {said : Except PollError Update} {rest : List Visit}
    (hfills : (Desk.pollFills o).Runs d fills (.finished got) d₁)
    (hstatus : (Desk.pollStatus p o).Runs d₁ status (.finished said) d₂)
    (h : Visits p d₂ rest d') :
    Visits p d (⟨o, d, fills, status⟩ :: rest) d'

namespace Visits

variable {p : Policy} {d d' : Desk} {visits : List Visit} {es : List (Event Desk)}
  {orders : List Order} {v : Visit} {id : ClientId}

/-- To poll some orders is to visit each of them in turn. -/
theorem exists_of_runs (h : (Desk.pollEach p orders).Runs d es (.finished ()) d') :
  ∃ visits, Visits p d visits d' ∧ visits.map (·.order) = orders
    ∧ es = visits.flatMap Visit.events
  := by
  induction orders generalizing d es with
  | nil =>
      obtain ⟨rfl, -, rfl⟩ := (Routine.runs_pure _).mp h
      exact ⟨[], .nil d', rfl, rfl⟩
  | cons o rest ih =>
      simp only [Desk.pollEach, Routine.runs_bind] at h
      obtain ⟨got, d₁, fills, _, rfl, hfills, said, d₂, status, after, rfl, hstatus, h⟩ := h
      obtain ⟨visits, hvisits, horders, rfl⟩ := ih h
      refine ⟨⟨o, d, fills, status⟩ :: visits, .cons hfills hstatus hvisits, ?_, ?_⟩
      · rw [List.map_cons, horders]
      · rw [List.flatMap_cons, Visit.events, List.append_assoc]

/-- In a visit the fills of the order are fetched when the sweep comes to it, and not again. -/
theorem fetches (h : Visits p d visits d') (hv : v ∈ visits) :
  (exchanges v.fills).map (·.request) = (Desk.dealsRequest? v.order).toList
    ∧ (∀ x ∈ exchanges v.fills, x.left = v.desk)
    ∧ ∀ x ∈ exchanges v.status, x.request.endpoint ≠ .deals
  := by
  induction h with
  | nil d => exact absurd hv List.not_mem_nil
  | @cons d d₁ d₂ d' o fills status got said rest hfills hstatus h ih =>
      rcases List.mem_cons.mp hv with rfl | hv
      · obtain ⟨hrequests, hleft⟩ := Desk.exchanges_of_pollFills hfills
        use hrequests, hleft
        intro x hx
        exact (Desk.asksNoFills_pollStatus p o ⟨d₁, none⟩ d₁).request_of_runs hstatus hx
      · exact ih hv

/-- The exchanges in which the fills of an order are fetched. -/
def fetched (visits : List Visit) (id : ClientId) : List (Exchange Desk) :=
  (visits.filter fun v => v.order.clientId = id).flatMap fun v => exchanges v.fills

theorem requests_fetched (h : Visits p d visits d') (id : ClientId) :
  (fetched visits id).map (·.request)
    = ((visits.map (·.order)).filter fun o => o.clientId = id).flatMap fun o =>
      (Desk.dealsRequest? o).toList
  := by
  rw [fetched, List.map_flatMap, List.filter_map, List.flatMap_map]
  apply List.flatMap_congr
  intro v hv
  apply (h.fetches (List.mem_of_mem_filter hv)).1

/-- What is fetched for an order is fetched in a visit to it. -/
theorem exists_of_mem_fetched {x : Exchange Desk} (hx : x ∈ fetched visits id) :
  ∃ v ∈ visits, v.order.clientId = id ∧ x ∈ exchanges (visits.flatMap Visit.events)
  := by
  obtain ⟨v, hv, hx⟩ := List.mem_flatMap.mp hx
  obtain ⟨hv, hid⟩ := List.mem_filter.mp hv
  use v, hv, of_decide_eq_true hid
  rw [exchanges, List.filterMap_flatMap, List.mem_flatMap]
  use v, hv
  change x ∈ exchanges (v.fills ++ v.status)
  rw [Routine.exchanges_append]
  exact List.mem_append_left _ hx

end Visits

/-! ## Sweeps -/

/-- In a run everything is led on by operations if the routine and all others do so. -/
theorem Desk.Orderly.leads_of_runs {α : Type} {m : Routine Desk α} {d d' : Desk}
    {es : List (Event Desk)} {q : Routine.Pause Desk α} (hm : Orderly m)
    (h : m.Runs d es q d') (hothers : ∀ x ∈ exchanges es, x.left.Leads x.found) :
  (∀ x ∈ exchanges es, d.Leads x.left ∧ x.left.Leads d') ∧ d.Leads d'
  := (hm ⟨d, none⟩ d (.refl d)).of_runs (R := Leads) Leads.trans h hothers

/-- A sweep that was made. -/
structure Sweep where
  begun : Desk
  events : List (Event Desk)
  ended : Desk

/-- Sweeps are made one after the other.  Between them, and while a question is open, others
work at the desk. -/
inductive Sweeps (p : Policy) (others : Desk → Desk → Prop) :
    Desk → List Sweep → Desk → Prop where
  | nil (d : Desk) : Sweeps p others d [] d
  | others {d d' d'' : Desk} {sweeps : List Sweep} (h : Sweeps p others d sweeps d')
    (hd : others d' d'') :
    Sweeps p others d sweeps d''
  | sweep {d d' d'' : Desk} {sweeps : List Sweep} {es : List (Event Desk)}
    (h : Sweeps p others d sweeps d') (h' : (Desk.sweep p).Runs d' es (.finished ()) d'')
    (hothers : ∀ x ∈ exchanges es, others x.left x.found) :
    Sweeps p others d (sweeps ++ [⟨d', es, d''⟩]) d''

namespace Sweeps

variable {p : Policy} {d d' : Desk} {sweeps : List Sweep} {s : Sweep}

theorem run_of_mem {others : Desk → Desk → Prop} (h : Sweeps p others d sweeps d')
    (hs : s ∈ sweeps) :
  (Desk.sweep p).Runs s.begun s.events (.finished ()) s.ended
    ∧ ∀ x ∈ exchanges s.events, others x.left x.found
  := by
  induction h with
  | nil => exact absurd hs List.not_mem_nil
  | others h hd ih => exact ih hs
  | sweep h h' hothers ih =>
      rcases List.mem_append.mp hs with hs | hs
      · exact ih hs
      · rw [List.mem_singleton.mp hs]
        exact ⟨h', hothers⟩

/-- Everything is led on by operations as long as sweeps are made, if others do so. -/
theorem leads (h : Sweeps p Desk.Leads d sweeps d') :
  d.Leads d' ∧ ∀ s ∈ sweeps, d.Leads s.begun
  := by
  induction h with
  | nil => exact ⟨.refl _, nofun⟩
  | others h hd ih => exact ⟨ih.1.trans hd, ih.2⟩
  | sweep h h' hothers ih =>
      obtain ⟨hleads, hall⟩ := ih
      use hleads.trans ((Desk.orderly_sweep p).leads_of_runs h' hothers).2
      rw [List.forall_mem_append, List.forall_mem_singleton]
      exact ⟨hall, hleads⟩

end Sweeps

namespace Desk

variable {p : Policy} {d d' : Desk} {es : List (Event Desk)}

/-- A sweep visits the orders that rest when it begins. -/
theorem visits_of_sweep (h : (sweep p).Runs d es (.finished ()) d') :
  ∃ visits, Visits p d visits d' ∧ visits.map (·.order) = d.book.resting
    ∧ es = visits.flatMap Visit.events
  := by
  obtain ⟨_, _, _, _, rfl, hstate, h⟩ := (Routine.runs_bind _ _).mp h
  obtain ⟨rfl, rfl, rfl⟩ := Routine.runs_state.mp hstate
  exact Visits.exists_of_runs h

/-- When the fills of an order that is filled in the end are fetched in a sweep, the order was
filled already or was resting still. -/
theorem state_of_fetched {visits : List Visit} {id : ClientId} {o : Order} {x : Exchange Desk}
    (hd : d.book.Keyed) (h : (sweep p).Runs d (visits.flatMap Visit.events) (.finished ()) d')
    (hothers : ∀ x ∈ exchanges (visits.flatMap Visit.events), x.left.Leads x.found)
    (horders : visits.map (·.order) = d.book.resting) (ho : d'.book.find? id = some o)
    (hfilled : o.state = .filled) (hx : x ∈ Visits.fetched visits id) :
  ∃ o', x.left.book.find? id = some o' ∧ (o'.state = .filled ∨ o'.state = .resting)
  := by
  obtain ⟨v, hv, rfl, hexchange⟩ := Visits.exists_of_mem_fetched hx
  obtain ⟨hbefore, hafter⟩ := ((orderly_sweep p).leads_of_runs h hothers).1 x hexchange
  have hmem : v.order ∈ d.book.orders := by
    have hrests : v.order ∈ d.book.resting := by
      rw [← horders]
      exact List.mem_map_of_mem hv
    exact List.mem_of_mem_filter ((Book.resting_perm d.book).mem_iff.mp hrests)
  obtain ⟨o₁, ho₁, -⟩ := hbefore.succeeds hd _ _ (Book.find?_of_mem hd hmem)
  obtain ⟨o₂, ho₂, hbecomes⟩ := hafter.succeeds (hbefore.keyed hd) _ _ ho₁
  cases ho.symm.trans ho₂
  use o₁, ho₁
  -- From a terminal state the order cannot have come to another one since.
  cases hterminal : o₁.state.isTerminal with
  | true =>
      left
      rw [← hfilled, hbecomes.state hterminal]
  | false => exact .inr ((OrderState.isTerminal_eq_false_iff _).mp hterminal)

end Desk

namespace Sweeps

variable {p : Policy} {d d' : Desk} {sweeps : List Sweep}

/-- Whatever happens while sweeps are made, each of them visits the orders that rest when it
begins, one after the other, and fetches the fills of each of them whose venue id is known
then, once and when it comes to the order.  It fetches the fills of no other order.  So if an
order is filled when the sweep has ended, its fills were fetched when it was filled already
or when it was resting still. -/
theorem fetched_eq (hd : d.book.Keyed) (h : Sweeps p Desk.Leads d sweeps d') :
  ∀ s ∈ sweeps, ∃ visits, Visits p s.begun visits s.ended
    ∧ s.events = visits.flatMap Visit.events
    ∧ visits.map (·.order) = s.begun.book.resting
    ∧ (∀ v ∈ visits, (∀ x ∈ exchanges v.fills, x.left = v.desk)
      ∧ ∀ x ∈ exchanges v.status, x.request.endpoint ≠ .deals)
    ∧ ∀ id, (Visits.fetched visits id).map (·.request)
        = (((s.begun.book.find? id).filter Order.isResting).bind Desk.dealsRequest?).toList
      ∧ ∀ o, s.ended.book.find? id = some o → o.state = .filled →
        ∀ x ∈ Visits.fetched visits id, ∃ o', x.left.book.find? id = some o'
          ∧ (o'.state = .filled ∨ o'.state = .resting)
  := by
  intro s hs
  obtain ⟨hrun, hothers⟩ := h.run_of_mem hs
  have hkeyed := (h.leads.2 s hs).keyed hd
  obtain ⟨visits, hvisits, horders, hevents⟩ := Desk.visits_of_sweep hrun
  refine ⟨visits, hvisits, hevents, horders, fun v hv => (hvisits.fetches hv).2, ?_⟩
  intro id
  rw [hevents] at hrun hothers
  constructor
  · rw [hvisits.requests_fetched, horders, Book.filter_resting hkeyed]
    cases (s.begun.book.find? id).filter Order.isResting with
    | none => rfl
    | some o => simp
  · intro o ho hfilled x hx
    exact Desk.state_of_fetched hkeyed hrun hothers horders ho hfilled hx

/-- A message of the user stream comes. -/
def Told (d d' : Desk) : Prop := ∃ now m, d' = d.applyMessage now m

/-- A sweep during which a message comes with each answer, while the venue refuses every
request. -/
def toldSweep (m : Json) (d : Desk) : Sweep :=
  let run := (Desk.sweep {}).played ⟨0⟩ (fun _ => .error .rateLimited)
    (fun _ d => d.applyMessage ⟨0⟩ m) d
  ⟨d, run.1, run.2.2⟩

theorem told {others : Desk → Desk → Prop} (hothers : ∀ d d', Told d d' → others d d') (m : Json)
    (h : Sweeps {} others d sweeps d') :
  Sweeps {} others d (sweeps ++ [toldSweep m d']) (toldSweep m d').ended
  := by
  apply h.sweep (Routine.runs_played ..)
  intro x hx
  rw [(Routine.of_mem_played hx).2]
  exact hothers _ _ ⟨_, m, rfl⟩

/-- A desk with two resting orders whose venue ids are confirmed. -/
def sampleDesk : Desk :=
  { book := { orders := [.sample "a" (.confirmed ⟨"7"⟩), .sample "b" (.confirmed ⟨"8"⟩)] } }

/-- If the second of the two orders is filled while the first one is visited, its fills are
fetched afterwards. -/
theorem fetched_eq_sampleDesk :
  ∃ (s : Sweep) (visits : List Visit), Sweeps {} Desk.Leads sampleDesk [s] s.ended
    ∧ (s.ended.book.find? ⟨"b"⟩).map (·.state) = some .filled ∧ s.events = visits.flatMap Visit.events
    ∧ (Visits.fetched visits ⟨"b"⟩).map (·.request)
      = [Desk.orderRequest .deals (.sample "b" (.confirmed ⟨"8"⟩)) ⟨"8"⟩]
  := by
  have hleads : ∀ d d', Told d d' → d.Leads d' := by
    rintro d _ ⟨now, m, rfl⟩
    apply Desk.leads_applyMessage
  have hsweeps := told hleads (Connector.filledMessage "b" "8") (.nil sampleDesk)
  obtain ⟨visits, -, hevents, -, -, hfetched⟩ :=
    fetched_eq (by decide) hsweeps _ (List.mem_singleton_self _)
  refine ⟨_, visits, hsweeps, by decide, hevents, ?_⟩
  rw [(hfetched ⟨"b"⟩).1]
  rfl

/-- A desk with the first order only. -/
def singleDesk : Desk := { book := { orders := [.sample "a" (.confirmed ⟨"7"⟩)] } }

/-- The fills of an order that is filled by a message before a sweep are not fetched by it. -/
theorem not_fetched_of_filled :
  ∃ (d : Desk) (s : Sweep) (o : Order), d.book.resting.map (·.clientId) = [o.clientId]
    ∧ Sweeps {} Told d [s] s.ended ∧ s.ended.book.orders = [o] ∧ o.state = .filled
    ∧ o.confirmedId?.isSome = true ∧ s.events = []
  := by
  have hsweeps := told (fun _ _ h => h) .null
    (.others (.nil singleDesk) ⟨⟨0⟩, Connector.filledMessage "a" "7", rfl⟩)
  refine ⟨singleDesk, _, { Order.sample "a" (.confirmed ⟨"7"⟩) with state := .filled }, rfl,
    hsweeps, by decide, rfl, rfl, ?_⟩
  apply List.isEmpty_iff.mp
  decide

end Sweeps

end VenueLink
