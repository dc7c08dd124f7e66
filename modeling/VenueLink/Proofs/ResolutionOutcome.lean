import VenueLink.Proofs.CancelConfined
import VenueLink.Proofs.CancelRequests
import VenueLink.Proofs.Redelivery
import VenueLink.Proofs.Selection

/-!
# What the outcomes of a resolution mean

A resolution may work with an order that is out of date, beside others.  When it is resolved the
book has the venue id confirmed, and the order has ended if the entry that was selected says so;
when it has failed the order has ended; when it is unresolved it has left the book as it was.  It
never touches another order.
-/

namespace VenueLink.Resolution

open Routine (exchanges resumed stretches)

variable {p : Policy} {o : Order} {d₀ d d' : Desk} {es : List (Event Desk)} {res : Resolution}
  {venue : VenueRequest → Reply} {best? : Option Candidate} {c : Candidate} {now : Moment}
  {id : VenueId}

/-! ## Conclusions -/

/-- The book has an order of a client id that has ended. -/
def Ended (d : Desk) (id : ClientId) : Prop :=
  ∃ q, d.book.find? id = some q ∧ q.state.isTerminal = true

theorem ended_propose {q : Order} {state : OrderState} (hq : d.book.find? o.clientId = some q)
    (hstate : state.isTerminal = true) (timestamp : Moment) :
  Ended (d.propose (.forOrder o state timestamp)) o.clientId
  := by
  obtain ⟨q', hq', hafter⟩ := Desk.stands_propose hq state timestamp
  use q', hq'
  rw [hafter]
  exact OrderState.isTerminal_after q.state hstate

/-- An order ends with the candidate that is adopted for it. -/
theorem ended_adopt (hended : c.state.isTerminal = true) (h : (adopt o c d).1 = .resolved id) :
  Ended (adopt o c d).2 o.clientId
  := by
  unfold adopt at h ⊢
  split
  case h_1 hrefused =>
    rw [hrefused] at h
    cases h
  case h_2 book hbook =>
    obtain ⟨q, -, hq, -⟩ := Book.eq_put_of_confirm hbook
    obtain ⟨q', hq', -⟩ := Book.state_of_confirm hbook hq
    dsimp only
    rw [if_pos hended]
    exact ended_propose (d := { d with book }) (o := { o with venue := .confirmed c.venueId })
      hq' hended c.timestamp

/-- A candidate that is adopted has its venue id confirmed, and the order ends with it. -/
theorem adopted_of_resolved (h : (adopt o c d).1 = .resolved id) :
  c.venueId = id ∧ ∃ q, (adopt o c d).2.book.find? o.clientId = some q ∧ q.venue = .confirmed id
    ∧ (c.state.isTerminal = true → q.state.isTerminal = true)
  := by
  have hadopts := adopts_adopt o c d
  rw [h] at hadopts
  cases hadopts with
  | confirmed _ _ hafter hid =>
      refine ⟨rfl, _, hafter, hid, ?_⟩
      intro hended
      obtain ⟨q, hq, hterminal⟩ := ended_adopt hended h
      cases hafter.symm.trans hq
      exact hterminal

/-- An order that is given up has ended. -/
theorem ended_escalate {q : Order} (hq : d.book.find? o.clientId = some q)
    (h : (escalate p o now d).1 = .failed) :
  Ended (escalate p o now d).2 o.clientId
  := by
  unfold escalate at h ⊢
  split
  case isTrue hyoung =>
    rw [if_pos hyoung] at h
    cases h
  case isFalse => exact ended_propose hq rfl now

/-- Adopting a candidate either has a result or leaves the book as it is. -/
theorem book_of_adopt (h : (adopt o c d).1 = .unresolved) :
  (adopt o c d).2.book = d.book
  := by
  have hadopts := adopts_adopt o c d
  rw [h] at hadopts
  cases hadopts with
  | refused hbook => exact hbook

theorem escalate_ne_resolved :
  (escalate p o now d).1 ≠ .resolved id
  := by
  unfold escalate
  split <;> exact nofun

theorem book_of_escalate (h : (escalate p o now d).1 = .unresolved) :
  (escalate p o now d).2.book = d.book
  := by
  unfold escalate at h ⊢
  split
  case isTrue => rfl
  case isFalse hold =>
    rw [if_neg hold] at h
    cases h

/-- A conclusion without result leaves the book as it is. -/
theorem book_of_conclude (h : (conclude p o now best? d).1 = .unresolved) :
  (conclude p o now best? d).2.book = d.book
  := by
  cases best? with
  | some c => exact book_of_adopt h
  | none => exact book_of_escalate h

/-- A conclusion about an order under watch touches no other. -/
theorem spares_conclude {q : Order} (hq : d.book.find? o.clientId = some q) :
  d.book.Spares o.clientId (conclude p o now best? d).2.book
  := (Desk.minds_conclude p o now best?).spares ⟨q, hq, hq⟩

/-! ## Runs -/

/-- A resolution does nothing while it asks, and draws a conclusion with its last stretch. -/
theorem stretch_of_runs (h : (Desk.resolve p o).Runs d es (.finished res) d') {y : Desk × Desk}
    (hy : y ∈ stretches d (exchanges es) d') :
  y.2 = y.1 ∨ y.2 = d' ∧ ∃ now best?, (res, d') = conclude p o now best? y.1
  := by
  have hkeeps : (Desk.resolve p o).Keeps (fun x _ d => d = x.state)
      (fun x res d => ∃ now best?, (res, d) = conclude p o now best? x.state) ⟨d, none⟩ d := by
    apply Desk.keeps_resolve
    · intro l _
      rfl
    · intro l l' reply d _ _
      rfl
    · intro l reply now best? d _
      exact ⟨now, best?, rfl⟩
  exact hkeeps.stretch_of_runs (P := fun d d' => d' = d)
    (G := fun d res d' => ∃ now best?, (res, d') = conclude p o now best? d) h hy

/-- A stretch of a resolution touches no other order, and not the book when nothing comes of it. -/
theorem effect_of_stretch (h : (Desk.resolve p o).Runs d es (.finished res) d') {y : Desk × Desk}
    (hy : y ∈ stretches d (exchanges es) d') (hwatches : y.1.Watches o.clientId) :
  y.1.book.Spares o.clientId y.2.book ∧ (res = .unresolved → y.2.book = y.1.book)
  := by
  rcases stretch_of_runs h hy with hsame | ⟨hlast, now, best?, hconclude⟩
  · rw [hsame]
    exact ⟨.refl o.clientId y.1.book, fun _ => rfl⟩
  · obtain ⟨hres, hd'⟩ := Prod.mk.inj hconclude
    obtain ⟨q, hq⟩ := Option.isSome_iff_exists.mp hwatches.2
    rw [hlast, hd', hres]
    exact ⟨spares_conclude hq, book_of_conclude⟩

/-- What the outcome of a resolution means that began at one desk and ended at another, with some
exchanges in between at which a venue answered. -/
structure Means (p : Policy) (o : Order) (venue : VenueRequest → Reply) (d : Desk)
    (es : List (Event Desk)) (res : Resolution) (d' : Desk) : Prop where
  /-- The venue id of the entry that is first among all offers is confirmed, and the order has
  ended if this entry says so. -/
  resolved : ∀ id, res = .resolved id → ∃ (q : Order) (w : Offer),
    d'.book.find? o.clientId = some q ∧ q.venue = .confirmed id ∧ w.IsFirst p o venue
      ∧ OrderEntry.venueId? w.entry = some id
      ∧ ((OrderEntry.state w.entry).isTerminal = true → q.state.isTerminal = true)
  /-- An order that was given up has ended. -/
  failed : res = .failed → Ended d' o.clientId
  /-- No stretch has changed the book. -/
  unresolved : res = .unresolved → ∀ y ∈ stretches d (exchanges es) d', y.2.book = y.1.book
  /-- No stretch has touched another order. -/
  spares : ∀ y ∈ stretches d (exchanges es) d', y.1.book.Spares o.clientId y.2.book

/-- The outcome of a resolution of an order under watch means what it says. -/
theorem means_of_resolve (hwatches : d.Watches o.clientId)
    (h : (Desk.resolve p o).Runs d es (.finished res) d')
    (hanswers : ∀ x ∈ exchanges es, x.reply = venue x.request)
    (hothers : ∀ x ∈ exchanges es, x.left.Leads x.found) :
  Means p o venue d es res d'
  := by
  have hleads := (Desk.orderly_resolve p o).leads_of_runs h hothers
  have hwatched : ∀ y ∈ stretches d (exchanges es) d', y.1.Watches o.clientId := by
    intro y hy
    rcases Routine.begun_of_mem_stretches hy with hbegun | ⟨x, hx, hbegun⟩
    · rwa [hbegun]
    · rw [hbegun]
      exact hwatches.leads ((hleads.1 x hx).1.trans (hothers x hx))
  obtain ⟨now, best?, -, hselects, hconclude⟩ := exists_selects_of_runs h hanswers
  obtain ⟨hres, hd'⟩ := Prod.mk.inj hconclude
  obtain ⟨q, hq⟩ := Option.isSome_iff_exists.mp
    (hwatched _ (Routine.mem_stretches_resumed d d' es)).2
  constructor
  · rintro id rfl
    rw [hd']
    cases best? with
    | none => exact absurd hres.symm escalate_ne_resolved
    | some c =>
        obtain ⟨w, t, hfirst, -, hc⟩ := hselects
        obtain ⟨id', hid', rfl⟩ := Candidate.exists_of_ofMembers? hc
        obtain ⟨rfl, q', hq', hvenue, hended⟩ := adopted_of_resolved hres.symm
        exact ⟨q', w, hq', hvenue, hfirst, hid', hended⟩
  · rintro rfl
    rw [hd']
    cases best? with
    | none => exact ended_escalate hq hres.symm
    | some c => exact absurd hres.symm (adopt_ne_failed o c _)
  · intro hunresolved y hy
    exact (effect_of_stretch h hy (hwatched y hy)).2 hunresolved
  · intro y hy
    exact (effect_of_stretch h hy (hwatched y hy)).1

/-- The order given is one that the book had at some time, and operations have led on from there.
Whatever a venue answers and others do meanwhile, the outcome of a resolution of the order means
what it says.  If the order was given with a confirmed venue id, nothing is asked or changed, and
the book still has this id confirmed. -/
theorem means_of_runs (hkeyed : d₀.book.Keyed) (hsnapshot : d₀.book.find? o.clientId = some o)
    (hleads : d₀.Leads d) (hanswers : ∀ x ∈ exchanges es, x.reply = venue x.request)
    (hothers : ∀ x ∈ exchanges es, x.left.Leads x.found) :
  ((Desk.resolve p o).Runs d es (.finished res) d' → Means p o venue d es res d') ∧
  ((Desk.resolveMissing p o).Runs d es (.finished res) d' →
    o.confirmedId? = none ∧ Means p o venue d es res d' ∨
    ∃ id q, o.confirmedId? = some id ∧ res = .resolved id ∧ es = [] ∧ d' = d
      ∧ d'.book.find? o.clientId = some q ∧ q.venue = .confirmed id)
  := by
  have hwatches : d.Watches o.clientId := by
    have hwatches₀ : d₀.Watches o.clientId := ⟨hkeyed, Option.isSome_of_eq_some hsnapshot⟩
    exact hwatches₀.leads hleads
  have hmeans (h : (Desk.resolve p o).Runs d es (.finished res) d') :=
    means_of_resolve hwatches h hanswers hothers
  use hmeans
  intro h
  rw [Desk.resolveMissing] at h
  cases hid : o.confirmedId? with
  | none =>
      rw [hid] at h
      exact .inl ⟨rfl, hmeans h⟩
  | some id =>
      right
      rw [hid] at h
      obtain ⟨rfl, rfl, rfl⟩ := (Routine.runs_pure _).mp h
      obtain ⟨q, hq, hbecomes⟩ := hleads.succeeds hkeyed o.clientId o hsnapshot
      have hvenue := hbecomes.confirmed id (Book.confirmedId?_eq_some.mp hid)
      exact ⟨id, q, rfl, rfl, rfl, rfl, hq, hvenue⟩

/-- The order that is searched for among two has the venue id of the entry that carries its client
id. -/
theorem means_of_runs_lookalike :
  ∃ (q : Order) (w : Offer), lookalikeRun.2.2.book.find? soughtOrder.clientId = some q
    ∧ q.venue = .confirmed ⟨"2"⟩ ∧ w.IsFirst {} soughtOrder lookalikeVenue
    ∧ ((OrderEntry.state w.entry).isTerminal = true → q.state.isTerminal = true)
  := by
  have hresolved : lookalikeRun.2.1 = .resolved ⟨"2"⟩ := by decide
  have hkeyed : soughtDesk.book.Keyed := by decide
  have hsnapshot : soughtDesk.book.find? soughtOrder.clientId = some soughtOrder := by decide
  have hothers : ∀ x ∈ exchanges lookalikeRun.1, x.left.Leads x.found := by
    intro x hx
    rw [(of_mem_lookalikeRun hx).2]
    exact .refl x.left
  obtain ⟨hmeans, -⟩ := means_of_runs hkeyed hsnapshot (.refl soughtDesk)
    (fun x hx => (of_mem_lookalikeRun hx).1) hothers
  obtain ⟨q, w, hq, hvenue, hfirst, -, hended⟩ :=
    (hmeans runs_lookalikeRun).resolved ⟨"2"⟩ hresolved
  exact ⟨q, w, hq, hvenue, hfirst, hended⟩

end VenueLink.Resolution
