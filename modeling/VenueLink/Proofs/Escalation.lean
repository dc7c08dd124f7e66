import VenueLink.Proofs.Resolution

/-!
# Orders confirmed meanwhile

A search gives an order up as lost by the age of the order that it was given and by the listings
that it could have.  It does not look at the book once more, so an order whose venue id was
confirmed while the listings were asked for is given up all the same.
-/

namespace VenueLink.Resolution

open Routine (exchanges resumed)

variable {p : Policy} {o a b : Order} {d d' : Desk} {es : List (Event Desk)} {res : Resolution}
  {now : Moment}

/-- An update of a state without a venue id changes the state alone. -/
theorem updated_forOrder (ho : o.confirmedId? = none) (s : OrderState) :
  (Book.updated a (.forOrder o s now)).1 = { a with state := a.state.after s }
  := by
  simp [Book.updated, Book.identify, Update.forOrder, ho]

/-- An order that is old enough fails when it was not found, whatever the book has for its
venue id. -/
theorem find?_escalate (ho : o.confirmedId? = none) (ha : d.book.find? o.clientId = some a)
    (hopen : a.state = .resting) (hold : p.lostAfter.nanos < (o.age now).nanos) :
  (escalate p o now d).2.book.find? o.clientId = some { a with state := .failed }
  := by
  have hid := Book.clientId_of_find? ha
  have hfind : d.book.find? a.clientId = some a := by rwa [hid]
  have hu : (Update.forOrder o .failed now).clientId? = some a.clientId := by
    rw [hid]
    rfl
  rw [escalate, if_neg (Nat.not_le.mpr hold)]
  change (d.book.apply (.forOrder o .failed now)).1.find? o.clientId = _
  rw [Book.find?_apply_of_clientId hu hfind, if_pos hid.symm, updated_forOrder ho, hopen,
    OrderState.after_resting]

/-- An order fails when a search is concluded just when nothing was found and the order that was
searched for is old enough; then it only fails. -/
theorem failed_of_conclude {best? : Option Candidate} (hb : d.book.Keyed)
    (hbest : ∀ c, best? = some c → c.state ≠ .failed) (ho : o.confirmedId? = none)
    (ha : d.book.find? o.clientId = some a) (hopen : a.state = .resting) :
  ∃ b, (conclude p o now best? d).2.book.find? o.clientId = some b
    ∧ (b.state = .failed ↔ best? = none ∧ p.lostAfter.nanos < (o.age now).nanos)
    ∧ (b.state = .failed → b = { a with state := .failed })
  := by
  obtain ⟨b, hfind, -⟩ := (Desk.leads_conclude p o now best? d).succeeds hb _ _ ha
  use b, hfind
  have hlost : best? = none ∧ p.lostAfter.nanos < (o.age now).nanos →
      b = { a with state := .failed } := by
    rintro ⟨rfl, hold⟩
    have hescalate := find?_escalate ho ha hopen hold
    exact Option.some.inj (hfind.symm.trans hescalate)
  have hfailed : b.state = .failed → best? = none ∧ p.lostAfter.nanos < (o.age now).nanos := by
    intro hstate
    rw [← conclude_eq_failed_iff p o now best? d]
    apply (state_of_conclude hbest ha hfind hstate).resolve_left
    rw [hopen]
    exact nofun
  refine ⟨⟨hfailed, fun h => ?_⟩, fun h => hlost (hfailed h)⟩
  rw [hlost h]

/-- The fate of an order whose venue id was not confirmed when a search for it began, and which
rests in the book when the search is over.  It fails just when no answer that was accepted lists
an entry that names the order, and the order that was searched for is old enough; a venue id that
was confirmed meanwhile stays and changes nothing about that. -/
theorem fate_of_runs (h : (Desk.resolve p o).Runs d es (.finished res) d')
    (ho : o.confirmedId? = none) (hb : (resumed d es).book.Keyed)
    (ha : (resumed d es).book.find? o.clientId = some a) (hopen : a.state = .resting) :
  ∃ now b, es.getLast? = some (.clock now) ∧ d'.book.find? o.clientId = some b
    ∧ (b.state = .failed
      ↔ (∀ x ∈ exchanges es, ∀ entry, x.Lists entry → ¬OrderEntry.Names p o entry)
        ∧ p.lostAfter.nanos < (o.age now).nanos)
    ∧ (b.state = .failed → b = { a with state := .failed })
  := by
  simp only [Desk.resolve, Routine.runs_bind, Routine.runs_now, Routine.runs_update] at h
  obtain ⟨best?, d₁, asked, _, rfl, hsearch, now, _, _, _, rfl, ⟨rfl, rfl⟩, rfl, rfl, rfl⟩ := h
  obtain ⟨hnone, -, rfl, hstate⟩ := searched_of_runs hsearch
  have hexchanges : exchanges (asked ++ ([.clock now] ++ [])) = exchanges asked := by simp
  have hbest : ∀ c, best? = some c → c.state ≠ .failed := by
    intro c hc
    exact (hstate c hc).resolve_left (Option.some_ne_none c).symm
  simp only [resumed, hexchanges] at hb ha
  obtain ⟨b, hfind, hfailed, hsame⟩ := failed_of_conclude hb hbest ho ha hopen
  refine ⟨now, b, by simp, hfind, ?_, hsame⟩
  rw [hfailed, hnone, hexchanges]
  simp

/-- A message that an order rests under some venue id. -/
def restingMessage (id venueId : String) : Json :=
  .object [("method", .str "order.update"), ("params", .object [("market", .str "BTC_USDT"),
    ("client_id", .str id), ("order_id", .str venueId), ("status", .ofNat 1)])]

/-- A desk that watches an order of which no venue id was seen. -/
def searchingDesk : Desk := { book := { orders := [.sample "c1" .unknown] } }

/-- The order is searched for half a minute after it was submitted, at a venue that has no
orders.  While the listings are asked for, a message comes that the order rests. -/
def overtakenRun : List (Event Desk) × Resolution × Desk :=
  (Desk.resolve {} (.sample "c1" .unknown)).played (.ofMillis 31000) emptyVenue
    (fun _ d => d.applyMessage ⟨0⟩ (restingMessage "c1" "7")) searchingDesk

theorem runs_overtakenRun :
  (Desk.resolve {} (.sample "c1" .unknown)).Runs searchingDesk overtakenRun.1
    (.finished overtakenRun.2.1) overtakenRun.2.2
  := Routine.runs_played ..

/-- When the search is over the order rests under the venue id that the message told. -/
theorem resumed_overtakenRun :
  (resumed searchingDesk overtakenRun.1).book = { orders := [.sample "c1" (.confirmed ⟨"7"⟩)] }
  := by
  decide

/-- The order that was confirmed meanwhile fails, and keeps its venue id. -/
theorem fate_of_runs_overtakenRun :
  overtakenRun.2.2.book.find? ⟨"c1"⟩
    = some { Order.sample "c1" (.confirmed ⟨"7"⟩) with state := .failed }
  := by
  have hfailed : (overtakenRun.2.2.book.find? ⟨"c1"⟩).map (·.state) = some .failed := by
    decide
  obtain ⟨now, b, -, hfind, -, hsame⟩ := fate_of_runs (a := .sample "c1" (.confirmed ⟨"7"⟩))
    runs_overtakenRun rfl (by rw [resumed_overtakenRun]; decide)
    (by rw [resumed_overtakenRun]; rfl) rfl
  rw [show overtakenRun.2.2.book.find? ⟨"c1"⟩ = some b from hfind] at hfailed ⊢
  rw [hsame (Option.some.inj hfailed)]

/-- An order fails although a message had confirmed its venue id before it was given up, and
although both listings could be had. -/
theorem failed_though_confirmed :
  ∃ d o es d', o.confirmedId? = none ∧ d.book.resting = [o]
    ∧ (Desk.resolve {} o).Runs d es (.finished .failed) d'
    ∧ (∀ x ∈ exchanges es, (∃ result, x.outcome = .ok result)
      ∧ ∃ now message, x.found = x.left.applyMessage now message)
    ∧ (∃ a, (resumed d es).book.find? o.clientId = some a ∧ a.venue = .confirmed ⟨"7"⟩
      ∧ a.state = .resting)
    ∧ (d'.book.find? o.clientId).map (·.state) = some .failed
  := by
  have hfailed : overtakenRun.2.1 = .failed := by decide
  refine ⟨searchingDesk, .sample "c1" .unknown, overtakenRun.1, overtakenRun.2.2, rfl, rfl, ?_,
    ?_, ?_, by decide⟩
  · rw [← hfailed]
    exact runs_overtakenRun
  · intro x hx
    obtain ⟨hreply, hfound⟩ := Routine.of_mem_played hx
    constructor
    · use .arr []
      rw [Exchange.outcome, hreply]
      rfl
    · exact ⟨⟨0⟩, restingMessage "c1" "7", hfound⟩
  · rw [resumed_overtakenRun]
    exact ⟨_, rfl, rfl, rfl⟩

end VenueLink.Resolution
