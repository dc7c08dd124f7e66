import VenueLink.Proofs.Desk
import VenueLink.Proofs.Runs

/-!
# Orders given up as lost

A search gives an order up as lost when it is old enough and no listing that could be had
names it.  A listing that could not be had names nothing, so it does not hold the search back:
both listings are asked for before an order is given up, and neither has to be there.
-/

namespace VenueLink

open Routine (exchanges requests resumed)

/-! ## Entries that name an order -/

/-- The answer of an exchange is accepted, and lists an entry. -/
def Exchange.Lists {σ : Type} (x : Exchange σ) (entry : Json) : Prop :=
  ∃ result, x.outcome = .ok result ∧ entry ∈ result.entries

theorem Exchange.lists_iff {σ : Type} (x : Exchange σ) (entry : Json) :
  x.Lists entry ↔ entry ∈ Reply.entries x.outcome
  := by
  rw [Lists]
  cases x.outcome with
  | ok result => simp [Reply.entries]
  | error e => simp [Reply.entries]

/-- An entry names an order: it matches the order and carries a venue id. -/
def OrderEntry.Names (p : Policy) (o : Order) (entry : Json) : Prop :=
  ∃ members, entry.members? = some members ∧ (score o p.tolerance members).isMatch = true
    ∧ (venueId? members).isSome = true

/-- No entry says that its order has failed. -/
theorem OrderEntry.state_ne_failed (entry : Json.Members) :
  state entry ≠ .failed
  := by
  rw [state]
  cases h : firstRule? entry with
  | none => exact nofun
  | some found =>
      obtain ⟨rule, -, hrule⟩ := List.exists_of_findSome?_eq_some h
      obtain ⟨s, hs, rfl⟩ := Option.map_eq_some_iff.mp hrule
      rintro rfl
      cases rule
      all_goals
        simp only [StatusRule.derive?] at hs
        split at hs <;> cases hs

namespace Candidate

theorem ofMembers?_eq_none_iff (t : Tolerance) (o : Order) (now : Moment)
    (entry : Json.Members) :
  ofMembers? t o now entry = none
    ↔ ¬((OrderEntry.score o t entry).isMatch = true ∧ (OrderEntry.venueId? entry).isSome = true)
  := by
  cases hmatch : (OrderEntry.score o t entry).isMatch with
  | true => simp [ofMembers?, hmatch]
  | false => simp [ofMembers?, hmatch]

theorem better_ne_none (best? : Option Candidate) (c : Candidate) :
  better best? c ≠ none
  := by
  unfold better
  split
  · exact nofun
  · split <;> exact nofun

theorem eq_or_eq_of_better {best? : Option Candidate} {c c' : Candidate}
    (h : better best? c = some c') :
  best? = some c' ∨ c = c'
  := by
  unfold better at h
  split at h
  · exact .inr (Option.some.inj h)
  · split at h
    · exact .inr (Option.some.inj h)
    · exact .inl h

theorem foldl_better_eq_none_iff (cs : List Candidate) (best? : Option Candidate) :
  cs.foldl better best? = none ↔ best? = none ∧ cs = []
  := by
  induction cs generalizing best? with
  | nil => simp
  | cons c rest ih =>
      rw [List.foldl_cons, ih]
      simp [better_ne_none]

theorem eq_or_mem_of_foldl_better {cs : List Candidate} {best? : Option Candidate}
    {c : Candidate} (h : cs.foldl better best? = some c) :
  best? = some c ∨ c ∈ cs
  := by
  induction cs generalizing best? with
  | nil => exact .inl h
  | cons c' rest ih =>
      rw [List.foldl_cons] at h
      rcases ih h with hbetter | hmem
      · rcases eq_or_eq_of_better hbetter with hbest | rfl
        · exact .inl hbest
        · exact .inr List.mem_cons_self
      · exact .inr (List.mem_cons_of_mem c' hmem)

/-- There is no best candidate among entries if none was known and no entry names the
order. -/
theorem best_eq_none_iff (p : Policy) (o : Order) (now : Moment) (known? : Option Candidate)
    (entries : List Json) :
  best p.tolerance o now known? entries = none
    ↔ known? = none ∧ ∀ entry ∈ entries, ¬OrderEntry.Names p o entry
  := by
  rw [best, foldl_better_eq_none_iff, List.filterMap_eq_nil_iff]
  simp only [List.mem_filterMap, ofMembers?_eq_none_iff, OrderEntry.Names]
  apply and_congr_right
  intro _
  constructor
  · rintro h entry hentry ⟨members, hmembers, hnames⟩
    exact h members ⟨entry, hentry, hmembers⟩ hnames
  · rintro h members ⟨entry, hentry, hmembers⟩ hnames
    exact h entry hentry ⟨members, hmembers, hnames⟩

/-- No candidate that is new has failed. -/
theorem state_ne_failed_of_best {t : Tolerance} {o : Order} {now : Moment}
    {known? : Option Candidate} {entries : List Json} {c : Candidate}
    (h : best t o now known? entries = some c) :
  known? = some c ∨ c.state ≠ .failed
  := by
  apply (eq_or_mem_of_foldl_better h).imp_right
  intro hc
  obtain ⟨entry, -, hentry⟩ := List.mem_filterMap.mp hc
  unfold ofMembers? at hentry
  dsimp only at hentry
  split at hentry
  · obtain ⟨id, -, rfl⟩ := Option.map_eq_some_iff.mp hentry
    apply OrderEntry.state_ne_failed
  · cases hentry

end Candidate

namespace Resolution

variable {p : Policy} {o a b : Order} {d d' : Desk} {es : List (Event Desk)}
  {res : Resolution} {id : ClientId}

/-! ## Searches -/

/-- What a search through some listings comes to. -/
structure Searched (p : Policy) (o : Order) (listings : List Endpoint)
    (best? : Option Candidate) (d : Desk) (es : List (Event Desk))
    (found? : Option Candidate) (d' : Desk) : Prop where
  none_iff : found? = none
    ↔ best? = none ∧ ∀ x ∈ exchanges es, ∀ entry, x.Lists entry → ¬OrderEntry.Names p o entry
  requests : found? = none → requests es = listings.map (listingRequest p o)
  desk : d' = resumed d es
  state : ∀ c, found? = some c → best? = some c ∨ c.state ≠ .failed

/-- A search goes through the listings until it finds an entry that carries an id of the
order, and leaves the desk as it is. -/
theorem searched_of_runs {listings : List Endpoint} {best? found? : Option Candidate}
    (h : (search p o listings best?).Runs d es (.finished found?) d') :
  Searched p o listings best? d es found? d'
  := by
  induction listings generalizing best? d es with
  | nil =>
      obtain ⟨rfl, rfl, rfl⟩ := (Routine.runs_pure _).mp h
      exact ⟨by simp, fun _ => rfl, rfl, fun c hc => .inl hc⟩
  | cons l rest ih =>
      rw [search_cons] at h
      simp only [Routine.runs_bind, Routine.runs_fetch, Routine.runs_now] at h
      obtain ⟨_, _, _, _, rfl, ⟨x, rfl, rfl, hrequest, rfl, rfl⟩, now, _, _, after, rfl,
        ⟨rfl, rfl⟩, h⟩ := h
      have hbest := Candidate.best_eq_none_iff p o now best? (Reply.entries x.outcome)
      simp only [← Exchange.lists_iff] at hbest
      split at h
      case isTrue hexact =>
        obtain ⟨rfl, rfl, rfl⟩ := (Routine.runs_pure _).mp h
        refine ⟨by simpa using hbest, ?_, rfl, fun c => Candidate.state_ne_failed_of_best⟩
        intro hnone
        rw [hnone] at hexact
        cases hexact
      case isFalse =>
        obtain ⟨hnone, hrequests, hdesk, hstate⟩ := ih h
        refine ⟨?_, ?_, hdesk, ?_⟩
        · rw [hnone, hbest]
          simp [and_assoc]
        · intro hfound
          rw [List.map_cons, ← hrequests hfound, ← hrequest]
          rfl
        · intro c hc
          rcases hstate c hc with hknown | hne
          · exact Candidate.state_ne_failed_of_best hknown
          · exact .inr hne

/-! ## Conclusions -/

theorem adopt_ne_failed (o : Order) (c : Candidate) (d : Desk) :
  (adopt o c d).1 ≠ .failed
  := by
  unfold adopt
  split
  · exact nofun
  · split <;> exact nofun

/-- An order is given up as lost if nothing was found and it is old enough. -/
theorem conclude_eq_failed_iff (p : Policy) (o : Order) (now : Moment)
    (best? : Option Candidate) (d : Desk) :
  (conclude p o now best? d).1 = .failed
    ↔ best? = none ∧ p.lostAfter.nanos < (o.age now).nanos
  := by
  cases best? with
  | some c =>
      change (adopt o c d).1 = .failed ↔ _
      simp [adopt_ne_failed]
  | none =>
      change (escalate p o now d).1 = .failed ↔ _
      unfold escalate
      split
      case isTrue h => simp [h]
      case isFalse h => simpa using h

/-- An order that an update leaves failed had failed before, if the update carries the client
id of an order under watch and does not say that it has failed. -/
theorem state_of_propose {u : Update} (hu : u.clientId? = some o.clientId)
    (ho : d.book.find? o.clientId = some o) (hstate : u.state ≠ .failed)
    (ha : d.book.find? id = some a) (hb : (d.propose u).book.find? id = some b)
    (hfailed : b.state = .failed) :
  a.state = .failed
  := by
  change (d.book.apply u).1.find? id = some b at hb
  rw [Book.find?_apply_of_clientId hu ho] at hb
  split at hb
  case isTrue hid =>
    rw [hid, ho] at ha
    cases ha
    cases hb
    rw [Book.updated_state] at hfailed
    cases hs : o.state with
    | resting =>
        rw [hs, OrderState.after_resting] at hfailed
        exact absurd hfailed hstate
    | filled => rwa [hs, OrderState.after_of_isTerminal rfl] at hfailed
    | canceled => rwa [hs, OrderState.after_of_isTerminal rfl] at hfailed
    | failed => rfl
  case isFalse =>
    rw [ha] at hb
    cases hb
    exact hfailed

/-- An order that is failed when a candidate has been adopted had failed before, unless the
candidate has. -/
theorem state_of_adopt {c : Candidate} (hc : c.state ≠ .failed)
    (ha : d.book.find? id = some a) (hb : (adopt o c d).2.book.find? id = some b)
    (hfailed : b.state = .failed) :
  a.state = .failed
  := by
  unfold adopt at hb
  split at hb
  · cases ha.symm.trans hb
    exact hfailed
  case h_2 book hbook =>
    obtain ⟨a', ha', hstate⟩ := Book.state_of_confirm hbook ha
    rw [← hstate]
    dsimp only at hb
    split at hb
    · obtain ⟨t, -, ht, -⟩ := Book.eq_put_of_confirm hbook
      obtain ⟨t', ht', -⟩ := Book.state_of_confirm hbook ht
      have hid := Book.clientId_of_find? ht'
      rw [← hid] at ht'
      have hu : (Update.forOrder { o with venue := .confirmed c.venueId } c.state
          c.timestamp).clientId? = some t'.clientId := by
        rw [hid]
        rfl
      exact state_of_propose (d := { d with book }) hu ht' hc ha' hb hfailed
    · cases ha'.symm.trans hb
      exact hfailed

/-- An order that is failed when the conclusion of a search has been drawn had failed before, or
is given up as lost. -/
theorem state_of_conclude {best? : Option Candidate} {now : Moment}
    (hbest : ∀ c, best? = some c → c.state ≠ .failed) (ha : d.book.find? id = some a)
    (hb : (conclude p o now best? d).2.book.find? id = some b) (hfailed : b.state = .failed) :
  a.state = .failed ∨ (conclude p o now best? d).1 = .failed
  := by
  cases best? with
  | some c => exact .inl (state_of_adopt (hbest c rfl) ha hb hfailed)
  | none =>
      change (escalate p o now d).2.book.find? id = some b at hb
      change _ ∨ (escalate p o now d).1 = .failed
      unfold escalate at hb ⊢
      split at hb
      · left
        cases ha.symm.trans hb
        exact hfailed
      case isFalse h =>
        right
        rw [if_neg h]

/-! ## Orders given up -/

/-- A resolution gives its order up as lost just when no answer that was accepted lists an entry
that names the order, and the order is old enough when the search is over.  It has asked for
both listings then.  No order fails by it otherwise. -/
theorem failed_iff_of_runs (h : (Desk.resolve p o).Runs d es (.finished res) d') :
  ∃ now, es.getLast? = some (.clock now)
    ∧ (res = .failed ↔ (∀ x ∈ exchanges es, ∀ entry, x.Lists entry → ¬OrderEntry.Names p o entry)
      ∧ p.lostAfter.nanos < (o.age now).nanos)
    ∧ (res = .failed → requests es = listings.map (listingRequest p o))
    ∧ ∀ id a b, (resumed d es).book.find? id = some a → d'.book.find? id = some b →
      b.state = .failed → a.state = .failed ∨ res = .failed
  := by
  simp only [Desk.resolve, Routine.runs_bind, Routine.runs_now, Routine.runs_update] at h
  obtain ⟨best?, d₁, asked, _, rfl, hsearch, now, _, _, _, rfl, ⟨rfl, rfl⟩, rfl, rfl, rfl⟩ := h
  obtain ⟨hnone, hrequests, rfl, hstate⟩ := searched_of_runs hsearch
  have hexchanges : exchanges (asked ++ ([.clock now] ++ [])) = exchanges asked := by simp
  use now, by simp
  rw [conclude_eq_failed_iff, Routine.requests, hexchanges, hnone]
  refine ⟨by simp, fun hfailed => hrequests (hnone.mpr hfailed.1), ?_⟩
  intro id a b ha hb hfailed
  rw [← hnone, ← conclude_eq_failed_iff p o now best? (resumed d asked)]
  rw [resumed, hexchanges] at ha
  apply state_of_conclude _ ha hb hfailed
  intro c hc
  exact (hstate c hc).resolve_left (Option.some_ne_none c).symm

/-- An order is searched for half a minute after it was submitted. -/
def sampleRun (venue : VenueRequest → Reply) : List (Event Desk) × Resolution × Desk :=
  (Desk.resolve {} (.sample "c1" .unknown)).played (.ofMillis 31000) venue (fun _ d => d)
    { book := { orders := [.sample "c1" .unknown] } }

/-- A venue that has no orders. -/
def emptyVenue (_ : VenueRequest) : Reply := .ok (.object [("result", .arr [])])

/-- A venue that takes no requests. -/
def refusingVenue (_ : VenueRequest) : Reply := .error .rateLimited

/-- The order is given up when both listings are there and hold no entry. -/
theorem failed_iff_of_runs_emptyVenue :
  (sampleRun emptyVenue).2.1 = .failed
    ∧ requests (sampleRun emptyVenue).1 = listings.map (listingRequest {} (.sample "c1" .unknown))
  := by
  obtain ⟨now, -, -, hrequests, -⟩ := failed_iff_of_runs (Routine.runs_played ..)
  have hfailed : (sampleRun emptyVenue).2.1 = .failed := by decide
  exact ⟨hfailed, hrequests hfailed⟩

/-- The order is given up as well when there is no listing at all. -/
theorem failed_without_listings :
  ∃ d o es d', d.book.resting = [o] ∧ (Desk.resolve {} o).Runs d es (.finished .failed) d'
    ∧ (∀ x ∈ exchanges es, ∃ e, x.outcome = .error e)
    ∧ (d'.book.find? o.clientId).map (·.state) = some .failed
  := by
  have hfailed : (sampleRun refusingVenue).2.1 = .failed := by decide
  refine ⟨{ book := { orders := [.sample "c1" .unknown] } }, .sample "c1" .unknown,
    (sampleRun refusingVenue).1, (sampleRun refusingVenue).2.2, rfl, ?_, ?_, by decide⟩
  · rw [← hfailed]
    apply Routine.runs_played
  · intro x hx
    use .rateLimited
    rw [Exchange.outcome, (Routine.of_mem_played hx).1]
    rfl

end Resolution

end VenueLink
