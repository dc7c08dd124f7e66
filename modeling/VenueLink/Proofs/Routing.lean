import VenueLink.Proofs.Book

/-!
# Where updates go

An update goes to an order that it names: to the one of its client id if that is under watch,
and else to one that holds its venue id.  So it finds an order just when it names one under watch
by any of its ids.  Of the whole book it then changes what is known of the venue id of that order
and the state of that order, and nothing else.
-/

namespace VenueLink

/-- What is known of a venue id after one was told: the one told is confirmed, unless one is
already. -/
def VenueIdentity.told : VenueIdentity → Option VenueId → VenueIdentity
  | confirmed id, _ => confirmed id
  | _, some id => confirmed id
  | v, none => v

theorem Update.references_iff {u : Update} {o : Order} :
  u.references o = true
    ↔ u.clientId? = some o.clientId ∨ ∃ v, u.venueId? = some v ∧ o.knownId? = some v
  := by
  cases hv : u.venueId? with
  | none => simp [references, hv]
  | some v => simp [references, hv, eq_comm (a := some v)]

namespace Book

variable {b : Book} {o p : Order} {u : Update}

/-! ## Targets -/

/-- The client id of an order comes before the venue id of any. -/
theorem target?_eq_some_iff :
  b.target? u = some o
    ↔ (∃ id, u.clientId? = some id ∧ b.find? id = some o)
      ∨ u.clientId?.bind b.find? = none ∧ ∃ v, u.venueId? = some v ∧ b.findByVenue? v = some o
  := by
  simp [target?, Option.or_eq_some_iff, Option.bind_eq_some_iff]

theorem mem_of_target? (h : b.target? u = some o) :
  o ∈ b.orders
  := mem_of_found h

/-- An update is for an order that it names. -/
theorem references_of_target? (h : b.target? u = some o) :
  u.references o = true
  := by
  rw [Update.references_iff]
  rcases target?_eq_some_iff.mp h with ⟨id, hid, h⟩ | ⟨-, v, hv, h⟩
  · left
    rw [clientId_of_find? h, hid]
  · right
    exact ⟨v, hv, knownId?_of_findByVenue? h⟩

/-- An update that names an order under watch is for one. -/
theorem isSome_target?_of_references (ho : o ∈ b.orders) (h : u.references o = true) :
  (b.target? u).isSome = true
  := by
  rw [target?, Option.isSome_or, Bool.or_eq_true]
  rcases Update.references_iff.mp h with hid | ⟨v, hv, hknown⟩
  · left
    rw [hid, Option.bind_some, find?, List.find?_isSome]
    exact ⟨o, ho, by simp⟩
  · right
    rw [hv, Option.bind_some]
    exact isSome_findByVenue? ho hknown

theorem target?_eq_none_iff (b : Book) (u : Update) :
  b.target? u = none ↔ ∀ o ∈ b.orders, u.references o = false
  := by
  constructor
  · intro hnone o ho
    by_contra h
    have hsome := isSome_target?_of_references ho ((Bool.not_eq_false _).mp h)
    rw [hnone] at hsome
    cases hsome
  · intro h
    cases htarget : b.target? u with
    | none => rfl
    | some o =>
        have hnamed := references_of_target? htarget
        rw [h o (mem_of_target? htarget)] at hnamed
        cases hnamed

/-- There is no verdict just when there is no order that the update is for. -/
theorem verdict_eq_none_iff (b : Book) (u : Update) :
  (b.apply u).2 = none ↔ b.target? u = none
  := by
  unfold apply
  split
  case h_1 hnone => simp [hnone]
  case h_2 o ho => simp [ho]

/-! ## Changes -/

theorem identify_eq (o : Order) (u : Update) :
  (identify o u).1 = { o with venue := o.venue.told u.venueId? }
  := by
  obtain ⟨_, venue, _, _, _, _, _, _⟩ := o
  unfold identify
  cases hv : u.venueId? with
  | none => cases venue <;> rfl
  | some v =>
      cases venue with
      | unknown => rfl
      | unconfirmed w => rfl
      | confirmed w => by_cases h : w = v <;> simp [Order.confirm, VenueIdentity.told, h]

/-- An update changes what is known of the venue id of an order, and the state. -/
theorem updated_eq (o : Order) (u : Update) :
  (updated o u).1 = { o with venue := o.venue.told u.venueId?, state := o.state.after u.state }
  := by
  change { (identify o u).1 with state := (identify o u).1.state.after u.state } = _
  rw [identify_eq]

/-- In a book that has each order under one client id, only the order of this client id is
replaced. -/
theorem put_eq (hb : b.Keyed) (ho : o ∈ b.orders) (hp : p.clientId = o.clientId) :
  b.put p = { b with orders := b.orders.map fun q => if q = o then p else q }
  := by
  rw [put]
  congr 1
  apply List.map_congr_left
  intro q hq
  have hsame : q.clientId = p.clientId ↔ q = o := by
    constructor
    · intro h
      exact List.inj_on_of_nodup_map hb hq ho (h.trans hp)
    · rintro rfl
      exact hp.symm
  simp only [hsame]

/-- An update has no verdict just when it names no order under watch, and then it changes nothing.
Otherwise it goes to one order that it names, which is the one of its client id if that is under
watch, and all that it changes in the book is what is known of the venue id of this order, and the
state of this order. -/
theorem changes_of_apply (hb : b.Keyed) (u : Update) :
  ((b.apply u).2 = none ↔ ∀ o ∈ b.orders, u.references o = false)
    ∧ ((b.apply u).2 = none → (b.apply u).1 = b)
    ∧ ((b.apply u).2 ≠ none → ∃ o ∈ b.orders, u.references o = true
      ∧ (∀ p ∈ b.orders, u.clientId? = some p.clientId → o = p)
      ∧ (b.apply u).1 = { b with
          orders := b.orders.map fun p =>
            if p = o then
              { o with venue := o.venue.told u.venueId?, state := o.state.after u.state }
            else p })
  := by
  rw [Ne, verdict_eq_none_iff]
  refine ⟨target?_eq_none_iff b u, fun hnone => by rw [apply, hnone], fun hsome => ?_⟩
  obtain ⟨o, htarget⟩ := Option.ne_none_iff_exists'.mp hsome
  refine ⟨o, mem_of_target? htarget, references_of_target? htarget, ?_, ?_⟩
  · intro p hp hid
    have hfind := target?_of_clientId hid (find?_of_mem hb hp)
    exact Option.some.inj (htarget.symm.trans hfind)
  · rw [apply, htarget, ← updated_eq]
    exact put_eq hb (mem_of_target? htarget) (becomes_updated o u).clientId

/-- An update that names one order by its client id and another one by its venue id. -/
def conflictingUpdate : Update :=
  ⟨some ⟨"a"⟩, some ⟨"2"⟩, ⟨"BTC", "USDT"⟩, .filled, ⟨0⟩, .inl rfl⟩

/-- A book with both orders, and a third one. -/
def namedBook : Book :=
  { orders := [.sample "b" (.confirmed ⟨"2"⟩), .sample "a" (.unconfirmed ⟨"1"⟩),
      .sample "c" .unknown] }

/-- The order of the client id takes over the state, and the venue id of the other one. -/
theorem changes_of_apply_conflictingUpdate :
  namedBook.Keyed ∧ (namedBook.apply conflictingUpdate).2 ≠ none
    ∧ (namedBook.apply conflictingUpdate).1.orders
      = [.sample "b" (.confirmed ⟨"2"⟩),
        { Order.sample "a" (.confirmed ⟨"2"⟩) with state := .filled }, .sample "c" .unknown]
  := by
  have hkeyed : namedBook.Keyed := by decide
  have hverdict : (namedBook.apply conflictingUpdate).2 ≠ none := by decide
  obtain ⟨-, -, hchanges⟩ := changes_of_apply hkeyed conflictingUpdate
  obtain ⟨o, -, -, hclient, happly⟩ := hchanges hverdict
  have ho := hclient (.sample "a" (.unconfirmed ⟨"1"⟩)) (by decide) rfl
  refine ⟨hkeyed, hverdict, ?_⟩
  rw [happly, ho]
  decide

end Book

end VenueLink
