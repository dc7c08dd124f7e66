import VenueLink.Order.Book
import Mathlib.Data.List.Nodup
import Mathlib.Tactic.Common

/-!
# Courses of the order book

All that ever changes a book are its four operations: an update is applied, a fill is
recorded, a venue id is confirmed, an order is put under watch.  Whatever operations are
performed one after the other, each order only becomes what its lifecycle allows, and none
is lost (`Course.succeeds`).
-/

namespace VenueLink

/-! ## What becomes of an order -/

/-- What an order under watch may become: the end it has reached, its confirmed venue id and
all that was submitted stay, and a venue id once seen does not get lost. -/
structure Order.Becomes (o o' : Order) : Prop where
  clientId : o'.clientId = o.clientId
  pair : o'.pair = o.pair
  side : o'.side = o.side
  price : o'.price = o.price
  amount : o'.amount = o.amount
  createdAt : o'.createdAt = o.createdAt
  state : o.state.isTerminal = true → o'.state = o.state
  confirmed : ∀ id, o.venue = .confirmed id → o'.venue = .confirmed id
  known : o.venue ≠ .unknown → o'.venue ≠ .unknown

namespace Order

/-- What was submitted is not touched when the venue id and the state change. -/
theorem Becomes.changed (o : Order) {venue : VenueIdentity} {state : OrderState}
    (hstate : o.state.isTerminal = true → state = o.state)
    (hconfirmed : ∀ id, o.venue = .confirmed id → venue = .confirmed id)
    (hknown : o.venue ≠ .unknown → venue ≠ .unknown) :
  o.Becomes { o with venue, state } where
  clientId := rfl
  pair := rfl
  side := rfl
  price := rfl
  amount := rfl
  createdAt := rfl
  state := hstate
  confirmed := hconfirmed
  known := hknown

theorem Becomes.refl (o : Order) :
  o.Becomes o
  := .changed o (fun _ => rfl) (fun _ h => h) fun h => h

theorem Becomes.trans {o₁ o₂ o₃ : Order} (h : o₁.Becomes o₂) (h' : o₂.Becomes o₃) :
  o₁.Becomes o₃ where
  clientId := h'.clientId.trans h.clientId
  pair := h'.pair.trans h.pair
  side := h'.side.trans h.side
  price := h'.price.trans h.price
  amount := h'.amount.trans h.amount
  createdAt := h'.createdAt.trans h.createdAt
  state ho := by
    have h₂ := h.state ho
    rw [h'.state (by rwa [h₂]), h₂]
  confirmed id ho := h'.confirmed id (h.confirmed id ho)
  known ho := h'.known (h.known ho)

/-- A venue id is confirmed by filling it in, unless another one is confirmed. -/
theorem confirm_eq_ok {o o' : Order} {id : VenueId} :
  o.confirm id = .ok o'
    ↔ (∀ id', o.venue = .confirmed id' → id' = id) ∧ o' = { o with venue := .confirmed id }
  := by
  obtain ⟨clientId, venue, pair, side, price, amount, createdAt, state⟩ := o
  cases venue with
  | unknown => simp [confirm, eq_comm]
  | unconfirmed id' => simp [confirm, eq_comm]
  | confirmed id' =>
      by_cases h : id' = id
      · simp [confirm, h, eq_comm]
      · simp [confirm, h]

theorem becomes_confirm {o o' : Order} {id : VenueId} (h : o.confirm id = .ok o') :
  o.Becomes o'
  := by
  obtain ⟨hv, rfl⟩ := confirm_eq_ok.mp h
  apply Becomes.changed
  · intro _
    rfl
  · intro id' hid'
    rw [hv id' hid']
  · exact nofun

/-- A resting order with a client id. -/
def sample (id : String) (venue : VenueIdentity) : Order where
  clientId := ⟨id⟩
  venue
  pair := ⟨"BTC", "USDT"⟩
  side := .buy
  price := .zero
  amount := .zero
  createdAt := ⟨0⟩
  state := .resting

end Order

namespace Book

/-- An update identifies an order by filling in its venue id, or not at all. -/
theorem becomes_identify (o : Order) (u : Update) :
  o.Becomes (identify o u).1
  := by
  unfold identify
  split
  · apply Order.Becomes.refl
  · split
    case h_1 o' h => apply Order.becomes_confirm h
    · apply Order.Becomes.refl

theorem becomes_updated (o : Order) (u : Update) :
  o.Becomes (updated o u).1
  := by
  apply (becomes_identify o u).trans
  apply Order.Becomes.changed
  · intro hstate
    exact OrderState.after_of_isTerminal hstate _
  · exact fun _ h => h
  · exact fun h => h

/-- A book has each order under one client id. -/
def Keyed (b : Book) : Prop := (b.orders.map (·.clientId)).Nodup

instance (b : Book) : Decidable b.Keyed :=
  inferInstanceAs (Decidable (b.orders.map (·.clientId)).Nodup)

/-- In a later book every order is still under its client id, and is what it may become. -/
def Succeeds (b b' : Book) : Prop :=
  ∀ id o, b.find? id = some o → ∃ o', b'.find? id = some o' ∧ o.Becomes o'

theorem Succeeds.refl (b : Book) :
  b.Succeeds b
  := fun _ o h => ⟨o, h, .refl o⟩

theorem Succeeds.trans {b₁ b₂ b₃ : Book} (h : b₁.Succeeds b₂) (h' : b₂.Succeeds b₃) :
  b₁.Succeeds b₃
  := by
  intro id o ho
  obtain ⟨o₂, ho₂, hb₂⟩ := h id o ho
  obtain ⟨o₃, ho₃, hb₃⟩ := h' id o₂ ho₂
  exact ⟨o₃, ho₃, hb₂.trans hb₃⟩

/-! ## Looking up orders -/

variable {b b' : Book} {o o' : Order} {id : ClientId}

theorem clientId_of_find? (h : b.find? id = some o) :
  o.clientId = id
  := by
  have := List.find?_some h
  simpa using this

theorem knownId?_of_findByVenue? {v : VenueId} (h : b.findByVenue? v = some o) :
  o.knownId? = some v
  := by
  simpa using List.find?_some h

theorem isSome_findByVenue? {v : VenueId} (ho : o ∈ b.orders) (h : o.knownId? = some v) :
  (b.findByVenue? v).isSome = true
  := by
  rw [findByVenue?, List.find?_isSome]
  exact ⟨o, ho, decide_eq_true h⟩

/-- What is found by a client id, or else by a venue id, is under watch. -/
theorem mem_of_found {id? : Option ClientId} {v? : Option VenueId}
    (h : (id?.bind b.find?).or (v?.bind b.findByVenue?) = some o) :
  o ∈ b.orders
  := by
  rcases Option.or_eq_some_iff.mp h with h | ⟨-, h⟩
  · obtain ⟨id, -, h⟩ := Option.bind_eq_some_iff.mp h
    exact List.mem_of_find?_eq_some h
  · obtain ⟨v, -, h⟩ := Option.bind_eq_some_iff.mp h
    exact List.mem_of_find?_eq_some h

theorem find?_of_mem (hb : b.Keyed) (ho : o ∈ b.orders) :
  b.find? o.clientId = some o
  := by
  obtain ⟨orders, _, _⟩ := b
  simp only [Keyed, find?] at *
  induction orders with
  | nil => cases ho
  | cons p rest ih =>
      rw [List.map_cons, List.nodup_cons] at hb
      rcases List.mem_cons.mp ho with rfl | ho
      · simp
      · have hne : p.clientId ≠ o.clientId := by
          intro h
          apply hb.1
          rw [h]
          exact List.mem_map_of_mem ho
        simp only [List.find?_cons, hne, decide_false]
        apply ih hb.2 ho

/-- The order that an update is for is under watch under its own client id. -/
theorem find?_of_target? (hb : b.Keyed) {u : Update} (h : b.target? u = some o) :
  b.find? o.clientId = some o
  := by
  unfold target? at h
  rcases Option.or_eq_some_iff.mp h with h | ⟨-, h⟩
  · obtain ⟨id, -, h⟩ := Option.bind_eq_some_iff.mp h
    rwa [clientId_of_find? h]
  · obtain ⟨id, -, h⟩ := Option.bind_eq_some_iff.mp h
    apply find?_of_mem hb (List.mem_of_find?_eq_some h)

theorem map_clientId_put (b : Book) (o : Order) :
  (b.put o).orders.map (·.clientId) = b.orders.map (·.clientId)
  := by
  simp only [put, List.map_map]
  apply List.map_congr_left
  intro p _
  simp only [Function.comp]
  split
  case isTrue h => exact h.symm
  case isFalse => rfl

theorem keyed_put (hb : b.Keyed) (o : Order) :
  (b.put o).Keyed
  := by
  rw [Keyed, map_clientId_put]
  apply hb

/-- Putting in place what an order may become leads to a later book. -/
theorem succeeds_put (ho : b.find? o.clientId = some o) (h : o.Becomes o') :
  b.Succeeds (b.put o')
  := by
  intro id p hp
  rw [find?_put, h.clientId]
  split
  case isTrue hid =>
    rw [hid, ho] at hp
    cases hp
    use o', by simp [hid, ho]
  case isFalse => exact ⟨p, hp, .refl p⟩

/-- An update changes the order that it is for, and no other. -/
theorem find?_apply (hb : b.Keyed) (u : Update) (id : ClientId) :
  (b.apply u).1.find? id
    = (b.find? id).map fun o => if b.target? u = some o then (updated o u).1 else o
  := by
  unfold apply
  split
  case h_1 hu => simp [hu]
  case h_2 p hp =>
    have hfind := find?_of_target? hb hp
    have hid := (becomes_updated p u).clientId
    dsimp only
    rw [find?_put, hid]
    split
    case isTrue h => simp [h, hfind, hp]
    case isFalse h =>
      cases ho : b.find? id with
      | none => rfl
      | some o =>
          have hne : p ≠ o := by
            rintro rfl
            exact h (clientId_of_find? ho).symm
          simp [hp, hne]

theorem target?_of_clientId {u : Update} (hu : u.clientId? = some id)
    (ho : b.find? id = some o) :
  b.target? u = some o
  := by
  simp [target?, hu, ho]

/-- An update that carries the client id of an order changes this order alone. -/
theorem find?_apply_of_clientId {u : Update} (hu : u.clientId? = some o.clientId)
    (ho : b.find? o.clientId = some o) (id : ClientId) :
  (b.apply u).1.find? id = if id = o.clientId then some (updated o u).1 else b.find? id
  := by
  rw [apply, target?_of_clientId hu ho]
  dsimp only
  rw [find?_put, (becomes_updated o u).clientId]
  split
  case isTrue h => rw [h, ho, Option.map_some]
  case isFalse => rfl

theorem updated_state (o : Order) (u : Update) :
  (updated o u).1.state = o.state.after u.state
  := by
  have h : (identify o u).1.state = o.state := by
    unfold identify
    split
    · rfl
    · split
      case h_1 o' ho =>
        rw [(Order.confirm_eq_ok.mp ho).2]
      · rfl
  change (identify o u).1.state.after u.state = _
  rw [h]

/-! ## Operations -/

/-- What may be done to a book. -/
inductive Operation where
  /-- An update is applied. -/
  | update (u : Update)
  /-- A fill is recorded. -/
  | fill (f : Fill)
  /-- The venue id of an order is confirmed. -/
  | confirm (id : ClientId) (venueId : VenueId)
  /-- An order is put under watch. -/
  | track (o : Order)

/-- The book after an operation.  A confirmation that is refused changes nothing. -/
def perform (b : Book) : Operation → Book
  | .update u => (b.apply u).1
  | .fill f => (b.record f).1
  | .confirm id venueId => match b.confirm id venueId with
    | .ok b' => b'
    | .error _ => b
  | .track o => b.track o

/-- Only an order whose client id is new is put under watch. -/
def Operation.Fits (b : Book) : Operation → Prop
  | track o => b.find? o.clientId = none
  | _ => True

theorem record_orders (b : Book) (f : Fill) :
  (b.record f).1.orders = b.orders
  := by
  unfold record
  split
  · rfl
  · split
    · rfl
    · rfl

/-- A confirmation puts in place the order that the client id names. -/
theorem eq_put_of_confirm {v : VenueId} (h : b.confirm id v = .ok b') :
  ∃ o o', b.find? id = some o ∧ o.confirm v = .ok o' ∧ b' = b.put o'
  := by
  unfold confirm at h
  split at h
  · cases h
  case h_2 o ho =>
    split at h
    case h_1 o' ho' =>
      cases h
      exact ⟨o, o', ho, ho', rfl⟩
    · cases h

/-- A confirmation leaves every order in its state. -/
theorem state_of_confirm {other : ClientId} {v : VenueId} (h : b.confirm id v = .ok b')
    (ho : b.find? other = some o) :
  ∃ o', b'.find? other = some o' ∧ o'.state = o.state
  := by
  obtain ⟨p, p', hp, hconfirm, rfl⟩ := eq_put_of_confirm h
  obtain ⟨-, rfl⟩ := Order.confirm_eq_ok.mp hconfirm
  rw [find?_put]
  split
  case isTrue hid =>
    rw [hid, clientId_of_find? hp, hp] at ho
    cases ho
    rw [hid, clientId_of_find? hp, hp]
    exact ⟨_, rfl, rfl⟩
  case isFalse => exact ⟨o, ho, rfl⟩

/-- An order whose client id is new comes after all others. -/
theorem track_of_new (h : b.find? o.clientId = none) :
  b.track o = { b with orders := b.orders ++ [o] }
  := by
  simp [track, h]

theorem succeeds_of_orders (h : b'.orders = b.orders) :
  b.Succeeds b'
  := by
  intro id o ho
  exact ⟨o, by rwa [find?, h], .refl o⟩

/-- An operation keeps the book keyed. -/
theorem keyed_perform (hb : b.Keyed) {op : Operation} (h : op.Fits b) :
  (b.perform op).Keyed
  := by
  cases op with
  | update u =>
      simp only [perform, apply]
      split
      · apply hb
      · apply keyed_put hb
  | fill f =>
      rw [Keyed, perform, record_orders]
      apply hb
  | confirm id v =>
      simp only [perform]
      split
      case h_1 b' hc =>
        obtain ⟨o, o', -, -, rfl⟩ := eq_put_of_confirm hc
        apply keyed_put hb
      · apply hb
  | track o =>
      rw [perform, track_of_new h, Keyed, List.map_append, List.nodup_append]
      use hb, List.nodup_singleton _
      intro id hid id' hid' heq
      obtain ⟨p, hp, rfl⟩ := List.mem_map.mp hid
      rw [List.map_singleton, List.mem_singleton] at hid'
      have hne := List.find?_eq_none.mp h p hp
      apply hne
      simp [heq, hid']

/-- An operation leads to a later book. -/
theorem succeeds_perform (hb : b.Keyed) {op : Operation} (h : op.Fits b) :
  b.Succeeds (b.perform op)
  := by
  cases op with
  | update u =>
      simp only [perform, apply]
      split
      · apply Succeeds.refl
      case h_2 o ho => apply succeeds_put (find?_of_target? hb ho) (becomes_updated o u)
  | fill f => apply succeeds_of_orders (record_orders b f)
  | confirm id v =>
      simp only [perform]
      split
      case h_1 b' hc =>
        obtain ⟨o, o', ho, hv, rfl⟩ := eq_put_of_confirm hc
        rw [← clientId_of_find? ho] at ho
        apply succeeds_put ho (Order.becomes_confirm hv)
      · apply Succeeds.refl
  | track o =>
      intro id p hp
      use p
      constructor
      · rw [perform, track_of_new h, find?, List.find?_append, ← find?, hp]
        rfl
      · apply Order.Becomes.refl

/-! ## Courses -/

/-- Operations that are performed one after the other lead from one book to another. -/
inductive Course : Book → List Operation → Book → Prop where
  | nil (b : Book) : Course b [] b
  | cons {b b' : Book} {ops : List Operation} (op : Operation) (hop : op.Fits b)
    (h : Course (b.perform op) ops b') :
    Course b (op :: ops) b'

/-- Some operations lead from one book to another. -/
def Leads (b b' : Book) : Prop := ∃ ops, b.Course ops b'

theorem Course.append {b₁ b₂ b₃ : Book} {ops ops' : List Operation}
    (h : b₁.Course ops b₂) (h' : b₂.Course ops' b₃) :
  b₁.Course (ops ++ ops') b₃
  := by
  induction h with
  | nil b => apply h'
  | cons op hop _ ih =>
      apply Course.cons op hop
      apply ih h'

theorem Course.keyed {ops : List Operation} (h : b.Course ops b') (hb : b.Keyed) :
  b'.Keyed
  := by
  induction h with
  | nil b => apply hb
  | cons op hop _ ih =>
      apply ih
      apply keyed_perform hb hop

/-- Whatever operations are performed, every order stays under its client id and becomes
only what it may become. -/
theorem Course.succeeds {ops : List Operation} (h : b.Course ops b') (hb : b.Keyed) :
  b.Succeeds b'
  := by
  induction h with
  | nil b => apply Succeeds.refl
  | cons op hop _ ih =>
      apply (succeeds_perform hb hop).trans
      apply ih
      apply keyed_perform hb hop

theorem Leads.refl (b : Book) :
  b.Leads b
  := ⟨[], .nil b⟩

theorem Leads.trans {b₁ b₂ b₃ : Book} (h : b₁.Leads b₂) (h' : b₂.Leads b₃) :
  b₁.Leads b₃
  := by
  obtain ⟨ops, h⟩ := h
  obtain ⟨ops', h'⟩ := h'
  exact ⟨ops ++ ops', h.append h'⟩

theorem Leads.keyed (h : b.Leads b') (hb : b.Keyed) :
  b'.Keyed
  := h.elim fun _ h => h.keyed hb

theorem Leads.succeeds (h : b.Leads b') (hb : b.Keyed) :
  b.Succeeds b'
  := h.elim fun _ h => h.succeeds hb

theorem leads_perform (op : Operation) (h : op.Fits b) :
  b.Leads (b.perform op)
  := ⟨[op], .cons op h (.nil _)⟩

theorem leads_apply (b : Book) (u : Update) :
  b.Leads (b.apply u).1
  := leads_perform (.update u) trivial

theorem leads_record (b : Book) (f : Fill) :
  b.Leads (b.record f).1
  := leads_perform (.fill f) trivial

theorem leads_confirm {v : VenueId} (h : b.confirm id v = .ok b') :
  b.Leads b'
  := by
  have := leads_perform (b := b) (.confirm id v) trivial
  rwa [perform, h] at this

end Book

end VenueLink
