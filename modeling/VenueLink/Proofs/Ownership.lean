import VenueLink.Proofs.Book

/-!
# Owners of venue ids

A confirmation looks at one order only: whether it has another confirmed id.  So the book
does not see to it that a venue id is confirmed for one order only.  It stays so just as
long as no operation confirms for an order an id that another one has.
-/

namespace VenueLink.Book

/-! ## Confirmed ids -/

/-- No two orders under watch have the same confirmed venue id. -/
def OwnedOnce (b : Book) : Prop :=
  ∀ o ∈ b.orders, ∀ o' ∈ b.orders, ∀ v, o.confirmedId? = some v → o'.confirmedId? = some v →
    o = o'

instance (b : Book) : Decidable b.OwnedOnce :=
  inferInstanceAs (Decidable (∀ o ∈ b.orders, ∀ o' ∈ b.orders, ∀ v, o.confirmedId? = some v →
    o'.confirmedId? = some v → o = o'))

/-- The confirmed venue id of the order with a client id. -/
def confirmedId? (b : Book) (id : ClientId) : Option VenueId :=
  (b.find? id).bind (·.confirmedId?)

variable {b b' : Book} {o : Order} {id : ClientId} {v : VenueId}

theorem exists_confirmedId?_iff (hb : b.Keyed) :
  b.confirmedId? id = some v ↔ ∃ o ∈ b.orders, o.clientId = id ∧ o.confirmedId? = some v
  := by
  constructor
  · intro h
    obtain ⟨o, ho, hv⟩ := Option.bind_eq_some_iff.mp h
    exact ⟨o, List.mem_of_find?_eq_some ho, clientId_of_find? ho, hv⟩
  · rintro ⟨o, ho, rfl, hv⟩
    rw [confirmedId?, find?_of_mem hb ho]
    exact hv

/-- A venue id has one owner if it belongs to one client id. -/
theorem ownedOnce_iff (hb : b.Keyed) :
  b.OwnedOnce
    ↔ ∀ id id' v, b.confirmedId? id = some v → b.confirmedId? id' = some v → id = id'
  := by
  simp only [exists_confirmedId?_iff hb]
  constructor
  · rintro h id id' v ⟨o, ho, rfl, hv⟩ ⟨o', ho', rfl, hv'⟩
    rw [h o ho o' ho' v hv hv']
  · intro h o ho o' ho' v hv hv'
    have hid := h _ _ v ⟨o, ho, rfl, hv⟩ ⟨o', ho', rfl, hv'⟩
    have hfind := find?_of_mem hb ho
    rw [hid, find?_of_mem hb ho'] at hfind
    exact (Option.some.inj hfind).symm

/-! ## Confirmations -/

/-- The confirmation that an operation brings about: of which order, and which venue id.
There is none for an order that has a confirmed id already. -/
def Operation.confirms? (b : Book) : Operation → Option (ClientId × VenueId)
  | update u => (b.target? u).bind fun o =>
    if o.confirmedId? = none then u.venueId?.map (o.clientId, ·) else none
  | fill _ => none
  | confirm id venueId => (b.find? id).bind fun o =>
    if o.confirmedId? = none then some (o.clientId, venueId) else none
  | track o => o.confirmedId?.map (o.clientId, ·)

/-- An operation confirms a venue id that an order under watch has already. -/
def Operation.Clashes (b : Book) (op : Operation) : Prop :=
  ∃ id v, op.confirms? b = some (id, v) ∧ ∃ o ∈ b.orders, o.confirmedId? = some v

/-- One of several operations, each on the book that those before it left, clashes. -/
def Clashing : Book → List Operation → Prop
  | _, [] => False
  | b, op :: ops => op.Clashes b ∨ Clashing (b.perform op) ops

/-- From one book to another the confirmed ids change by a confirmation, or not at all. -/
def ChangesBy (b b' : Book) : Option (ClientId × VenueId) → Prop
  | none => ∀ id, b'.confirmedId? id = b.confirmedId? id
  | some (id, v) => b.confirmedId? id = none
    ∧ ∀ id', b'.confirmedId? id' = if id' = id then some v else b.confirmedId? id'

theorem confirmedId?_eq_some :
  o.confirmedId? = some v ↔ o.venue = .confirmed v
  := by
  rw [Order.confirmedId?]
  cases o.venue with
  | unknown => simp [VenueIdentity.confirmed?]
  | unconfirmed id => simp [VenueIdentity.confirmed?]
  | confirmed id => simp [VenueIdentity.confirmed?]

/-- A venue id that can be confirmed becomes the confirmed one, or was it already. -/
theorem confirmedId?_of_confirm {o' : Order} (h : o.confirm v = .ok o') :
  o'.confirmedId? = o.confirmedId?.or (some v)
  := by
  obtain ⟨hv, rfl⟩ := Order.confirm_eq_ok.mp h
  change some v = o.venue.confirmed?.or (some v)
  cases hvenue : o.venue with
  | unknown => rfl
  | unconfirmed id => rfl
  | confirmed id =>
      rw [hv id hvenue]
      rfl

/-- A venue id that cannot be confirmed meets another one. -/
theorem confirmedId?_of_confirm_error {e : IdConflict} (h : o.confirm v = .error e) :
  ∃ w, o.confirmedId? = some w
  := by
  unfold Order.confirm at h
  split at h
  case h_1 id hvenue =>
    use id
    rw [Order.confirmedId?, hvenue]
    rfl
  · cases h

/-- An update confirms its venue id for an order without a confirmed one. -/
theorem confirmedId?_updated (o : Order) (u : Update) :
  (updated o u).1.confirmedId? = o.confirmedId?.or u.venueId?
  := by
  change (identify o u).1.confirmedId? = _
  unfold identify
  split
  case h_1 hu => rw [hu, Option.or_none]
  case h_2 v hu =>
    rw [hu]
    split
    case h_1 o' h => apply confirmedId?_of_confirm h
    case h_2 e h =>
      obtain ⟨w, hw⟩ := confirmedId?_of_confirm_error h
      rw [hw, Option.some_or]

/-- What is put in place of an order with an id that is confirmed if there was none changes the
confirmed ids by that confirmation. -/
theorem changesBy_put {o' : Order} {v? : Option VenueId} (ho : b.find? o.clientId = some o)
    (hid : o'.clientId = o.clientId) (hv : o'.confirmedId? = o.confirmedId?.or v?) :
  b.ChangesBy (b.put o') (if o.confirmedId? = none then v?.map (o.clientId, ·) else none)
  := by
  have hown : b.confirmedId? o.clientId = o.confirmedId? := by
    rw [confirmedId?, ho, Option.bind_some]
  have hput : ∀ id, (b.put o').confirmedId? id
      = if id = o.clientId then o'.confirmedId? else b.confirmedId? id := by
    intro id
    rw [confirmedId?, find?_put, hid]
    split
    case isTrue h =>
      rw [h, ho]
      rfl
    case isFalse => rfl
  split
  case isTrue hnone =>
    rw [hnone, Option.none_or] at hv
    cases v? with
    | none =>
        intro id
        rw [hput, hv]
        split
        case isTrue h => rw [h, hown, hnone]
        case isFalse => rfl
    | some v =>
        constructor
        · rw [hown, hnone]
        · intro id
          rw [hput, hv]
  case isFalse hsome =>
    obtain ⟨w, hw⟩ := Option.ne_none_iff_exists'.mp hsome
    rw [hw, Option.some_or] at hv
    intro id
    rw [hput, hv]
    split
    case isTrue h => rw [h, hown, hw]
    case isFalse => rfl

/-- An operation changes the confirmed ids by the confirmation that it brings about. -/
theorem changesBy_perform (hb : b.Keyed) {op : Operation} (h : op.Fits b) :
  b.ChangesBy (b.perform op) (op.confirms? b)
  := by
  cases op with
  | update u =>
      simp only [perform, apply, Operation.confirms?]
      cases hu : b.target? u with
      | none =>
          intro id
          rfl
      | some o =>
          apply changesBy_put (find?_of_target? hb hu)
          · apply (becomes_updated o u).clientId
          · apply confirmedId?_updated
  | fill f =>
      intro id
      rw [confirmedId?, find?, perform, record_orders]
      rfl
  | confirm id v =>
      simp only [perform, confirm, Operation.confirms?]
      cases ho : b.find? id with
      | none =>
          intro id
          rfl
      | some o =>
          cases hc : o.confirm v with
          | ok o' =>
              have hv := confirmedId?_of_confirm hc
              rw [← clientId_of_find? ho] at ho
              simp only [hc]
              exact changesBy_put ho (Order.becomes_confirm hc).clientId hv
          | error e =>
              obtain ⟨w, hw⟩ := confirmedId?_of_confirm_error hc
              simp only [hc]
              rw [Option.bind_some, hw, if_neg (Option.some_ne_none w)]
              intro id
              rfl
  | track o =>
      have hnone : b.confirmedId? o.clientId = none := by
        rw [confirmedId?, h, Option.bind_none]
      have htrack : ∀ id, (b.perform (.track o)).confirmedId? id
          = if id = o.clientId then o.confirmedId? else b.confirmedId? id := by
        intro id
        rw [perform, track_of_new h, confirmedId?, confirmedId?, find?, List.find?_append,
          ← find?]
        split
        case isTrue hid =>
          rw [hid, h, Option.none_or]
          simp
        case isFalse hid =>
          have hid' : o.clientId ≠ id := fun h => hid h.symm
          simp [hid']
      rw [Operation.confirms?]
      cases hv : o.confirmedId? with
      | none =>
          intro id
          rw [htrack, hv]
          split
          case isTrue hid => rw [hid, hnone]
          case isFalse => rfl
      | some v =>
          use hnone
          intro id
          rw [htrack, hv]

/-! ## One owner for each id -/

/-- A venue id has one owner after a change if it had one before and no id is confirmed that
has an owner already. -/
theorem ownedOnce_of_changesBy (hb : b.Keyed) (hb' : b'.Keyed) (hown : b.OwnedOnce)
    {c? : Option (ClientId × VenueId)} (h : b.ChangesBy b' c?) :
  b'.OwnedOnce
    ↔ ¬∃ id v, c? = some (id, v) ∧ ∃ o ∈ b.orders, o.confirmedId? = some v
  := by
  rw [ownedOnce_iff hb] at hown
  rw [ownedOnce_iff hb']
  cases c? with
  | none =>
      have hsame : ∀ id, b'.confirmedId? id = b.confirmedId? id := h
      simp only [hsame]
      constructor
      · rintro - ⟨id, v, hc, -⟩
        cases hc
      · intro _
        exact hown
  | some c =>
      obtain ⟨id, v⟩ := c
      obtain ⟨hnone, hchange⟩ := h
      have hother : ∀ id' w, id' ≠ id → b.confirmedId? id' = some w →
          b'.confirmedId? id' = some w := by
        intro id' w hne hw
        rw [hchange, if_neg hne, hw]
      have hid : b'.confirmedId? id = some v := by rw [hchange, if_pos rfl]
      constructor
      · rintro hown' ⟨_, _, ⟨⟩, o, ho, hv⟩
        have hov := (exists_confirmedId?_iff hb).mpr ⟨o, ho, rfl, hv⟩
        by_cases hne : o.clientId = id
        · rw [hne, hnone] at hov
          cases hov
        · exact hne (hown' _ _ v (hother _ v hne hov) hid)
      · intro hclash id₁ id₂ w h₁ h₂
        have hfree : ∀ id', b.confirmedId? id' ≠ some v := by
          intro id' hv
          obtain ⟨o, ho, -, hov⟩ := (exists_confirmedId?_iff hb).mp hv
          exact hclash ⟨id, v, rfl, o, ho, hov⟩
        rw [hchange] at h₁ h₂
        split at h₁
        case isTrue hid₁ =>
          cases h₁
          split at h₂
          case isTrue hid₂ => rw [hid₁, hid₂]
          case isFalse => exact absurd h₂ (hfree id₂)
        case isFalse =>
          split at h₂
          case isTrue =>
            cases h₂
            exact absurd h₁ (hfree id₁)
          case isFalse => exact hown id₁ id₂ w h₁ h₂

/-- Once a venue id has two owners it keeps them. -/
theorem OwnedOnce.of_succeeds (hb : b.Keyed) (hb' : b'.Keyed) (h : b.Succeeds b')
    (hown : b'.OwnedOnce) :
  b.OwnedOnce
  := by
  rw [ownedOnce_iff hb'] at hown
  rw [ownedOnce_iff hb]
  have hlater : ∀ id v, b.confirmedId? id = some v → b'.confirmedId? id = some v := by
    intro id v hv
    obtain ⟨o, ho, hov⟩ := Option.bind_eq_some_iff.mp hv
    obtain ⟨o', ho', hbecomes⟩ := h id o ho
    rw [confirmedId?, ho', Option.bind_some]
    rw [confirmedId?_eq_some] at hov ⊢
    apply hbecomes.confirmed v hov
  intro id id' v hid hid'
  exact hown id id' v (hlater id v hid) (hlater id' v hid')

/-- Operations leave each venue id with one owner if none of them confirms an id that has an
owner already, and only then. -/
theorem Course.ownedOnce_iff {ops : List Operation} (h : b.Course ops b') (hb : b.Keyed)
    (hown : b.OwnedOnce) :
  b'.OwnedOnce ↔ ¬b.Clashing ops
  := by
  induction h with
  | nil b => simpa [Clashing] using hown
  | @cons b b' ops op hop h ih =>
      have hkeyed := keyed_perform hb hop
      have hstep := ownedOnce_of_changesBy hb hkeyed hown (changesBy_perform hb hop)
      rw [Clashing, not_or]
      constructor
      · intro hown'
        have hmid := OwnedOnce.of_succeeds hkeyed (h.keyed hkeyed) (h.succeeds hkeyed) hown'
        exact ⟨hstep.mp hmid, (ih hkeyed hmid).mp hown'⟩
      · rintro ⟨hop', hops⟩
        exact (ih hkeyed (hstep.mpr hop')).mpr hops

end VenueLink.Book
