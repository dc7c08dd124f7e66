import VenueLink.Proofs.Desk

/-!
# Single cancels

What a single cancel brings about with each of its stretches: an answer that grants the
cancel ends it at once with success, and a success leaves the order as the lifecycle has it
after a proposal to be canceled.
-/

namespace VenueLink

/-- The answer to a request grants a single cancel: the venue accepts it, or says that there
is no such order. -/
def VenueRequest.Grants (r : VenueRequest) (reply : Reply) : Prop :=
  r.endpoint = .cancel ∧ ∀ e, r.outcome reply = .error e → e.isMissingOrder = true

/-- A stretch began with an answer that grants a single cancel. -/
def Routine.Origin.Granted {σ : Type} (x : Routine.Origin σ) : Prop :=
  ∃ r reply, x.answered? = some (r, reply) ∧ r.Grants reply

/-- From one book to another an order came to what the lifecycle makes of it when it is
proposed to be canceled. -/
def Book.EndsCanceled (b b' : Book) (id : ClientId) : Prop :=
  b.Keyed → ∀ o, b.find? id = some o →
    ∃ o', b'.find? id = some o' ∧ o'.state = o.state.after .canceled

theorem OrderState.after_canceled_of_eq {s s' : OrderState} (h : s' = .canceled)
    (hs : s.isTerminal = true → s' = s) :
  s' = s.after .canceled
  := by
  cases s with
  | resting => exact h
  | filled => cases h.symm.trans (hs rfl)
  | canceled => exact h
  | failed => cases h.symm.trans (hs rfl)

/-- A proposal to be canceled ends an order in any case. -/
theorem OrderState.isTerminal_after_canceled (s : OrderState) :
  (s.after .canceled).isTerminal = true
  := by
  cases s with
  | resting => rfl
  | filled => rfl
  | canceled => rfl
  | failed => rfl

/-- A proposal to be canceled is followed unless the order has ended otherwise. -/
theorem OrderState.after_canceled_eq_iff (s : OrderState) :
  s.after .canceled = .canceled ↔ s ≠ .filled ∧ s ≠ .failed
  := by
  cases s with
  | resting => decide
  | filled => decide
  | canceled => decide
  | failed => decide

namespace Desk

/-! ## Marking orders canceled -/

/-- Marking an order canceled proposes that to one order, which is the order itself if it is
under watch. -/
theorem state_markCanceled {d : Desk} {o p : Order} {id : ClientId} (now : Moment)
    (hd : d.book.Keyed) (hp : d.book.find? id = some p) :
  ∃ p', (d.markCanceled o now).book.find? id = some p'
    ∧ (p'.state = p.state ∨ p'.state = p.state.after .canceled)
    ∧ (o.clientId = id → p'.state = p.state.after .canceled)
  := by
  have h := Book.find?_apply hd (.forOrder o .canceled now) id
  rw [hp, Option.map_some] at h
  refine ⟨_, h, ?_⟩
  split
  case isTrue =>
    rw [Book.updated_state]
    exact ⟨.inr rfl, fun _ => rfl⟩
  case isFalse hne =>
    use .inl rfl
    rintro rfl
    exact absurd (Book.target?_of_clientId rfl hp) hne

theorem endsCanceled_markCanceled (o : Order) (now : Moment) (d : Desk) :
  d.book.EndsCanceled (d.markCanceled o now).book o.clientId
  := by
  intro hd p hp
  obtain ⟨p', hp', -, h⟩ := state_markCanceled now hd hp
  exact ⟨p', hp', h rfl⟩

/-! ## Canceling an order -/

variable {d : Desk} {x : Routine.Origin Desk}

@[simp]
theorem current_clientId (d : Desk) (o : Order) :
  (d.current o).clientId = o.clientId
  := by
  unfold current
  cases h : d.book.find? o.clientId with
  | none => rfl
  | some p => apply Book.clientId_of_find? h

theorem current_current (d : Desk) (o : Order) :
  d.current (d.current o) = d.current o
  := by
  rw [current, current_clientId]
  unfold current
  cases d.book.find? o.clientId with
  | none => rfl
  | some p => rfl

/-- An order that is seen to be canceled has come to be so from whatever it was. -/
theorem endsCanceled_of_settled? {o : Order} (hx : x.state.Leads d)
    (h : settled? (d.current o) = some (.ok ())) :
  x.state.book.EndsCanceled d.book o.clientId
  := by
  intro hb p hp
  obtain ⟨p', hp', hbecomes⟩ := hx.succeeds hb o.clientId p hp
  use p', hp'
  apply OrderState.after_canceled_of_eq _ hbecomes.state
  rw [current, hp', Option.getD_some] at h
  unfold settled? at h
  split at h
  · cases h
  case h_2 hs => exact hs
  · cases h

/-- What a single cancel brings about with a stretch that ends at a question: no answer that
grants it has come. -/
def cancelPause (x : Routine.Origin Desk) (_ : VenueRequest) (d : Desk) : Prop :=
  x.state.Leads d ∧ ¬x.Granted

/-- What the single cancel of an order brings about in the end: it succeeds if it was granted,
and after a success the order has come to what it is when it is proposed to be canceled. -/
def cancelGoal (id : ClientId) (x : Routine.Origin Desk) (result : Except CancelError Unit)
    (d : Desk) : Prop :=
  x.state.Leads d ∧ (x.Granted → result = .ok ())
    ∧ (result = .ok () → x.state.book.EndsCanceled d.book id)

theorem cancelGoal_error {id : ClientId} (e : CancelError) (hx : x.state.Leads d)
    (hg : ¬x.Granted) :
  cancelGoal id x (.error e) d
  := ⟨hx, fun h => absurd h hg, nofun⟩

theorem cancelGoal_settled? {o : Order} {result : Except CancelError Unit}
    (hx : x.state.Leads d) (hg : ¬x.Granted) (h : settled? (d.current o) = some result) :
  cancelGoal o.clientId x result d
  := by
  use hx, fun h' => absurd h' hg
  rintro rfl
  apply endsCanceled_of_settled? hx h

theorem keeps_submitCancel (o : Order) (id : VenueId) (hx : x.state.Leads d)
    (hg : ¬x.Granted) :
  (submitCancel o id).Keeps cancelPause (cancelGoal o.clientId) x d
  := by
  rw [submitCancel, Routine.keeps_bind, Routine.keeps_fetch]
  use ⟨hx, hg⟩
  intro reply d'
  rw [Routine.keeps_bind, Routine.keeps_now]
  intro now
  have hmark : ∀ x : Routine.Origin Desk, x.state = d' →
      cancelGoal o.clientId x (.ok ()) (d'.markCanceled o now) := by
    rintro x rfl
    use leads_markCanceled o now x.state, fun _ => rfl
    intro _
    apply endsCanceled_markCanceled
  split
  case h_1 => apply hmark _ rfl
  case h_2 e he =>
    cases hmissing : e.isMissingOrder with
    | true =>
        rw [if_pos rfl]
        apply hmark _ rfl
    | false =>
        rw [if_neg Bool.false_ne_true]
        apply cancelGoal_error _ (Leads.refl d')
        rintro ⟨r, reply', h, -, hgrants⟩
        cases h
        rw [hgrants e he] at hmissing
        cases hmissing

theorem not_granted_of_listing {l : Endpoint} (hl : l ∈ Resolution.listings) (p : Policy)
    (o : Order) (reply : Reply) (d : Desk) :
  ¬(⟨d, (Resolution.listingRequest p o l, reply)⟩ : Routine.Origin Desk).Granted
  := by
  rintro ⟨r, reply', h, hcancel, -⟩
  cases h
  change l = .cancel at hcancel
  subst hcancel
  simp [Resolution.listings] at hl

/-- What a single cancel does when the search for the venue's id is over. -/
theorem keeps_afterResolution (o : Order) (resolution : Resolution) (hx : x.state.Leads d)
    (hg : ¬x.Granted) :
  (match resolution with
    | .resolved id => (do
      let o := (← .state).current o
      match settled? o with
      | some result => return result
      | none => submitCancel o id : Routine Desk (Except CancelError Unit))
    | _ => return .error (.unresolved o.clientId)).Keeps cancelPause (cancelGoal o.clientId) x d
  := by
  split
  case h_1 id =>
    rw [Routine.keeps_bind, Routine.keeps_state]
    dsimp only
    split
    case h_1 result h => apply cancelGoal_settled? hx hg h
    case h_2 =>
      rw [← current_clientId d o]
      apply keeps_submitCancel _ id hx hg
  · apply cancelGoal_error _ hx hg

/-- A single cancel that begins in a state keeps to what its stretches are to bring about. -/
theorem keeps_cancelOrder (p : Policy) (o : Order) (d : Desk) :
  (cancelOrder p o).Keeps cancelPause (cancelGoal o.clientId) ⟨d, none⟩ d
  := by
  have hg : ¬(⟨d, none⟩ : Routine.Origin Desk).Granted := nofun
  rw [cancelOrder, Routine.keeps_bind, Routine.keeps_state]
  dsimp only
  split
  case h_1 result h => apply cancelGoal_settled? (Leads.refl d) hg h
  case h_2 =>
    rw [Routine.keeps_bind, ← current_clientId d o]
    unfold resolveMissing
    split
    case h_1 id _ => apply keeps_afterResolution _ (.resolved id) (Leads.refl d) hg
    case h_2 =>
      apply keeps_resolve
      · intro l _
        exact ⟨Leads.refl d, hg⟩
      · intro l l' reply d' hl _
        exact ⟨Leads.refl d', not_granted_of_listing hl p _ reply d'⟩
      · intro l reply now best? d' hl
        apply keeps_afterResolution
        · apply leads_conclude
        · apply not_granted_of_listing hl

/-! ## Sent cancels -/

/-- What a cancel that was sent goes on with when its answer comes. -/
def answeredCancel (o : Order) (outcome : Reply) : Routine Desk (Except CancelError Unit) := do
  let now ← .now
  match outcome with
  | .ok _ =>
    .modify (markCanceled o now)
    return .ok ()
  | .error e =>
    if e.isMissingOrder then
      .modify (markCanceled o now)
      return .ok ()
    else return .error (.rejected o.clientId e)

theorem submitCancel_eq (o : Order) (id : VenueId) :
  submitCancel o id = .ask (orderRequest .cancel o id) fun reply =>
    answeredCancel o ((orderRequest .cancel o id).outcome reply)
  := by
  rw [submitCancel, Routine.fetch_eq]
  rfl

/-- The cancel of a resting order with a confirmed venue id is sent at once. -/
theorem reaches_cancelOrder (p : Policy) {o : Order} {id : VenueId}
    (hrests : (d.current o).state = .resting) (hid : (d.current o).confirmedId? = some id) :
  (cancelOrder p o).Reaches d (.asking (orderRequest .cancel (d.current o) id) fun reply =>
    answeredCancel (d.current o) ((orderRequest .cancel (d.current o) id).outcome reply)) d
  := by
  have hsettled : settled? (d.current o) = none := by rw [settled?, hrests]
  change Routine.Reaches (match settled? (d.current o) with
    | some result => return result
    | none => _) d _ d
  rw [hsettled]
  dsimp only
  rw [resolveMissing, hid]
  change Routine.Reaches (match settled? (d.current (d.current o)) with
    | some result => return result
    | none => submitCancel (d.current (d.current o)) id) d _ d
  rw [current_current, hsettled]
  dsimp only
  rw [submitCancel_eq]
  exact ⟨rfl, rfl⟩

/-- A cancel that is granted marks the order canceled at once. -/
theorem reaches_answeredCancel (o : Order) {outcome : Reply} (now : Moment)
    (h : ∀ e, outcome = .error e → e.isMissingOrder = true) :
  (answeredCancel o outcome).Reaches d (.finished (.ok ())) (d.markCanceled o now)
  := by
  cases outcome with
  | ok result => exact ⟨now, rfl, rfl⟩
  | error e =>
      simp only [answeredCancel, h e rfl, if_true]
      exact ⟨now, rfl, rfl⟩

/-- A cancel that is refused changes nothing. -/
theorem reaches_answeredCancel_error (o : Order) {e : VenueError}
    (h : e.isMissingOrder = false) :
  (answeredCancel o (.error e)).Reaches d (.finished (.error (.rejected o.clientId e))) d
  := by
  simp only [answeredCancel, h, Bool.false_eq_true, if_false]
  exact ⟨⟨0⟩, rfl, rfl⟩

end Desk

end VenueLink
