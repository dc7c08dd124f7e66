import VenueLink.Desk.Cancel
import VenueLink.Desk.Push
import VenueLink.Proofs.Book
import VenueLink.Proofs.Routine

/-!
# The book under the work of a desk

Messages of the user stream and the routines of a desk change its book by operations only.
For a routine that is said of each of its stretches: `Orderly`.
-/

namespace VenueLink

/-- The entries in an outcome, none when the request failed. -/
def Reply.entries : Reply → List Json
  | .ok result => result.entries
  | .error _ => []

/-- A search reads the first listing, and goes on with the others unless an id was found. -/
theorem Resolution.search_cons (p : Policy) (o : Order) (listing : Endpoint)
    (rest : List Endpoint) (best? : Option Candidate) :
  search p o (listing :: rest) best? = (do
    let reply ← .fetch (listingRequest p o listing)
    let now ← .now
    let best? := Candidate.best p.tolerance o now best? (Reply.entries reply)
    if best?.any fun best => best.score.isExact then return best?
    else search p o rest best?)
  := rfl

namespace Desk

/-- The book of a desk was led on by operations, whatever became of the rest. -/
def Leads (d d' : Desk) : Prop := d.book.Leads d'.book

theorem Leads.refl (d : Desk) :
  d.Leads d
  := Book.Leads.refl d.book

theorem Leads.trans {d₁ d₂ d₃ : Desk} (h : d₁.Leads d₂) (h' : d₂.Leads d₃) :
  d₁.Leads d₃
  := Book.Leads.trans h h'

/-! ## What happens at once -/

theorem leads_propose (u : Update) (d : Desk) :
  d.Leads (d.propose u)
  := Book.leads_apply d.book u

/-- The book has an order of a client id in a state. -/
def Stands (d : Desk) (id : ClientId) (state : OrderState) : Prop :=
  ∃ o, d.book.find? id = some o ∧ o.state = state

/-- An order for which a state is proposed comes to what the lifecycle makes of it. -/
theorem stands_propose {d : Desk} {o q : Order} (hq : d.book.find? o.clientId = some q)
    (state : OrderState) (timestamp : Moment) :
  (d.propose (.forOrder o state timestamp)).Stands o.clientId (q.state.after state)
  := by
  have hkey := Book.clientId_of_find? hq
  use (Book.updated q (.forOrder o state timestamp)).1
  constructor
  · rw [← hkey] at hq ⊢
    exact (Book.find?_apply_of_clientId (congrArg some hkey.symm) hq q.clientId).trans (if_pos rfl)
  · apply Book.updated_state

theorem leads_record (f : Fill) (d : Desk) :
  d.Leads (d.record f).2
  := by
  have h := Book.leads_record d.book f
  unfold record
  split
  case h_1 b hb =>
    rw [hb] at h
    apply h
  · apply Leads.refl

theorem leads_recordAll (fs : List Fill) (d : Desk) :
  d.Leads (recordAll fs d).2
  := by
  induction fs generalizing d with
  | nil => apply Leads.refl
  | cons f rest ih =>
      apply (leads_record f d).trans
      apply ih

theorem leads_applyOrderEntry (now : Moment) (entry : Json) (d : Desk) :
  d.Leads (d.applyOrderEntry now entry)
  := by
  unfold applyOrderEntry
  split
  case h_1 u _ => apply leads_propose
  · apply Leads.refl

theorem leads_applyOrderMessage (now : Moment) (payload : Json) (d : Desk) :
  d.Leads (d.applyOrderMessage now payload)
  := by
  unfold applyOrderMessage
  split
  case h_1 items =>
    induction items generalizing d with
    | nil => apply Leads.refl
    | cons entry rest ih =>
        apply (leads_applyOrderEntry now entry d).trans
        apply ih
  · apply leads_applyOrderEntry

theorem applyBalanceUpdate_book (raw : Json) (d : Desk) :
  (d.applyBalanceUpdate raw).2.book = d.book
  := by
  unfold applyBalanceUpdate
  split
  · rfl
  · rfl

theorem applySnapshot_book (p : Policy) (raw : Json) (d : Desk) :
  (d.applySnapshot p raw).2.book = d.book
  := by
  unfold applySnapshot
  split
  · rfl
  · rfl

/-- A message of the user stream leads the book on by operations. -/
theorem leads_applyMessage (now : Moment) (message : Json) (d : Desk) :
  d.Leads (d.applyMessage now message)
  := by
  unfold applyMessage
  split
  · apply Leads.refl
  · split
    · rw [Leads, applyBalanceUpdate_book]
      apply Book.Leads.refl
    · split
      · apply leads_applyOrderMessage
      · apply Leads.refl

theorem leads_adopt (o : Order) (c : Candidate) (d : Desk) :
  d.Leads (Resolution.adopt o c d).2
  := by
  unfold Resolution.adopt
  split
  · apply Leads.refl
  case h_2 b hb =>
    have h : d.Leads { d with book := b } := Book.leads_confirm hb
    split
    · apply h.trans
      apply leads_propose
    · apply h

theorem leads_escalate (p : Policy) (o : Order) (now : Moment) (d : Desk) :
  d.Leads (Resolution.escalate p o now d).2
  := by
  unfold Resolution.escalate
  split
  · apply Leads.refl
  · apply leads_propose

theorem leads_conclude (p : Policy) (o : Order) (now : Moment) (best? : Option Candidate)
    (d : Desk) :
  d.Leads (Resolution.conclude p o now best? d).2
  := by
  cases best? with
  | none => apply leads_escalate
  | some c => apply leads_adopt

/-! ## Routines -/

variable {α β : Type}

/-- A routine leads the book on by operations with each of its stretches. -/
def Orderly (m : Routine Desk α) : Prop :=
  ∀ x d, x.state.Leads d →
    m.Keeps (fun x _ d => x.state.Leads d) (fun x _ d => x.state.Leads d) x d

theorem orderly_pure (a : α) :
  Orderly (pure a : Routine Desk α)
  := fun _ _ h => h

theorem orderly_bind {m : Routine Desk α} {f : α → Routine Desk β} (hm : Orderly m)
    (hf : ∀ a, Orderly (f a)) :
  Orderly (m >>= f)
  := by
  intro x d h
  rw [Routine.keeps_bind]
  apply (hm x d h).imp
  intro x a d h
  apply hf a x d h

theorem orderly_map {m : Routine Desk α} (f : α → β) (hm : Orderly m) :
  Orderly (f <$> m)
  := by
  intro x d h
  rw [Routine.keeps_map]
  apply hm x d h

theorem orderly_state :
  Orderly Routine.state
  := fun _ _ h => h

theorem orderly_now :
  Orderly Routine.now
  := fun _ _ h _ => h

theorem orderly_modify {f : Desk → Desk} (hf : ∀ d : Desk, d.Leads (f d)) :
  Orderly (.modify f)
  := fun _ d h => h.trans (hf d)

theorem orderly_update {f : Desk → α × Desk} (hf : ∀ d : Desk, d.Leads (f d).2) :
  Orderly (.update f)
  := fun _ d h => h.trans (hf d)

theorem orderly_fetch (r : VenueRequest) :
  Orderly (.fetch r)
  := by
  intro x d h
  rw [Routine.keeps_fetch]
  use h
  intro reply d'
  apply Leads.refl

/-- While it searches, a desk does nothing but ask for listings. -/
theorem keeps_search {pause : Routine.Origin Desk → VenueRequest → Desk → Prop}
    {goal : Routine.Origin Desk → Option Candidate → Desk → Prop} {x : Routine.Origin Desk}
    {d : Desk} (p : Policy) (o : Order) (listings : List Endpoint) (best? : Option Candidate)
    (hfirst : ∀ l ∈ listings, pause x (Resolution.listingRequest p o l) d)
    (hnext : ∀ l l' (reply : Reply) d, l ∈ listings → l' ∈ listings →
      pause ⟨d, (Resolution.listingRequest p o l, reply)⟩ (Resolution.listingRequest p o l') d)
    (hnone : listings = [] → goal x best? d)
    (hlast : ∀ l (reply : Reply) best? d, l ∈ listings →
      goal ⟨d, (Resolution.listingRequest p o l, reply)⟩ best? d) :
  (Resolution.search p o listings best?).Keeps pause goal x d
  := by
  induction listings generalizing x d best? with
  | nil => exact hnone rfl
  | cons l rest ih =>
      rw [Resolution.search_cons, Routine.keeps_bind, Routine.keeps_fetch]
      use hfirst l List.mem_cons_self
      intro reply d'
      rw [Routine.keeps_bind, Routine.keeps_now]
      intro now
      dsimp only
      split
      · exact hlast l reply _ d' List.mem_cons_self
      · apply ih
        · intro l' hl'
          apply hnext l l' reply d' List.mem_cons_self (List.mem_cons_of_mem l hl')
        · intro l₁ l₂ reply d h₁ h₂
          apply hnext l₁ l₂ reply d (List.mem_cons_of_mem l h₁) (List.mem_cons_of_mem l h₂)
        · intro _
          apply hlast l reply _ d' List.mem_cons_self
        · intro l' reply best? d hl'
          apply hlast l' reply best? d (List.mem_cons_of_mem l hl')

/-- A resolution asks for listings, and draws its conclusion at once when the answer to the
last one comes. -/
theorem keeps_resolve {pause : Routine.Origin Desk → VenueRequest → Desk → Prop}
    {goal : Routine.Origin Desk → Resolution → Desk → Prop} {x : Routine.Origin Desk}
    {d : Desk} (p : Policy) (o : Order)
    (hfirst : ∀ l ∈ Resolution.listings, pause x (Resolution.listingRequest p o l) d)
    (hnext : ∀ l l' (reply : Reply) d, l ∈ Resolution.listings → l' ∈ Resolution.listings →
      pause ⟨d, (Resolution.listingRequest p o l, reply)⟩ (Resolution.listingRequest p o l') d)
    (hlast : ∀ l (reply : Reply) now best? d, l ∈ Resolution.listings →
      goal ⟨d, (Resolution.listingRequest p o l, reply)⟩
        (Resolution.conclude p o now best? d).1 (Resolution.conclude p o now best? d).2) :
  (resolve p o).Keeps pause goal x d
  := by
  rw [resolve, Routine.keeps_bind]
  apply keeps_search p o Resolution.listings none hfirst hnext
  · intro h
    cases h
  · intro l reply best? d hl
    rw [Routine.keeps_bind, Routine.keeps_now]
    intro now
    apply hlast l reply now best? d hl

theorem orderly_resolve (p : Policy) (o : Order) :
  Orderly (resolve p o)
  := by
  intro x d h
  apply keeps_resolve
  · intro l _
    apply h
  · intro l l' reply d _ _
    apply Leads.refl
  · intro l reply now best? d _
    apply leads_conclude

theorem orderly_resolveMissing (p : Policy) (o : Order) :
  Orderly (resolveMissing p o)
  := by
  unfold resolveMissing
  split
  · apply orderly_pure
  · apply orderly_resolve

theorem orderly_refreshBalances (p : Policy) :
  Orderly (refreshBalances p)
  := by
  apply orderly_bind (orderly_fetch _)
  rintro (e | raw)
  · apply orderly_pure
  · apply orderly_bind
    · apply orderly_update
      intro d
      rw [Leads, applySnapshot_book]
      apply Book.Leads.refl
    · intro n
      apply orderly_pure

theorem orderly_detail (endpoint : Endpoint) (o : Order) (id : VenueId) :
  Orderly (detail endpoint o id)
  := by
  apply orderly_bind (orderly_fetch _)
  rintro (e | result)
  · dsimp only
    split
    · apply orderly_pure
    · apply orderly_pure
  · apply orderly_pure

theorem orderly_anyDetail (o : Order) (id : VenueId) :
  Orderly (anyDetail o id)
  := by
  apply orderly_bind (orderly_detail _ o id)
  intro found
  split
  · apply orderly_detail
  · apply orderly_pure

theorem orderly_pollStatus (p : Policy) (o : Order) :
  Orderly (pollStatus p o)
  := by
  apply orderly_bind (orderly_resolveMissing p o)
  intro resolution
  split
  · apply orderly_bind (orderly_anyDetail o _)
    intro found
    split
    · apply orderly_pure
    · apply orderly_bind (orderly_resolve p o)
      intro resolution
      apply orderly_pure
    · apply orderly_bind orderly_now
      intro now
      apply orderly_bind (orderly_modify (leads_propose _))
      intro done
      apply orderly_pure
  · apply orderly_pure

theorem orderly_pollFills (o : Order) :
  Orderly (pollFills o)
  := by
  unfold pollFills
  split
  · apply orderly_pure
  · apply orderly_bind (orderly_fetch _)
    rintro (e | result)
    · apply orderly_pure
    · apply orderly_bind orderly_now
      intro now
      apply orderly_bind (orderly_update (leads_recordAll _))
      intro fresh
      apply orderly_pure

theorem orderly_pollEach (p : Policy) (orders : List Order) :
  Orderly (pollEach p orders)
  := by
  induction orders with
  | nil => apply orderly_pure
  | cons o rest ih =>
      apply orderly_bind (orderly_pollFills o)
      intro fills
      apply orderly_bind (orderly_pollStatus p o)
      intro status
      apply ih

theorem orderly_sweep (p : Policy) :
  Orderly (sweep p)
  := by
  apply orderly_bind orderly_state
  intro d
  apply orderly_pollEach

theorem leads_markCanceled (o : Order) (now : Moment) (d : Desk) :
  d.Leads (d.markCanceled o now)
  := leads_propose _ d

theorem orderly_submitCancel (o : Order) (id : VenueId) :
  Orderly (submitCancel o id)
  := by
  apply orderly_bind (orderly_fetch _)
  intro reply
  apply orderly_bind orderly_now
  intro now
  have hmark : Orderly (do
      .modify (markCanceled o now)
      return .ok () : Routine Desk (Except CancelError Unit)) := by
    apply orderly_bind (orderly_modify (leads_markCanceled o now))
    intro done
    apply orderly_pure
  split
  · apply hmark
  · split
    · apply hmark
    · apply orderly_pure

theorem orderly_cancelOrder (p : Policy) (o : Order) :
  Orderly (cancelOrder p o)
  := by
  apply orderly_bind orderly_state
  intro d
  dsimp only
  split
  · apply orderly_pure
  · apply orderly_bind (orderly_resolveMissing p _)
    intro resolution
    split
    · apply orderly_bind orderly_state
      intro d'
      split
      · apply orderly_pure
      · apply orderly_submitCancel
    · apply orderly_pure

end Desk

end VenueLink
