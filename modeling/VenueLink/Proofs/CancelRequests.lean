import VenueLink.Proofs.Adoption
import VenueLink.Proofs.CancelCandidates
import VenueLink.Proofs.CancelOutcome
import VenueLink.Proofs.Ownership
import VenueLink.Proofs.Sweep

/-!
# The requests of a cancel run

Whatever others do meanwhile, a request to cancel an order carries the market of the order
and a venue id that the desk holds as confirmed for it: a venue id is confirmed before it is
used, and a confirmed one stays.
-/

namespace VenueLink

open Routine (Origin exchanges)

namespace Desk

/-! ## Orders with confirmed venue ids -/

/-- The desk holds a venue id as confirmed for the order of a client id, which is on a
market. -/
def Names (d : Desk) (id : ClientId) (market : String) (venueId : VenueId) : Prop :=
  ∃ o, d.book.find? id = some o ∧ o.pair.symbol = market ∧ o.venue = .confirmed venueId

/-- A request on the way to the cancel of an order: it asks for a listing, or it cancels under a
market and a venue id that name the order. -/
def Sends (d : Desk) (id : ClientId) (r : VenueRequest) : Prop :=
  r.endpoint ∈ Resolution.listings ∨ ∃ market venueId,
    r = .of .cancel [("market", market), ("order_id", venueId.text)] ∧ d.Names id market venueId

/-- The book has each order once, and one under a client id. -/
def Watches (d : Desk) (id : ClientId) : Prop :=
  d.book.Keyed ∧ (d.book.find? id).isSome

variable {d d' : Desk} {id : ClientId}

theorem Watches.leads (h : d.Watches id) (hleads : d.Leads d') :
  d'.Watches id
  := by
  obtain ⟨hkeyed, hsome⟩ := h
  use Book.Leads.keyed hleads hkeyed
  obtain ⟨o, ho⟩ := Option.isSome_iff_exists.mp hsome
  obtain ⟨o', ho', -⟩ := Book.Leads.succeeds hleads hkeyed id o ho
  rw [ho']
  rfl

/-- What names an order goes on to name it. -/
theorem Names.leads {market : String} {venueId : VenueId} (h : d.Names id market venueId)
    (hkeyed : d.book.Keyed) (hleads : d.Leads d') :
  d'.Names id market venueId
  := by
  obtain ⟨o, ho, hmarket, hvenue⟩ := h
  obtain ⟨o', ho', hbecomes⟩ := Book.Leads.succeeds hleads hkeyed id o ho
  use o', ho'
  rw [hbecomes.pair]
  exact ⟨hmarket, hbecomes.confirmed venueId hvenue⟩

theorem Sends.leads {r : VenueRequest} (h : d.Sends id r) (hkeyed : d.book.Keyed)
    (hleads : d.Leads d') :
  d'.Sends id r
  := by
  rcases h with h | ⟨market, venueId, hr, hnames⟩
  · exact .inl h
  · exact .inr ⟨market, venueId, hr, hnames.leads hkeyed hleads⟩

/-! ## Resolutions -/

/-- A venue id that a candidate brings is confirmed when it is adopted. -/
theorem confirmed_of_adopt {o : Order} {c : Candidate} {venueId : VenueId}
    (h : (Resolution.adopt o c d).1 = .resolved venueId) :
  ∃ q, (Resolution.adopt o c d).2.book.find? o.clientId = some q
    ∧ q.venue = .confirmed venueId
  := by
  have hadopts := Resolution.adopts_adopt o c d
  rw [h] at hadopts
  cases hadopts with
  | confirmed _ _ hafter hid => exact ⟨_, hafter, hid⟩

theorem confirmed_of_conclude {p : Policy} {o : Order} {now : Moment}
    {best? : Option Candidate} {venueId : VenueId}
    (h : (Resolution.conclude p o now best? d).1 = .resolved venueId) :
  ∃ q, (Resolution.conclude p o now best? d).2.book.find? o.clientId = some q
    ∧ q.venue = .confirmed venueId
  := by
  cases best? with
  | some c => exact confirmed_of_adopt h
  | none =>
      change (Resolution.escalate p o now d).1 = _ at h
      unfold Resolution.escalate at h
      split at h
      · cases h
      · cases h

/-! ## Single cancels -/

variable {x : Origin Desk} {p : Policy} {o : Order}

/-- What a single cancel brings about with a stretch that ends at a question: the request is one
on the way to the cancel. -/
def sendsPause (id : ClientId) (x : Origin Desk) (r : VenueRequest) (d : Desk) : Prop :=
  x.state.Watches id → d.Sends id r

theorem sendsPause_listing {l : Endpoint} (hl : l ∈ Resolution.listings) (p : Policy)
    (o : Order) :
  sendsPause id x (Resolution.listingRequest p o l) d
  := fun _ => .inl hl

/-- A cancel is sent under a venue id that is confirmed for the order. -/
theorem sends_orderRequest {venueId : VenueId}
    (h : ∃ q, d.book.find? id = some q ∧ q.venue = .confirmed venueId) (ho : o.clientId = id) :
  d.Sends id (orderRequest .cancel (d.current o) venueId)
  := by
  obtain ⟨q, hq, hvenue⟩ := h
  have hcurrent : d.current o = q := by rw [current, ho, hq, Option.getD_some]
  rw [hcurrent]
  exact .inr ⟨_, venueId, rfl, q, hq, rfl, hvenue⟩

theorem keeps_submitCancel_sends {venueId : VenueId}
    (h : sendsPause id x (orderRequest .cancel o venueId) d) :
  (submitCancel o venueId).Keeps (sendsPause id) (fun _ _ _ => True) x d
  := by
  rw [submitCancel, Routine.keeps_bind, Routine.keeps_fetch]
  use h
  intro reply d'
  rw [Routine.keeps_bind, Routine.keeps_now]
  intro now
  split
  · trivial
  · split
    · trivial
    · trivial

/-- When the search for the venue's id is over, an id that was found is confirmed. -/
theorem keeps_afterResolution_sends (o : Order) (resolution : Resolution)
    (h : ∀ venueId, resolution = .resolved venueId → x.state.Watches o.clientId →
      ∃ q, d.book.find? o.clientId = some q ∧ q.venue = .confirmed venueId) :
  (match resolution with
    | .resolved id => (do
      let o := (← .state).current o
      match settled? o with
      | some result => return result
      | none => submitCancel o id : Routine Desk (Except CancelError Unit))
    | _ => return .error (.unresolved o.clientId)).Keeps (sendsPause o.clientId)
      (fun _ _ _ => True) x d
  := by
  split
  case h_1 venueId =>
    rw [Routine.keeps_bind, Routine.keeps_state]
    dsimp only
    split
    · trivial
    · apply keeps_submitCancel_sends
      exact fun hx => sends_orderRequest (h venueId rfl hx) rfl
  · trivial

/-- A single cancel asks for listings, and cancels only what names its order. -/
theorem keeps_cancelOrder_sends (p : Policy) (o : Order) (d : Desk) :
  (cancelOrder p o).Keeps (sendsPause o.clientId) (fun _ _ _ => True) ⟨d, none⟩ d
  := by
  rw [cancelOrder, Routine.keeps_bind, Routine.keeps_state]
  dsimp only
  split
  · trivial
  · rw [Routine.keeps_bind, ← current_clientId d o]
    unfold resolveMissing
    split
    case h_1 venueId hid =>
      apply keeps_afterResolution_sends (d.current o) (.resolved venueId)
      rintro _ ⟨⟩ ⟨-, hsome⟩
      obtain ⟨q, hq⟩ := Option.isSome_iff_exists.mp hsome
      rw [current_clientId] at hq ⊢
      use q, hq
      rwa [current, hq, Option.getD_some, Book.confirmedId?_eq_some] at hid
    case h_2 =>
      apply keeps_resolve
      · intro l hl
        exact sendsPause_listing hl p _
      · intro l l' reply d' _ hl'
        exact sendsPause_listing hl' p _
      · intro l reply now best? d' _
        apply keeps_afterResolution_sends (d.current o)
        exact fun venueId h _ => confirmed_of_conclude h

/-! ## Runs beside others -/

/-- The last stretch of a run begins at a desk to which operations have led, if others perform
operations as well. -/
theorem Orderly.last_of_runs {α : Type} {pause : Origin Desk → VenueRequest → Desk → Prop}
    {goal : Origin Desk → α → Desk → Prop} {m : Routine Desk α} {es : List (Event Desk)}
    {q : Routine.Pause Desk α} (hm : Orderly m) (hkeeps : m.Keeps pause goal ⟨d, none⟩ d)
    (h : m.Runs d es q d') (hothers : ∀ y ∈ exchanges es, y.left.Leads y.found) :
  ∃ z, d.Leads z.state ∧ q.Brings pause goal z d'
  := by
  obtain ⟨z, hz, hlast⟩ := hkeeps.last_of_runs h
  refine ⟨z, ?_, hlast⟩
  rcases hz with rfl | ⟨y, hy, hz⟩
  · exact Leads.refl d
  · rw [hz]
    exact ((hm.leads_of_runs h hothers).1 y hy).1.trans (hothers y hy)

/-- Wherever the single cancel of an order under watch stands, its request is one on the way to
the cancel. -/
theorem sends_of_runs {es : List (Event Desk)} {r : VenueRequest}
    {k : Reply → Routine Desk (Except CancelError Unit)} (hwatches : d.Watches o.clientId)
    (h : (cancelOrder p o).Runs d es (.asking r k) d')
    (hothers : ∀ y ∈ exchanges es, y.left.Leads y.found) :
  d'.Sends o.clientId r
  := by
  obtain ⟨z, hleads, hsends⟩ :=
    (orderly_cancelOrder p o).last_of_runs (keeps_cancelOrder_sends p o d) h hothers
  exact hsends (hwatches.leads hleads)

/-- A venue id that a resolution finds is confirmed when the resolution ends. -/
theorem confirmed_of_runs {es : List (Event Desk)} {venueId : VenueId}
    (h : (resolve p o).Runs d es (.finished (.resolved venueId)) d') :
  ∃ q, d'.book.find? o.clientId = some q ∧ q.venue = .confirmed venueId
  := by
  have hkeeps : (resolve p o).Keeps (fun _ _ _ => True)
      (fun _ resolution d => ∀ venueId, resolution = .resolved venueId →
        ∃ q, d.book.find? o.clientId = some q ∧ q.venue = .confirmed venueId) ⟨d, none⟩ d := by
    apply keeps_resolve
    · exact fun _ _ => trivial
    · exact fun _ _ _ _ _ _ => trivial
    · exact fun _ _ _ _ _ _ _ => confirmed_of_conclude
  obtain ⟨_, -, hconfirmed⟩ := hkeeps.last_of_runs h
  exact hconfirmed venueId rfl

end Desk

/-! ## Members of bulk requests -/

namespace CancelRun

variable {p : Policy} {d d' : Desk} {orders : List Order} {es : List (Event Desk)}
  {found : List (Order × Option VenueId)}

/-- A member of a bulk request is named by its market and its venue id. -/
def Named (d : Desk) (m : BulkMember) : Prop :=
  d.Names m.order.clientId m.order.pair.symbol m.venueId

/-- The orders are under watch, and were what they are given as. -/
def Kept (d : Desk) (orders : List Order) : Prop :=
  ∀ o ∈ orders, ∃ q, d.book.find? o.clientId = some q ∧ o.Becomes q

theorem Kept.leads (h : Kept d orders) (hkeyed : d.book.Keyed) (hleads : d.Leads d') :
  Kept d' orders
  := by
  intro o ho
  obtain ⟨q, hq, hbecomes⟩ := h o ho
  obtain ⟨q', hq', hbecomes'⟩ := Book.Leads.succeeds hleads hkeyed _ q hq
  exact ⟨q', hq', hbecomes.trans hbecomes'⟩

/-- An order under watch whose venue id is confirmed is named by that id. -/
theorem named_of_confirmed {o q : Order} {venueId : VenueId}
    (hq : d.book.find? o.clientId = some q) (hbecomes : o.Becomes q)
    (hvenue : q.venue = .confirmed venueId) :
  Named d ⟨o, venueId⟩
  := by
  use q, hq
  rw [hbecomes.pair]
  exact ⟨rfl, hvenue⟩

/-- The candidates for bulk requests are named when their venue ids have been found. -/
theorem named_of_finds (h : Finds p d orders es found d') (hkeyed : d.book.Keyed)
    (hkept : Kept d orders) (hothers : ∀ y ∈ exchanges es, y.left.Leads y.found) :
  d.Leads d' ∧ ∀ m ∈ candidates found, Named d' m
  := by
  induction h with
  | nil d => exact ⟨Desk.Leads.refl d, nofun⟩
  | @confirmed d d' o venueId rest es found hid h ih =>
      obtain ⟨hfirst, hrest⟩ := List.forall_mem_cons.mp hkept
      obtain ⟨hleads, hnamed⟩ := ih hkeyed hrest hothers
      use hleads
      change ∀ m ∈ (⟨o, venueId⟩ : BulkMember) :: candidates found, Named d' m
      rw [List.forall_mem_cons]
      use ?_, hnamed
      obtain ⟨q, hq, hbecomes⟩ := hfirst
      have hvenue := hbecomes.confirmed _ (Book.confirmedId?_eq_some.mp hid)
      apply (named_of_confirmed hq hbecomes hvenue).leads hkeyed hleads
  | @searched d d₁ d' o resolution rest es es' found hid hsearch h ih =>
      rw [Routine.exchanges_append, List.forall_mem_append] at hothers
      have hleads₁ := ((Desk.orderly_resolve p o).leads_of_runs hsearch hothers.1).2
      have hkeyed₁ := Book.Leads.keyed hleads₁ hkeyed
      obtain ⟨hfirst, hrest⟩ := List.forall_mem_cons.mp (hkept.leads hkeyed hleads₁)
      obtain ⟨hleads, hnamed⟩ := ih hkeyed₁ hrest hothers.2
      use Desk.Leads.trans hleads₁ hleads
      cases resolution with
      | unresolved => exact hnamed
      | failed => exact hnamed
      | resolved venueId =>
          change ∀ m ∈ (⟨o, venueId⟩ : BulkMember) :: candidates found, Named d' m
          rw [List.forall_mem_cons]
          use ?_, hnamed
          obtain ⟨q, hq, hbecomes⟩ := hfirst
          obtain ⟨q', hq', hvenue⟩ := Desk.confirmed_of_runs hsearch
          cases hq.symm.trans hq'
          apply (named_of_confirmed hq hbecomes hvenue).leads hkeyed₁ hleads

end CancelRun

/-! ## Requests of single cancels -/

/-- What the single cancel of a run brings about with a stretch that ends at a question: the
request is one on the way to the cancel. -/
def CancelRun.sendsPause (id : ClientId) (x : Origin CancelRun) (r : VenueRequest)
    (run : CancelRun) : Prop :=
  Desk.sendsPause id ⟨x.state.desk, x.answered?⟩ r run.desk

/-- However an open single cancel is answered, all its requests are on the way to the cancel. -/
def SingleCancel.Careful (s : SingleCancel) : Prop :=
  ∀ reply run, (s.next reply).Keeps (CancelRun.sendsPause s.order.clientId)
    (fun _ _ _ => True) ⟨run, (s.request, reply)⟩ run

theorem keeps_singlePart_sends (p : Policy) (o : Order) (run : CancelRun) :
  (CancelRun.singlePart p o).Keeps (CancelRun.sendsPause o.clientId) (fun _ _ _ => True)
    ⟨run, none⟩ run
  := by
  rw [CancelRun.singlePart, Routine.keeps_bind]
  apply keeps_atDesk (x := ⟨run, none⟩)
  apply (Desk.keeps_cancelOrder_sends p o run.desk).mono
  · exact fun _ _ _ h _ => h
  · exact fun _ _ _ _ _ => trivial

theorem careful_of_reaches {m : Routine CancelRun Unit} {o : Order} {run run' : CancelRun}
    {answered? : Option (VenueRequest × Reply)} {q : Routine.Pause CancelRun Unit}
    (hm : m.Keeps (CancelRun.sendsPause o.clientId) (fun _ _ _ => True) ⟨run, answered?⟩ run)
    (h : m.Reaches run q run') (hwatches : run.desk.Watches o.clientId) :
  ∀ s ∈ SingleCancel.ofPause o q, run'.desk.Sends s.order.clientId s.request ∧ s.Careful
  := by
  intro s hs
  cases q with
  | finished u => exact absurd hs List.not_mem_nil
  | asking r k =>
      rw [List.mem_singleton.mp hs]
      obtain ⟨hsends, hnext⟩ := hm.pause_of_reaches h
      exact ⟨hsends hwatches, hnext⟩

/-! ## Requests of a run -/

/-- Where a run stands its requests are on the way to cancels.  While venue ids are being found
operations have led to the desk; the members of bulk requests are named. -/
def CancelStage.Careful (p : Policy) (orders : List Order) (d : Desk) (desk : Desk) :
    CancelStage → Prop
  | finding r k => ∃ es d₁, (CancelRun.members p orders).Runs d es (.asking r k) d₁
    ∧ (∀ y ∈ exchanges es, y.left.Leads y.found) ∧ d₁.Leads desk
  | bulk ms rest _ => ∀ m ∈ ms ++ rest.flatten, CancelRun.Named desk m
  | singles _ asking => ∀ s ∈ asking, desk.Sends s.order.clientId s.request ∧ s.Careful

namespace CancelStage

variable {p : Policy} {orders left : List Order} {d desk desk' : Desk} {stage : CancelStage}

/-- What others do leaves the requests on the way to cancels. -/
theorem Careful.leads (h : stage.Careful p orders d desk) (hkeyed : desk.book.Keyed)
    (hleads : desk.Leads desk') :
  stage.Careful p orders d desk'
  := by
  cases stage with
  | finding r k =>
      obtain ⟨es, d₁, hruns, hothers, hd₁⟩ := h
      exact ⟨es, d₁, hruns, hothers, hd₁.trans hleads⟩
  | bulk ms rest left => exact fun m hm => (h m hm).leads hkeyed hleads
  | singles waiting asking =>
      exact fun s hs => ⟨(h s hs).1.leads hkeyed hleads, (h s hs).2⟩

theorem careful_sending {rest : List (List BulkMember)}
    (h : ∀ m ∈ rest.flatten, CancelRun.Named desk m) :
  (sending rest left).Careful p orders d desk
  := by
  cases rest with
  | nil => exact fun s hs => absurd hs List.not_mem_nil
  | cons ms rest => exact h

theorem careful_found {es : List (Event Desk)}
    {q : Routine.Pause Desk (List BulkMember × List Order)}
    (h : (CancelRun.members p orders).Runs d es q desk) (hkeyed : d.book.Keyed)
    (hkept : CancelRun.Kept d orders) (hothers : ∀ y ∈ exchanges es, y.left.Leads y.found) :
  (found p q).Careful p orders d desk
  := by
  cases q with
  | asking r k => exact ⟨es, desk, h, hothers, Desk.Leads.refl desk⟩
  | finished parts =>
      obtain ⟨ids, hfinds, rfl⟩ := CancelRun.exists_finds_of_runs h
      apply careful_sending
      rw [CancelRun.flatten_pieces]
      exact (CancelRun.named_of_finds hfinds hkeyed hkept hothers).2

end CancelStage

namespace CancelPoint

variable {p : Policy} {orders : List Order} {d : Desk} {c c' : CancelPoint}
  {answers : List CancelAnswer}

/-- A step leaves the requests of a run on the way to cancels. -/
theorem Step.careful (h : Step p c answers c') (hc : c.stage.Careful p orders d c.run.desk)
    (hsound : c.Sound orders) (hkeyed : d.book.Keyed) (hkept : CancelRun.Kept d orders)
    (hleads : d.Leads c.run.desk) :
  c'.stage.Careful p orders d c'.run.desk
  := by
  have hkeyed' := Book.Leads.keyed hleads hkeyed
  have hstep := (h.advance hsound).1.leads
  have hwatches : ∀ id ∈ orders.map (·.clientId), c.run.desk.Watches id := by
    rw [List.forall_mem_map]
    intro o ho
    use hkeyed'
    obtain ⟨q, hq, -⟩ := hkept.leads hkeyed hleads o ho
    rw [hq]
    rfl
  cases h with
  | @find run r k reply q d' h =>
      obtain ⟨es, d₁, hruns, hothers, hd₁⟩ := hc
      obtain ⟨es', hruns', hnone⟩ := h.runs
      apply CancelStage.careful_found (hruns.answered hruns') hkeyed hkept
      rw [Routine.exchanges_append, Routine.exchanges_exchange, hnone, List.forall_mem_append]
      use hothers
      rw [List.forall_mem_singleton]
      exact hd₁
  | @bulk run run' ms rest left missed reply now h =>
      apply CancelStage.careful_sending
      intro m hm
      exact (hc m (List.mem_append_right ms hm)).leads hkeyed' hstep
  | @takeUp run run' before after o asking q h =>
      have htodo : o ∈ (CancelStage.singles (before ++ o :: after) asking).todo := by
        simp [CancelStage.todo]
      have hnew := careful_of_reaches (keeps_singlePart_sends p o run) h
        (hwatches _ (hsound.stage.1.mem_of_todo htodo))
      intro s hs
      rcases List.mem_append.mp hs with hs | hs
      · exact ⟨(hc s hs).1.leads hkeyed' hstep, (hc s hs).2⟩
      · exact hnew s hs
  | @answer run run' waiting before after s reply q h =>
      have htodo : s.order ∈ (CancelStage.singles waiting (before ++ s :: after)).todo := by
        simp [CancelStage.todo]
      have hs : s ∈ before ++ s :: after := by simp
      have hnew := careful_of_reaches ((hc s hs).2 reply run) h
        (hwatches _ (hsound.stage.1.mem_of_todo htodo))
      have hold : ∀ s' ∈ before ++ after, run'.desk.Sends s'.order.clientId s'.request
          ∧ s'.Careful := by
        intro s' hs'
        have hmem : s' ∈ before ++ s :: after := by
          simp only [List.mem_append, List.mem_cons] at hs' ⊢
          tauto
        exact ⟨(hc s' hmem).1.leads hkeyed' hstep, (hc s' hmem).2⟩
      intro s' hs'
      simp only [List.mem_append] at hs' hold
      rcases hs' with (hs' | hs') | hs'
      · exact hold s' (.inl hs')
      · exact hnew s' hs'
      · exact hold s' (.inr hs')

theorem careful_of_comes (hkeyed : d.book.Keyed) (hkept : CancelRun.Kept d orders)
    (h : Comes p Desk.Leads orders d answers c) :
  c.stage.Careful p orders d c.run.desk
  := by
  obtain ⟨c₀, hbegins, hcourse⟩ := h
  induction hcourse with
  | nil =>
      obtain ⟨h⟩ := hbegins
      obtain ⟨es, hruns, hnone⟩ := h.runs
      apply CancelStage.careful_found hruns hkeyed hkept
      rw [hnone]
      exact nofun
  | others hcourse hd ih =>
      have hleads := (Comes.leads ⟨c₀, hbegins, hcourse⟩).1
      exact ih.leads (Book.Leads.keyed hleads hkeyed) hd
  | step hcourse hstep ih =>
      obtain ⟨hleads, hsound⟩ := Comes.leads ⟨c₀, hbegins, hcourse⟩
      exact hstep.careful ih hsound hkeyed hkept hleads

/-- While venue ids are being found, only listings are asked for. -/
theorem keeps_members_listing (p : Policy) (orders : List Order) (x : Origin Desk) (d : Desk) :
  (CancelRun.members p orders).Keeps (fun _ r _ => r.endpoint ∈ Resolution.listings)
    (fun _ _ _ => True) x d
  := by
  induction orders generalizing x d with
  | nil => trivial
  | cons o rest ih =>
      rw [CancelRun.members_cons]
      split
      · rw [Routine.keeps_map]
        exact ih x d
      · rw [Routine.keeps_bind]
        apply Desk.keeps_resolve
        · exact fun _ hl => hl
        · exact fun _ _ _ _ _ hl' => hl'
        · intro l reply now best? d' _
          rw [Routine.keeps_map]
          apply ih

/-- Whatever the venue answers and whatever operations others perform on the book meanwhile,
the requests to cancel that are open, of a run for all resting orders and of a single cancel of
an order under watch, carry the market of the order they are for and the venue id that the desk
holds as confirmed for it. -/
theorem sends_of_open (p : Policy) (hkeyed : d.book.Keyed) :
  (∀ answers c, Comes p Desk.Leads d.book.resting d answers c →
    (∀ r k, c.stage = .finding r k → r.endpoint ∈ Resolution.listings)
    ∧ (∀ ms rest left, c.stage = .bulk ms rest left →
      CancelRun.sentMembers? (CancelRun.bulkRequest ms)
        = some (ms.map fun m => (m.order.pair.symbol, m.venueId.text))
      ∧ ∀ m ∈ ms, c.run.desk.Names m.order.clientId m.order.pair.symbol m.venueId)
    ∧ ∀ waiting asking, c.stage = .singles waiting asking →
      ∀ s ∈ asking, c.run.desk.Sends s.order.clientId s.request)
  ∧ ∀ o es r k d', (d.book.find? o.clientId).isSome →
    (Desk.cancelOrder p o).Runs d es (.asking r k) d' →
    (∀ y ∈ exchanges es, y.left.Leads y.found) → d'.Sends o.clientId r
  := by
  constructor
  · intro answers c h
    have hkept : CancelRun.Kept d d.book.resting := by
      intro o ho
      have hmem := (d.book.resting_perm.mem_iff.mp ho)
      exact ⟨o, Book.find?_of_mem hkeyed (List.mem_filter.mp hmem).1, .refl o⟩
    have hcareful := careful_of_comes hkeyed hkept h
    refine ⟨?_, ?_, ?_⟩
    · intro r k hstage
      rw [hstage] at hcareful
      obtain ⟨es, d₁, hruns, -, -⟩ := hcareful
      obtain ⟨z, -, hlisting⟩ := (keeps_members_listing p _ ⟨d, none⟩ d).last_of_runs hruns
      exact hlisting
    · intro ms rest left hstage
      rw [hstage] at hcareful
      use CancelRun.sentMembers?_bulkRequest ms
      exact fun m hm => hcareful m (List.mem_append_left _ hm)
    · intro waiting asking hstage s hs
      rw [hstage] at hcareful
      exact (hcareful s hs).1
  · intro o es r k d' hsome h hothers
    exact Desk.sends_of_runs ⟨hkeyed, hsome⟩ h hothers

/-- The bulk request for the two orders names them both, and so does a single cancel of the
first one. -/
theorem sends_of_open_sampleDesk :
  (∃ c, Comes {} Desk.Leads sampleDesk.book.resting sampleDesk [] c
    ∧ c.run.desk.Names ⟨"c1"⟩ "BTC_USDT" ⟨"v1"⟩ ∧ c.run.desk.Names ⟨"c2"⟩ "BTC_USDT" ⟨"v2"⟩)
  ∧ ∃ es r k d', (Desk.cancelOrder {} (sampleMember "c1" "v1").order).Runs sampleDesk es
      (.asking r k) d' ∧ d'.Sends ⟨"c1"⟩ r
  := by
  obtain ⟨hrun, hsingle⟩ := sends_of_open (d := sampleDesk) {} (by decide)
  constructor
  · have hbegins : Begins {} sampleDesk.book.resting sampleDesk _ :=
      @begins_of_confirmed {} sampleDesk [sampleMember "c1" "v1", sampleMember "c2" "v2"]
        (by decide) (by decide) (by decide)
    have hcomes : Comes {} Desk.Leads sampleDesk.book.resting sampleDesk [] _ :=
      ⟨_, hbegins, .nil _⟩
    obtain ⟨-, hbulk, -⟩ := hrun _ _ hcomes
    have hnames := (hbulk _ _ _ rfl).2
    exact ⟨_, hcomes, hnames (sampleMember "c1" "v1") (by simp),
      hnames (sampleMember "c2" "v2") (by simp)⟩
  · obtain ⟨es, hruns, hnone⟩ := (@Desk.reaches_cancelOrder sampleDesk {}
      (sampleMember "c1" "v1").order ⟨"v1"⟩ (by decide) (by decide)).runs
    refine ⟨es, _, _, _, hruns, hsingle _ es _ _ _ (by decide) hruns ?_⟩
    rw [hnone]
    exact nofun

end CancelPoint

end VenueLink
