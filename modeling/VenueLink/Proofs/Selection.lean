import VenueLink.Proofs.Adoption

/-!
# The entry that a search selects

A search that is over as soon as an entry carries an id of the order selects what a search through
all listings would: of all entries that match the order and bring a venue id, the first of the
strongest.
-/

namespace VenueLink

open Json (Members)
open Routine (exchanges resumed)

/-! ## The first of the strongest -/

/-- An item is the first of the strongest ones: those before it are weaker, and those after it are
not stronger. -/
def FirstBest {α : Type} (rank : α → Nat) (items : List α) (a : α) : Prop :=
  ∃ before after, items = before ++ a :: after ∧ (∀ b ∈ before, rank b < rank a)
    ∧ ∀ b ∈ after, rank b ≤ rank a

namespace FirstBest

variable {α : Type} {rank : α → Nat} {items items' : List α} {a b : α}

theorem mem (h : FirstBest rank items a) :
  a ∈ items
  := by
  obtain ⟨before, after, rfl, -, -⟩ := h
  exact List.mem_append_right before List.mem_cons_self

theorem le (h : FirstBest rank items a) (hb : b ∈ items) :
  rank b ≤ rank a
  := by
  obtain ⟨before, after, rfl, hbefore, hafter⟩ := h
  rcases List.mem_append.mp hb with hb | hb
  · exact (hbefore b hb).le
  · rcases List.mem_cons.mp hb with rfl | hb
    · exact le_rfl
    · exact hafter b hb

/-- Items that are not stronger change nothing at the end. -/
theorem append (h : FirstBest rank items a) (hitems' : ∀ b ∈ items', rank b ≤ rank a) :
  FirstBest rank (items ++ items') a
  := by
  obtain ⟨before, after, rfl, hbefore, hafter⟩ := h
  use before, after ++ items', by simp, hbefore
  intro b hb
  rcases List.mem_append.mp hb with hb | hb
  · exact hafter b hb
  · exact hitems' b hb

/-- An item that is stronger than all others becomes the first of the strongest at the end. -/
theorem of_lt (h : ∀ b ∈ items, rank b < rank a) :
  FirstBest rank (items ++ [a]) a
  := ⟨items, [], rfl, h, nofun⟩

end FirstBest

/-! ## Entries that are offered -/

namespace OrderEntry

/-- An entry carries an id of an order: the client id, or the venue id that the order holds. -/
def Carries (o : Order) (entry : Members) : Prop :=
  anyEquals entry clientIdKeys o.clientId.text = true
    ∨ ∃ id, o.knownId? = some id ∧ anyEquals entry venueIdKeys id.text = true

theorem isExact_score_iff (o : Order) (t : Tolerance) (entry : Members) :
  (score o t entry).isExact = true ↔ Carries o entry
  := by
  unfold score Carries
  split
  case isTrue hclient => exact ⟨fun _ => .inl hclient, fun _ => rfl⟩
  case isFalse hclient =>
    rw [or_iff_right hclient, ← Option.any_eq_true]
    split
    case isTrue hvenue => exact ⟨fun _ => hvenue, fun _ => rfl⟩
    case isFalse hvenue =>
      constructor
      · intro hexact
        have hrank := rank_weigh_le [sideSignal o entry, amountSignal o t entry,
          priceSignal o t entry] 0
        rw [Score.rank_of_isExact hexact] at hrank
        contradiction
      · intro h
        exact absurd h hvenue

end OrderEntry

/-- A candidate has what its entry says. -/
theorem Candidate.exists_of_ofMembers? {t : Tolerance} {o : Order} {now : Moment}
    {entry : Members} {c : Candidate} (h : ofMembers? t o now entry = some c) :
  ∃ id, OrderEntry.venueId? entry = some id ∧ c = ⟨OrderEntry.score o t entry, id,
    OrderEntry.state entry, OrderEntry.timestamp now entry⟩
  := by
  unfold ofMembers? at h
  dsimp only at h
  split at h
  case isTrue =>
    obtain ⟨id, hid, rfl⟩ := Option.map_eq_some_iff.mp h
    exact ⟨id, hid, rfl⟩
  case isFalse => cases h

namespace Resolution

/-- An entry of a listing. -/
structure Offer where
  listing : Endpoint
  entry : Members

/-- How well the entry of an offer matches an order. -/
def Offer.score (p : Policy) (o : Order) (w : Offer) : Score :=
  OrderEntry.score o p.tolerance w.entry

/-- The entry of an offer matches an order, and brings a venue id. -/
def Offer.qualifies (p : Policy) (o : Order) (w : Offer) : Bool :=
  (w.score p o).isMatch && (OrderEntry.venueId? w.entry).isSome

/-- The entries of a listing that match an order and bring a venue id. -/
def offered (p : Policy) (o : Order) (listing : Endpoint) (members : List Members) : List Offer :=
  (members.map (Offer.mk listing)).filter (Offer.qualifies p o)

/-- What the answers of a venue offer for an order, one listing after the other.  A listing that
cannot be had offers nothing. -/
def offers (p : Policy) (o : Order) (venue : VenueRequest → Reply) (listings : List Endpoint) :
    List Offer :=
  listings.flatMap fun listing =>
    let request := listingRequest p o listing
    offered p o listing
      ((Reply.entries (request.outcome (venue request))).filterMap Json.members?)

/-- Some events tell that a listing was there at a time. -/
def ReadAt (p : Policy) (o : Order) (es : List (Event Desk)) (listing : Endpoint) (t : Moment) :
    Prop :=
  ∃ x, x.request = listingRequest p o listing ∧ [.exchange x, .clock t] <:+: es

variable {p : Policy} {o : Order} {d d' : Desk} {es log : List (Event Desk)}
  {venue : VenueRequest → Reply} {seen : List Offer} {known? : Option Candidate} {c : Candidate}
  {listing : Endpoint} {now : Moment} {entry : Members}

/-- A candidate was made of the first of the strongest offers that were seen, when its listing was
there; there is none just when nothing was offered. -/
def Selects (p : Policy) (o : Order) (log : List (Event Desk)) (seen : List Offer) :
    Option Candidate → Prop
  | none => seen = []
  | some c => ∃ w t, FirstBest (fun v => (v.score p o).rank) seen w ∧ ReadAt p o log w.listing t
    ∧ Candidate.ofMembers? p.tolerance o t w.entry = some c

/-- What qualifies is what makes a candidate. -/
theorem Offer.qualifies_eq (w : Offer) (now : Moment) :
  w.qualifies p o = (Candidate.ofMembers? p.tolerance o now w.entry).isSome
  := by
  rw [Bool.eq_iff_iff, ← not_iff_not, Option.not_isSome_iff_eq_none,
    Candidate.ofMembers?_eq_none_iff, qualifies, Bool.and_eq_true]
  rfl

/-- Looking at one more offer. -/
theorem Selects.better (h : Selects p o log seen known?) (hread : ReadAt p o log listing now)
    (hc : Candidate.ofMembers? p.tolerance o now entry = some c) :
  Selects p o log (seen ++ [⟨listing, entry⟩]) (Candidate.better known? c)
  := by
  have hscore : c.score = Offer.score p o ⟨listing, entry⟩ := (Candidate.eq_of_ofMembers? hc).1
  cases known? with
  | none =>
      obtain rfl : seen = [] := h
      exact ⟨⟨listing, entry⟩, now, FirstBest.of_lt nofun, hread, hc⟩
  | some best =>
      obtain ⟨w, t, hfirst, hread', hbest⟩ := h
      have hscore' : best.score = w.score p o := (Candidate.eq_of_ofMembers? hbest).1
      change Selects p o log _ (if best.score.rank < c.score.rank then some c else some best)
      rw [hscore, hscore']
      split
      case isTrue hlt =>
        refine ⟨⟨listing, entry⟩, now, FirstBest.of_lt ?_, hread, hc⟩
        intro v hv
        exact (hfirst.le hv).trans_lt hlt
      case isFalse hle =>
        refine ⟨w, t, hfirst.append ?_, hread', hbest⟩
        rintro v (_ | ⟨_, ⟨⟩⟩)
        exact Nat.le_of_not_lt hle

/-- Looking at the offers of one listing. -/
theorem Selects.append_offered (hread : ReadAt p o log listing now) (members : List Members)
    (h : Selects p o log seen known?) :
  Selects p o log (seen ++ offered p o listing members)
    ((members.filterMap (Candidate.ofMembers? p.tolerance o now)).foldl Candidate.better known?)
  := by
  induction members generalizing seen known? with
  | nil => rwa [offered, List.map_nil, List.filter_nil, List.append_nil]
  | cons entry rest ih =>
      have hqualifies := Offer.qualifies_eq (p := p) (o := o) ⟨listing, entry⟩ now
      rw [offered, List.map_cons]
      cases hc : Candidate.ofMembers? p.tolerance o now entry with
      | none =>
          rw [hc, Option.isSome_none] at hqualifies
          rw [List.filter_cons_of_neg (Bool.eq_false_iff.mp hqualifies),
            List.filterMap_cons_none hc]
          exact ih h
      | some c =>
          rw [hc, Option.isSome_some] at hqualifies
          rw [List.filter_cons_of_pos hqualifies, List.append_cons, List.filterMap_cons_some hc]
          exact ih (h.better hread hc)

/-- Nothing else counts beside an entry that carries an id of the order. -/
theorem Selects.append_of_isExact {seen' : List Offer} (h : Selects p o log seen (some c))
    (hexact : c.score.isExact = true) :
  Selects p o log (seen ++ seen') (some c)
  := by
  obtain ⟨w, t, hfirst, hread, hc⟩ := h
  refine ⟨w, t, hfirst.append ?_, hread, hc⟩
  intro v hv
  have hscore : c.score = w.score p o := (Candidate.eq_of_ofMembers? hc).1
  rw [← hscore, Score.rank_of_isExact hexact]
  apply OrderEntry.rank_score_le

/-- A search selects among all that was seen before and all that is offered, also when it does not
come to the last listings. -/
theorem selects_search {listings : List Endpoint} {best? found? : Option Candidate}
    (h : (search p o listings best?).Runs d es (.finished found?) d')
    (hanswers : ∀ x ∈ exchanges es, x.reply = venue x.request) (hlog : es <:+: log)
    (hbest : Selects p o log seen best?) :
  Selects p o log (seen ++ offers p o venue listings) found?
  := by
  induction listings generalizing best? d es seen with
  | nil =>
      obtain ⟨rfl, rfl, rfl⟩ := (Routine.runs_pure _).mp h
      rwa [offers, List.flatMap_nil, List.append_nil]
  | cons l rest ih =>
      rw [search_cons] at h
      simp only [Routine.runs_bind, Routine.runs_fetch, Routine.runs_now] at h
      obtain ⟨_, _, _, _, rfl, ⟨x, rfl, rfl, hrequest, rfl, rfl⟩, now, _, _, after, rfl,
        ⟨rfl, rfl⟩, h⟩ := h
      have hreply : x.reply = venue x.request := hanswers x List.mem_cons_self
      have hread : ReadAt p o log l now :=
        ⟨x, hrequest, (List.prefix_append _ _).isInfix.trans hlog⟩
      have hseen := hbest.append_offered hread
        ((Reply.entries x.outcome).filterMap Json.members?)
      have hoffers : offers p o venue (l :: rest)
          = offered p o l ((Reply.entries x.outcome).filterMap Json.members?)
            ++ offers p o venue rest := by
        rw [Exchange.outcome, hreply, hrequest]
        rfl
      rw [hoffers, ← List.append_assoc]
      split at h
      case isTrue hexact =>
        obtain ⟨rfl, rfl, rfl⟩ := (Routine.runs_pure _).mp h
        obtain ⟨c, hc, hexact⟩ := (Option.any_eq_true ..).mp hexact
        -- The listings that are left are not asked for, but they have nothing stronger.
        rw [Candidate.best] at hc ⊢
        rw [hc] at hseen ⊢
        exact hseen.append_of_isExact hexact
      case isFalse =>
        refine ih h ?_ ?_ hseen
        · intro y hy
          exact hanswers y (List.mem_cons_of_mem x hy)
        · exact (List.suffix_append [.exchange x, .clock now] after).isInfix.trans hlog

/-- A resolution draws its conclusion from what is selected among all that the venue offers. -/
theorem exists_selects_of_runs {res : Resolution}
    (h : (Desk.resolve p o).Runs d es (.finished res) d')
    (hanswers : ∀ x ∈ exchanges es, x.reply = venue x.request) :
  ∃ now best?, es.getLast? = some (.clock now) ∧ Selects p o es (offers p o venue listings) best?
    ∧ (res, d') = conclude p o now best? (resumed d es)
  := by
  simp only [Desk.resolve, Routine.runs_bind, Routine.runs_now, Routine.runs_update] at h
  obtain ⟨best?, d₁, asked, _, rfl, hsearch, now, _, _, _, rfl, ⟨rfl, rfl⟩, rfl, rfl, rfl⟩ := h
  have hexchanges : exchanges (asked ++ ([.clock now] ++ [])) = exchanges asked := by simp
  rw [hexchanges] at hanswers
  have hselects : Selects p o (asked ++ ([.clock now] ++ [])) ([] ++ offers p o venue listings)
      best? :=
    selects_search hsearch hanswers (List.prefix_append _ _).isInfix rfl
  refine ⟨now, best?, by simp, hselects, ?_⟩
  rw [resumed, hexchanges, (searched_of_runs hsearch).desk]
  rfl

/-- An offer is the first of the strongest in the listings of a venue. -/
def Offer.IsFirst (p : Policy) (o : Order) (venue : VenueRequest → Reply) (w : Offer) : Prop :=
  FirstBest (fun v => (v.score p o).rank) (offers p o venue listings) w

/-- Whatever a venue answers, a resolution comes to an end, and it draws its conclusion from the
first of the strongest offers in both listings: it takes the venue id, the state and the time of
that entry, though it does not ask for the second listing when the first one has an entry that
carries an id of the order.  Such an entry, wherever it is, comes before all that carry none.
Just when nothing is offered, there is nothing to conclude from but the age of the order. -/
theorem selects_of_runs (p : Policy) (o : Order) (venue : VenueRequest → Reply) (d : Desk) :
  (∃ es res d', (Desk.resolve p o).Runs d es (.finished res) d'
    ∧ ∀ x ∈ exchanges es, x.reply = venue x.request) ∧
  ∀ es res d', (Desk.resolve p o).Runs d es (.finished res) d' →
    (∀ x ∈ exchanges es, x.reply = venue x.request) →
    ∃ now, es.getLast? = some (.clock now) ∧
      ((offers p o venue listings = [] ∧ (res, d') = conclude p o now none (resumed d es)) ∨
        ∃ (w : Offer) (t : Moment) (id : VenueId), w.IsFirst p o venue
          ∧ OrderEntry.venueId? w.entry = some id ∧ ReadAt p o es w.listing t
          ∧ (res, d') = conclude p o now (some ⟨w.score p o, id, OrderEntry.state w.entry,
            OrderEntry.timestamp t w.entry⟩) (resumed d es)
          ∧ ((∃ v ∈ offers p o venue listings, OrderEntry.Carries o v.entry) →
            OrderEntry.Carries o w.entry))
  := by
  constructor
  · exact ⟨_, _, _, Routine.runs_played ⟨0⟩ venue (fun _ d => d) _ d,
      fun x hx => (Routine.of_mem_played hx).1⟩
  · intro es res d' h hanswers
    obtain ⟨now, best?, hlast, hselects, hconclude⟩ := exists_selects_of_runs h hanswers
    use now, hlast
    cases best? with
    | none => exact .inl ⟨hselects, hconclude⟩
    | some c =>
        right
        obtain ⟨w, t, hfirst, hread, hc⟩ := hselects
        obtain ⟨id, hid, rfl⟩ := Candidate.exists_of_ofMembers? hc
        refine ⟨w, t, id, hfirst, hid, hread, hconclude, ?_⟩
        rintro ⟨v, hv, hcarries⟩
        rw [← OrderEntry.isExact_score_iff o p.tolerance] at hcarries ⊢
        have hle : 255 ≤ (w.score p o).rank := by
          rw [← Score.rank_of_isExact hcarries]
          exact hfirst.le hv
        by_contra hnot
        exact absurd (OrderEntry.rank_score_lt (Bool.eq_false_iff.mpr hnot)) (Nat.not_lt.mpr hle)

/-- A venue that lists two orders: one that rests and is much like the order that is searched for,
and one that is finished and carries its client id. -/
def lookalikeVenue (r : VenueRequest) : Reply :=
  let entry := if r.endpoint = .finished then
      Json.object [("client_id", .str "c1"), ("id", .str "2"), ("status", .ofInt 3)]
    else .object [("amount", .str "1"), ("id", .str "1"), ("side", .ofInt 2)]
  .ok (.object [("result", .arr [entry])])

/-- An order to buy a piece of something. -/
def soughtOrder : Order :=
  { Order.sample "c1" .unknown with amount := (Decimal.ofParts? 1 0).getD .zero }

/-- A desk that watches the order. -/
def soughtDesk : Desk := { book := { orders := [soughtOrder] } }

/-- The order is searched for among the two. -/
def lookalikeRun : List (Event Desk) × Resolution × Desk :=
  (Desk.resolve {} soughtOrder).played ⟨0⟩ lookalikeVenue (fun _ d => d) soughtDesk

theorem runs_lookalikeRun :
  (Desk.resolve {} soughtOrder).Runs soughtDesk lookalikeRun.1 (.finished lookalikeRun.2.1)
    lookalikeRun.2.2
  := Routine.runs_played ..

theorem of_mem_lookalikeRun {x : Exchange Desk} (hx : x ∈ exchanges lookalikeRun.1) :
  x.reply = lookalikeVenue x.request ∧ x.found = x.left
  := Routine.of_mem_played hx

/-- The entry with the client id is selected, though the other one matches and comes first.  So the
order is resolved to the venue id of that entry, and filled as the entry says. -/
theorem selects_of_runs_lookalike :
  (offers {} soughtOrder lookalikeVenue listings).map (·.listing) = [.pending, .finished]
    ∧ (∃ (w : Offer) (t now : Moment), w.IsFirst {} soughtOrder lookalikeVenue
      ∧ OrderEntry.venueId? w.entry = some ⟨"2"⟩
      ∧ ReadAt {} soughtOrder lookalikeRun.1 w.listing t
      ∧ lookalikeRun.1.getLast? = some (.clock now)
      ∧ lookalikeRun.2 = conclude {} soughtOrder now (some ⟨w.score {} soughtOrder, ⟨"2"⟩,
        OrderEntry.state w.entry, OrderEntry.timestamp t w.entry⟩)
          (resumed soughtDesk lookalikeRun.1)
      ∧ OrderEntry.Carries soughtOrder w.entry)
    ∧ lookalikeRun.2.1 = .resolved ⟨"2"⟩
    ∧ (lookalikeRun.2.2.book.find? ⟨"c1"⟩).map (fun o => (o.venue, o.state))
      = some (.confirmed ⟨"2"⟩, .filled)
  := by
  have hoffers : (offers {} soughtOrder lookalikeVenue listings).map (·.listing)
      = [.pending, .finished] := by
    decide
  have hexact : ∃ v ∈ offers {} soughtOrder lookalikeVenue listings,
      (v.score {} soughtOrder).isExact = true := by
    decide
  have hids : ∀ v ∈ offers {} soughtOrder lookalikeVenue listings,
      (v.score {} soughtOrder).isExact = true → OrderEntry.venueId? v.entry = some ⟨"2"⟩ := by
    decide
  refine ⟨hoffers, ?_, by decide, by decide⟩
  obtain ⟨-, hruns⟩ := selects_of_runs {} soughtOrder lookalikeVenue soughtDesk
  obtain ⟨now, hlast, ⟨hnone, -⟩ | ⟨w, t, id, hfirst, hid, hread, hconclude, hcarries⟩⟩ :=
    hruns _ _ _ runs_lookalikeRun fun x hx => (of_mem_lookalikeRun hx).1
  · rw [hnone] at hoffers
    cases hoffers
  · obtain ⟨v, hv, hexact⟩ := hexact
    have hcarries := hcarries ⟨v, hv, (OrderEntry.isExact_score_iff ..).mp hexact⟩
    have hid' := hids w hfirst.mem ((OrderEntry.isExact_score_iff ..).mpr hcarries)
    obtain rfl : id = ⟨"2"⟩ := Option.some.inj (hid.symm.trans hid')
    exact ⟨w, t, now, hfirst, hid, hread, hlast, hconclude, hcarries⟩

end Resolution

end VenueLink
