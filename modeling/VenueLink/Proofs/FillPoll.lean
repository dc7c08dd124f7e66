import VenueLink.Desk.Poll
import VenueLink.Proofs.Fills
import VenueLink.Proofs.Runs

/-!
# Polls of fills

A poll of the fills of an order reads the deals listing and records what it can use of it, one
fill after the other.  The result of the poll is what was recorded: of the fills with one trade id
the first one, if the trade id was not seen before.  A poll that gets the same listing once more
finds nothing new in it.
-/

namespace VenueLink

namespace Book

variable {b b₁ b' : Book} {id : ClientId} {f : Fill} {usable fresh : List Fill}

/-- Of some fills of one order the fresh ones are recorded for it, in their order: the first one
of each trade id that was not seen.  Nothing else changes about orders and fills. -/
structure Takes (b : Book) (id : ClientId) (usable fresh : List Fill) (b' : Book) : Prop where
  sublist : fresh.Sublist usable
  unseen : ∀ f ∈ fresh, f.tradeId ∉ b.seen
  distinct : (fresh.map (·.tradeId)).Nodup
  first : ∀ f ∈ fresh, usable.find? (fun g => g.tradeId = f.tradeId) = some f
  covered : ∀ f ∈ usable, f.tradeId ∈ b'.seen
  seen : b'.seen = b.seen ++ fresh.map (·.tradeId)
  own : b'.fillsOf id = b.fillsOf id ++ fresh
  others : ∀ other ≠ id, b'.fillsOf other = b.fillsOf other
  orders : b'.orders = b.orders

theorem Takes.nil (b : Book) (id : ClientId) :
  b.Takes id [] [] b
  where
  sublist := .slnil
  unseen := nofun
  distinct := .nil
  first := nofun
  covered := nofun
  seen := (List.append_nil _).symm
  own := (List.append_nil _).symm
  others _ _ := rfl
  orders := rfl

/-- A fill whose trade id was seen is passed over. -/
theorem Takes.skip (h : b.Takes id usable fresh b') (hf : f.tradeId ∈ b.seen) :
  b.Takes id (f :: usable) fresh b'
  := by
  refine { h with sublist := h.sublist.cons f, first := ?_, covered := ?_ }
  · intro g hg
    have hne : f.tradeId ≠ g.tradeId := fun heq => h.unseen g hg (heq ▸ hf)
    rw [List.find?_cons_of_neg (by simpa using hne)]
    exact h.first g hg
  · rw [List.forall_mem_cons]
    use ?_, h.covered
    rw [h.seen]
    exact List.mem_append_left _ hf

/-- A fill whose trade id was not seen is recorded. -/
theorem Takes.take (h : b₁.Takes id usable fresh b') (hf : f.tradeId ∉ b.seen)
    (hseen : b₁.seen = b.seen ++ [f.tradeId])
    (hfills : ∀ other, b₁.fillsOf other
      = if other = id then b.fillsOf other ++ [f] else b.fillsOf other)
    (horders : b₁.orders = b.orders) :
  b.Takes id (f :: usable) (f :: fresh) b'
  := by
  have hunseen : ∀ g ∈ fresh, g.tradeId ∉ b.seen ∧ g.tradeId ≠ f.tradeId := by
    intro g hg
    have hnot := h.unseen g hg
    rwa [hseen, List.mem_append, List.mem_singleton, not_or] at hnot
  have hseen' : b'.seen = b.seen ++ (f :: fresh).map (·.tradeId) := by
    rw [h.seen, hseen, List.append_assoc]
    rfl
  constructor
  · exact h.sublist.cons_cons f
  · exact List.forall_mem_cons.mpr ⟨hf, fun g hg => (hunseen g hg).1⟩
  · rw [List.map_cons, List.nodup_cons]
    use ?_, h.distinct
    intro hmem
    obtain ⟨g, hg, heq⟩ := List.mem_map.mp hmem
    exact (hunseen g hg).2 heq
  · rw [List.forall_mem_cons]
    use List.find?_cons_of_pos (by simp)
    intro g hg
    rw [List.find?_cons_of_neg (by simpa using (hunseen g hg).2.symm)]
    exact h.first g hg
  · rw [List.forall_mem_cons]
    use ?_, h.covered
    simp [hseen']
  · exact hseen'
  · rw [h.own, hfills, if_pos rfl, List.append_assoc]
    rfl
  · intro other hother
    rw [h.others other hother, hfills, if_neg hother]
  · exact h.orders.trans horders

end Book

namespace Desk

open Routine (exchanges resumed)

variable {o : Order} {id : VenueId} {d d' : Desk} {es : List (Event Desk)}

/-! ## Fills one after the other -/

theorem record_of_seen {f : Fill} (h : f.tradeId ∈ d.book.seen) :
  d.record f = (false, d)
  := by
  rcases Book.record_cases d.book f with ⟨_, -, hnew, -⟩ | ⟨-, hrecord⟩
  · exact absurd h hnew
  · rw [record, hrecord]

/-- A fill that carries the client id of an order under watch, with a trade id not seen, is
recorded for the order. -/
theorem record_of_unseen {f : Fill} {client : ClientId} (hf : f.clientId? = some client)
    (ho : (d.book.find? client).isSome = true) (h : f.tradeId ∉ d.book.seen) :
  d.record f = (true, { d with book :=
    { d.book with
      fills := Book.appendFill client f d.book.fills
      seen := d.book.seen ++ [f.tradeId] } }.count .fill)
  := by
  obtain ⟨p, hp⟩ := Option.isSome_iff_exists.mp ho
  have howner : d.book.owner? f = some p := by simp [Book.owner?, hf, hp]
  have hclient := Book.clientId_of_find? hp
  have hunseen : d.book.seen.contains f.tradeId = false := by simpa using h
  simp only [record, Book.record, howner, hunseen, hclient, Bool.false_eq_true, if_false]

/-- What is new among some fills of an order is recorded, and told. -/
theorem takes_recordAll {client : ClientId} {fs : List Fill}
    (hfs : ∀ f ∈ fs, f.clientId? = some client) (ho : (d.book.find? client).isSome = true) :
  d.book.Takes client fs (recordAll fs d).1 (recordAll fs d).2.book
  := by
  induction fs generalizing d with
  | nil => exact .nil d.book client
  | cons f rest ih =>
      obtain ⟨hf, hrest⟩ := List.forall_mem_cons.mp hfs
      by_cases hseen : f.tradeId ∈ d.book.seen
      · have hrecord := record_of_seen hseen
        simp only [recordAll, hrecord]
        exact (ih hrest ho).skip hseen
      · have hrecord := record_of_unseen hf ho hseen
        simp only [recordAll, hrecord]
        refine Book.Takes.take (ih hrest ?_) hseen rfl ?_ rfl
        · exact ho
        · exact fun other => Book.fillsOf_appendFill d.book client other f

/-- Where all trade ids were seen there is nothing new. -/
theorem recordAll_of_seen {fs : List Fill} (h : ∀ f ∈ fs, f.tradeId ∈ d.book.seen) :
  recordAll fs d = ([], d)
  := by
  induction fs with
  | nil => rfl
  | cons f rest ih =>
      obtain ⟨hf, hrest⟩ := List.forall_mem_cons.mp h
      have hrecord := record_of_seen hf
      simp [recordAll, hrecord, ih hrest]

/-! ## Usable entries -/

/-- A usable fill is what the entry at some position reports. -/
theorem mem_fillsOfEntries {now : Moment} {entries : List Json} {f : Fill} :
  f ∈ fillsOfEntries o id now entries
    ↔ ∃ index entry, entries[index]? = some entry ∧ fillOf? o id now index entry = some f
  := by
  simp only [fillsOfEntries, List.mem_filterMap, List.mem_map, Prod.exists,
    List.mem_zipIdx_iff_getElem?]
  constructor
  · rintro ⟨f?, ⟨entry, index, hentry, hf?⟩, hf⟩
    exact ⟨index, entry, hentry, hf?.trans hf⟩
  · rintro ⟨index, entry, hentry, hf⟩
    exact ⟨some f, ⟨entry, index, hentry, hf⟩, rfl⟩

/-- A usable fill carries the client id of the order, and the trade id that its entry names, or
else the venue id of the order with the position. -/
theorem ids_of_fillOf? {now : Moment} {index : Nat} {entry : Json} {f : Fill}
    (h : fillOf? o id now index entry = some f) :
  f.clientId? = some o.clientId
    ∧ ∃ members, entry = .obj members ∧ f.tradeId = FillEntry.tradeId members id index
  := by
  obtain ⟨reading, hreading, rfl⟩ := Option.map_eq_some_iff.mp h
  obtain ⟨members, hmembers, hread⟩ := Option.bind_eq_some_iff.mp hreading
  cases entry <;> cases hmembers
  simp only [FillEntry.read?] at hread
  split at hread
  · cases hread
  · obtain ⟨price, -, hread⟩ := Option.bind_eq_some_iff.mp hread
    obtain ⟨quote, -, rfl⟩ := Option.map_eq_some_iff.mp hread
    exact ⟨rfl, _, rfl, rfl⟩

/-- The time at which an entry is read shows in the time of the fill alone. -/
theorem exists_fillOf?_at {now : Moment} {index : Nat} {entry : Json} {f : Fill}
    (h : fillOf? o id now index entry = some f) (now' : Moment) :
  ∃ timestamp, fillOf? o id now' index entry = some { f with timestamp }
  := by
  obtain ⟨reading, hreading, rfl⟩ := Option.map_eq_some_iff.mp h
  obtain ⟨members, hmembers, hread⟩ := Option.bind_eq_some_iff.mp hreading
  simp only [FillEntry.read?] at hread
  split at hread
  case isTrue => cases hread
  case isFalse hpositive =>
    obtain ⟨price, hprice, hread⟩ := Option.bind_eq_some_iff.mp hread
    obtain ⟨quote, hquote, rfl⟩ := Option.map_eq_some_iff.mp hread
    use Json.momentOr now' (members.first? FillEntry.timeKeys)
    simp [fillOf?, FillEntry.read?, hmembers, hpositive, hprice, hquote]

/-- Whenever a listing is read, the usable fills in it have the same trade ids. -/
theorem tradeId_mem_fillsOfEntries {now : Moment} {entries : List Json} {f : Fill}
    (hf : f ∈ fillsOfEntries o id now entries) (now' : Moment) :
  ∃ g ∈ fillsOfEntries o id now' entries, g.tradeId = f.tradeId
  := by
  obtain ⟨index, entry, hentry, hf⟩ := mem_fillsOfEntries.mp hf
  obtain ⟨timestamp, hg⟩ := exists_fillOf?_at hf now'
  exact ⟨_, mem_fillsOfEntries.mpr ⟨index, entry, hentry, hg⟩, rfl⟩

/-! ## Polls -/

/-- A poll of the fills of an order asks once.  When the answer is a listing, what is usable in it
is recorded. -/
theorem exists_of_runs_pollFills {got : Except VenueError (List Fill)}
    (hid : o.knownId? = some id) (h : (pollFills o).Runs d es (.finished got) d') :
  ∃ x : Exchange Desk, x.left = d ∧ x.request = orderRequest .deals o id
    ∧ exchanges es = [x]
    ∧ ((∃ e, x.outcome = .error e ∧ es = [.exchange x] ∧ got = .error e ∧ d' = x.found)
      ∨ ∃ result now, x.outcome = .ok result ∧ es = [.exchange x, .clock now]
        ∧ got = .ok (recordAll (fillsOfEntries o id now result.entries) x.found).1
        ∧ d' = (recordAll (fillsOfEntries o id now result.entries) x.found).2)
  := by
  rw [pollFills, hid] at h
  obtain ⟨_, _, _, _, rfl, hfetch, h⟩ := (Routine.runs_bind _ _).mp h
  obtain ⟨x, rfl, hleft, hrequest, rfl, rfl⟩ := (Routine.runs_fetch _).mp hfetch
  use x, hleft, hrequest
  cases houtcome : x.outcome with
  | error e =>
      rw [houtcome] at h
      obtain ⟨rfl, rfl, rfl⟩ := (Routine.runs_pure _).mp h
      exact ⟨rfl, .inl ⟨e, rfl, rfl, rfl, rfl⟩⟩
  | ok result =>
      rw [houtcome] at h
      simp only [Routine.runs_bind, Routine.runs_now, Routine.runs_update,
        Routine.runs_pure] at h
      obtain ⟨now, _, _, _, rfl, ⟨rfl, rfl⟩, _, _, _, _, rfl, ⟨rfl, rfl, rfl⟩, rfl, rfl, rfl⟩ := h
      exact ⟨rfl, .inr ⟨result, now, rfl, rfl, rfl, rfl⟩⟩

/-- A poll that gets a listing in which all trade ids were seen finds nothing new, and leaves the
desk as the answer found it. -/
theorem pollFills_of_seen {got : Except VenueError (List Fill)} {result : Json} {now : Moment}
    (hid : o.knownId? = some id) (h : (pollFills o).Runs d es (.finished got) d')
    (hresult : ∀ x ∈ exchanges es, x.outcome = .ok result)
    (hseen : ∀ f ∈ fillsOfEntries o id now result.entries,
      f.tradeId ∈ (resumed d es).book.seen) :
  got = .ok [] ∧ d' = resumed d es
  := by
  obtain ⟨x, -, -, hexchanges, hgot⟩ := exists_of_runs_pollFills hid h
  have houtcome : x.outcome = .ok result := by
    apply hresult
    rw [hexchanges]
    exact List.mem_singleton_self x
  have hresumed : resumed d es = x.found := by
    rw [resumed, hexchanges]
    rfl
  rw [houtcome] at hgot
  rw [hresumed] at hseen ⊢
  rcases hgot with ⟨e, herror, -⟩ | ⟨_, now', hok, -, hgot, hd'⟩
  · cases herror
  · cases hok
    have hrecord : recordAll (fillsOfEntries o id now' result.entries) x.found
        = ([], x.found) := by
      apply recordAll_of_seen
      intro f hf
      obtain ⟨g, hg, heq⟩ := tradeId_mem_fillsOfEntries hf now
      rw [← heq]
      exact hseen g hg
    rw [hrecord] at hgot hd'
    exact ⟨hgot, hd'⟩

/-- A poll of the fills of an order under watch tells exactly what it recorded.  The fills of the
order are those before and then the fresh ones, in the order of the listing; each of these is what
an entry reports, under the trade id that the entry names or else the venue id and the position,
and no trade id comes twice or was recorded before.  The trade ids of all usable entries are seen
afterwards, and the fills of other orders stay.  A later poll that gets the same finds nothing new
and changes nothing. -/
theorem takes_of_runs {fresh : List Fill} (hid : o.knownId? = some id)
    (h : (pollFills o).Runs d es (.finished (.ok fresh)) d')
    (hb : (resumed d es).book.Reached)
    (ho : ((resumed d es).book.find? o.clientId).isSome = true) :
  ∃ x result now, es = [.exchange x, .clock now]
    ∧ x.left = d ∧ x.request = orderRequest .deals o id ∧ x.outcome = .ok result
    ∧ (resumed d es).book.Takes o.clientId (fillsOfEntries o id now result.entries) fresh d'.book
    ∧ (∀ f ∈ fresh, ∀ g ∈ (resumed d es).book.fillsOf o.clientId, g.tradeId ≠ f.tradeId)
    ∧ (∀ f ∈ fresh, ∃ index members, result.entries[index]? = some (.obj members)
      ∧ fillOf? o id now index (.obj members) = some f
      ∧ f.tradeId = FillEntry.tradeId members id index)
    ∧ ∀ d₁ es₁ got d₂, (pollFills o).Runs d₁ es₁ (.finished got) d₂ →
      (∀ y ∈ exchanges es₁, y.outcome = .ok result) →
      d'.book.seen ⊆ (resumed d₁ es₁).book.seen →
      got = .ok [] ∧ d₂ = resumed d₁ es₁
  := by
  obtain ⟨x, hleft, hrequest, -, hgot⟩ := exists_of_runs_pollFills hid h
  rcases hgot with ⟨_, -, -, hgot, -⟩ | ⟨result, now, houtcome, rfl, hgot, rfl⟩
  · cases hgot
  cases hgot
  have htakes : x.found.book.Takes o.clientId (fillsOfEntries o id now result.entries)
      (recordAll (fillsOfEntries o id now result.entries) x.found).1
      (recordAll (fillsOfEntries o id now result.entries) x.found).2.book := by
    apply takes_recordAll _ ho
    intro f hf
    obtain ⟨index, entry, -, hf⟩ := mem_fillsOfEntries.mp hf
    exact (ids_of_fillOf? hf).1
  refine ⟨x, result, now, rfl, hleft, hrequest, houtcome, htakes, ?_, ?_, ?_⟩
  · intro f hf g hg heq
    apply htakes.unseen f hf
    rw [← heq]
    exact hb.noted o.clientId g hg
  · intro f hf
    obtain ⟨index, entry, hentry, hf⟩ := mem_fillsOfEntries.mp (htakes.sublist.subset hf)
    obtain ⟨-, members, rfl, htrade⟩ := ids_of_fillOf? hf
    exact ⟨index, members, hentry, hf, htrade⟩
  · intro d₁ es₁ got d₂ h₁ hsame hlater
    have hseen : ∀ f ∈ fillsOfEntries o id now result.entries,
        f.tradeId ∈ (resumed d₁ es₁).book.seen := fun f hf => hlater (htakes.covered f hf)
    exact pollFills_of_seen hid h₁ hsame hseen

/-- A venue with a deals listing: a fill with an id, another one with the same id, an entry without
an amount, and a fill without an id. -/
def listingVenue (_ : VenueRequest) : Reply :=
  .ok (.object [("result", .arr [
    .object [("id", .str "d1"), ("amount", .str "1"), ("price", .str "100")],
    .object [("id", .str "d1"), ("amount", .str "2"), ("price", .str "100")],
    .object [("amount", .str "0"), ("price", .str "101")],
    .object [("amount", .str "3"), ("price", .str "101")]])])

/-- An order with a venue id, and a desk that watches it. -/
def listedOrder : Order := .sample "c1" (.confirmed ⟨"77"⟩)

/-- A poll of the fills of the order at that venue, with nobody else at work. -/
def listedPoll (d : Desk) : List (Event Desk) × Except VenueError (List Fill) × Desk :=
  (pollFills listedOrder).played ⟨0⟩ listingVenue (fun _ d => d) d

/-- A desk that watches the order. -/
def listingDesk : Desk := { book := { orders := [listedOrder] } }

theorem runs_listedPoll (d : Desk) :
  (pollFills listedOrder).Runs d (listedPoll d).1 (.finished (listedPoll d).2.1) (listedPoll d).2.2
  := Routine.runs_played ..

/-- The poll finds two fills, and another poll finds none. -/
theorem takes_of_runs_listedOrder :
  ∃ fresh, (listedPoll listingDesk).2.1 = .ok fresh
    ∧ fresh.map (·.tradeId) = [⟨"d1"⟩, ⟨"77-3"⟩]
    ∧ (listedPoll listingDesk).2.2.book.fillsOf ⟨"c1"⟩ = fresh
    ∧ (listedPoll (listedPoll listingDesk).2.2).2 = (.ok [], (listedPoll listingDesk).2.2)
  := by
  obtain ⟨fresh, hok⟩ : ∃ fresh, (listedPoll listingDesk).2.1 = .ok fresh := ⟨_, rfl⟩
  have hids : ((listedPoll listingDesk).2.1.toOption.map fun fs => fs.map (·.tradeId))
      = some [⟨"d1"⟩, ⟨"77-3"⟩] := by decide
  rw [hok] at hids
  have hruns := runs_listedPoll listingDesk
  rw [hok] at hruns
  obtain ⟨x, result, now, hes, -, -, houtcome, htakes, -, -, hagain⟩ :=
    takes_of_runs rfl hruns ⟨[.track listedOrder], rfl⟩ rfl
  have houtcomes : ∀ d, ∀ y ∈ exchanges (listedPoll d).1,
      y.outcome = (VenueRequest.of .deals []).outcome (listingVenue (.of .deals [])) := by
    intro d y hy
    rw [Exchange.outcome, (Routine.of_mem_played hy).1]
    rfl
  have hresult := houtcomes listingDesk x (by simp [hes])
  have hsame : ∀ y ∈ exchanges (listedPoll (listedPoll listingDesk).2.2).1,
      y.outcome = .ok result := by
    intro y hy
    rw [houtcomes _ y hy, ← hresult, houtcome]
  obtain ⟨hgot, hdesk⟩ := hagain _ _ _ _ (runs_listedPoll (listedPoll listingDesk).2.2) hsame
    (List.Subset.refl _)
  exact ⟨fresh, hok, Option.some.inj hids, htakes.own, Prod.ext hgot hdesk⟩

end Desk

end VenueLink
