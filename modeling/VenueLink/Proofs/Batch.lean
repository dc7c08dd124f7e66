import VenueLink.Proofs.BalanceRoundTrip
import VenueLink.Proofs.Balances
import VenueLink.Proofs.Desk

/-!
# Lists of entries in one message

A message may carry one entry or a list of them.  A list is taken in entry by entry, in order, so
orders and balances come out as if each entry had come in a message of its own.  An entry that is
malformed is passed over, and the others do not notice it.
-/

namespace VenueLink

/-! ## Malformed entries -/

/-- An entry of a message about orders is malformed: it is no object, it names no market that can
be read, or it has no id. -/
inductive OrderEntry.Malformed : Json → Prop where
  | notObject {entry : Json} (h : entry.members? = none) : Malformed entry
  | noMarket {members : Json.Members} (h : (members.text? symbolKeys).bind Pair.ofSymbol? = none) :
    Malformed (.obj members)
  | noId {members : Json.Members} (hvenue : venueId? members = none)
    (hclient : clientId? members = none) : Malformed (.obj members)

/-- An entry of a message about balances is malformed: it holds no balance entry, or only such
whose asset has no name or whose amounts come to a total out of range. -/
def BalanceEntry.Malformed (entry : Json) : Prop :=
  ∀ leaf ∈ leaves none entry, leaf.asset? = none ∨ total? leaf.members = none

theorem OrderEntry.read?_eq_none_iff {now : Moment} {members : Json.Members} :
  read? now members = none ↔ (members.text? symbolKeys).bind Pair.ofSymbol? = none
  := Option.map_eq_none_iff

theorem Update.make?_eq_none_iff {clientId? : Option ClientId} {venueId? : Option VenueId}
    {pair : Pair} {state : OrderState} {timestamp : Moment} :
  make? clientId? venueId? pair state timestamp = none ↔ venueId? = none ∧ clientId? = none
  := by
  cases clientId? <;> cases venueId? <;> simp [make?]

/-- An entry proposes an update unless it is malformed. -/
theorem Desk.updateOf?_eq_none_iff {now : Moment} {entry : Json} :
  updateOf? now entry = none ↔ OrderEntry.Malformed entry
  := by
  cases hmembers : entry.members? with
  | none => simp [updateOf?, hmembers, OrderEntry.Malformed.notObject hmembers]
  | some members =>
      obtain rfl : entry = .obj members := by
        cases entry <;> cases hmembers
        rfl
      rw [updateOf?, hmembers, Option.bind_some]
      cases hread : OrderEntry.read? now members with
      | none =>
          have hmarket := OrderEntry.read?_eq_none_iff.mp hread
          simp [OrderEntry.Malformed.noMarket hmarket]
      | some reading =>
          obtain ⟨pair, hpair, rfl⟩ := Option.map_eq_some_iff.mp hread
          rw [Option.bind_some, Update.make?_eq_none_iff]
          constructor
          · rintro ⟨hvenue, hclient⟩
            exact .noId hvenue hclient
          · intro h
            cases h with
            | notObject h => cases h
            | noMarket h => simp [hpair] at h
            | noId hvenue hclient => exact ⟨hvenue, hclient⟩

theorem BalanceEntry.records_eq_nil_iff {entry : Json} :
  records entry = [] ↔ Malformed entry
  := by
  simp only [records, List.filterMap_eq_nil_iff, Malformed, Leaf.record?, Option.bind_eq_none_iff,
    Option.map_eq_none_iff]
  apply forall₂_congr
  intro leaf _
  cases leaf.asset? <;> simp

/-! ## One entry -/

/-- The time at which an entry is read shows in the time of the update alone. -/
theorem Desk.exists_updateOf?_at {now : Moment} {entry : Json} {u : Update}
    (h : updateOf? now entry = some u) (now' : Moment) :
  ∃ timestamp, updateOf? now' entry = some { u with timestamp }
  := by
  obtain ⟨reading, hreading, hmake⟩ := Option.bind_eq_some_iff.mp h
  obtain ⟨members, hmembers, hread⟩ := Option.bind_eq_some_iff.mp hreading
  obtain ⟨pair, hpair, rfl⟩ := Option.map_eq_some_iff.mp hread
  simp only [Update.make?] at hmake
  split at hmake
  case isTrue hid =>
    cases hmake
    use OrderEntry.timestamp now' members
    simp [updateOf?, hmembers, OrderEntry.read?, hpair, Update.make?, hid]
  case isFalse => cases hmake

/-- The book after an entry of a message about orders is taken in. -/
def Book.takeIn (b : Book) (entry : Json) : Book :=
  match Desk.updateOf? ⟨0⟩ entry with
  | some u => (b.apply u).1
  | none => b

theorem Book.takeIn_of_malformed {entry : Json} (h : OrderEntry.Malformed entry) (b : Book) :
  b.takeIn entry = b
  := by
  rw [takeIn, Desk.updateOf?_eq_none_iff.mpr h]

namespace Desk

theorem book_applyOrderEntry (now : Moment) (entry : Json) (d : Desk) :
  (d.applyOrderEntry now entry).book = d.book.takeIn entry
  := by
  unfold applyOrderEntry Book.takeIn
  cases hu : updateOf? ⟨0⟩ entry with
  | none =>
      have hnone : updateOf? now entry = none :=
        updateOf?_eq_none_iff.mpr (updateOf?_eq_none_iff.mp hu)
      rw [hnone]
      rfl
  | some u =>
      obtain ⟨timestamp, hu'⟩ := exists_updateOf?_at hu now
      rw [hu']
      rfl

/-- What a desk holds: orders with their fills, and balances. -/
def holdings (d : Desk) : Book × BalanceTable := (d.book, d.balances)

/-- What is held after an entry of a message of some method is taken in. -/
def takeIn (method : String) (held : Book × BalanceTable) (entry : Json) : Book × BalanceTable :=
  if method = "asset.update" then
    (held.1, (BalanceEntry.records entry).foldl BalanceTable.patch held.2)
  else if method = "order.update" then (held.1.takeIn entry, held.2)
  else held

/-- An entry of a message of some method is malformed. -/
def IsMalformed (method : String) (entry : Json) : Prop :=
  (method = "order.update" → OrderEntry.Malformed entry)
    ∧ (method = "asset.update" → BalanceEntry.Malformed entry)

theorem takeIn_of_isMalformed {method : String} {entry : Json} (h : IsMalformed method entry)
    (held : Book × BalanceTable) :
  takeIn method held entry = held
  := by
  unfold takeIn
  split
  case isTrue hasset =>
    rw [BalanceEntry.records_eq_nil_iff.mpr (h.2 hasset)]
    rfl
  case isFalse =>
    split
    case isTrue horder => rw [Book.takeIn_of_malformed (h.1 horder)]
    case isFalse => rfl

/-! ## Lists of entries -/

/-- The entries in the payload of a message: the items of a list, or the payload. -/
def entriesOf : Json → List Json
  | .arr items => items
  | entry => [entry]

theorem entriesOf_of_not_arr {entry : Json} (h : ∀ items, entry ≠ .arr items) :
  entriesOf entry = [entry]
  := by
  cases entry with
  | arr items => exact absurd rfl (h items)
  | _ => rfl

theorem applyOrderMessage_eq (now : Moment) (payload : Json) (d : Desk) :
  d.applyOrderMessage now payload = (entriesOf payload).foldl (applyOrderEntry now) d
  := by
  cases payload <;> rfl

theorem records_eq (payload : Json) :
  BalanceEntry.records payload = (entriesOf payload).flatMap BalanceEntry.records
  := by
  cases payload with
  | arr items => exact BalanceEntry.records_arr items
  | _ => exact (List.flatMap_singleton _ _).symm

theorem holdings_foldl_applyOrderEntry (now : Moment) (entries : List Json) (d : Desk) :
  (entries.foldl (applyOrderEntry now) d).holdings
    = entries.foldl (takeIn "order.update") d.holdings
  := by
  induction entries generalizing d with
  | nil => rfl
  | cons entry rest ih =>
      rw [List.foldl_cons, List.foldl_cons, ih]
      congr 1
      exact Prod.ext (book_applyOrderEntry now entry d) (applyOrderEntry_balances now entry d)

theorem foldl_takeIn_asset (entries : List Json) (held : Book × BalanceTable) :
  entries.foldl (takeIn "asset.update") held
    = (held.1, (entries.flatMap BalanceEntry.records).foldl BalanceTable.patch held.2)
  := by
  induction entries generalizing held with
  | nil => rfl
  | cons entry rest ih =>
      rw [List.foldl_cons, ih, List.flatMap_cons, List.foldl_append]
      rfl

/-- A message is taken in entry by entry. -/
theorem holdings_applyMessage {message payload : Json} {method : String}
    (h : message.methodAndPayload? = some (method, payload)) (now : Moment) (d : Desk) :
  (d.applyMessage now message).holdings = (entriesOf payload).foldl (takeIn method) d.holdings
  := by
  simp only [applyMessage, h]
  by_cases hasset : method = "asset.update"
  · subst hasset
    rw [if_pos rfl, foldl_takeIn_asset, ← records_eq]
    exact Prod.ext (applyBalanceUpdate_book payload d) (applyBalanceUpdate_balances payload d)
  · rw [if_neg hasset]
    by_cases horder : method = "order.update"
    · subst horder
      rw [if_pos rfl, applyOrderMessage_eq, holdings_foldl_applyOrderEntry]
    · rw [if_neg horder]
      symm
      apply List.foldl_fixed'
      intro entry
      rw [takeIn, if_neg hasset, if_neg horder]

/-- A message brings an entry alone: in a list of its own, or as its payload, which is then no
list. -/
def Brings (method : String) (entry message : Json) : Prop :=
  message.methodAndPayload? = some (method, .arr [entry])
    ∨ message.methodAndPayload? = some (method, entry) ∧ ∀ items, entry ≠ .arr items

theorem holdings_of_brings {method : String} {entry message : Json}
    (h : Brings method entry message) (now : Moment) (d : Desk) :
  (d.applyMessage now message).holdings = takeIn method d.holdings entry
  := by
  rcases h with h | ⟨h, hentry⟩
  · exact holdings_applyMessage h now d
  · rw [holdings_applyMessage h now d, entriesOf_of_not_arr hentry]
    rfl

/-- The desk after some messages, each at its own time. -/
def applyMessages (messages : List (Moment × Json)) (d : Desk) : Desk :=
  messages.foldl (fun d m => d.applyMessage m.1 m.2) d

/-- Messages that bring some entries one by one. -/
theorem holdings_applyMessages {method : String} {entries : List Json}
    {messages : List (Moment × Json)}
    (h : List.Forall₂ (fun entry m => Brings method entry m.2) entries messages) (d : Desk) :
  (d.applyMessages messages).holdings = entries.foldl (takeIn method) d.holdings
  := by
  induction h generalizing d with
  | nil => rfl
  | @cons entry m _ _ hentry _ ih =>
      rw [List.foldl_cons, ← holdings_of_brings hentry m.1 d, ← ih]
      rfl

/-- Entries of some kind are taken out of a list, wherever they stand. -/
inductive Leaves (P : Json → Prop) : List Json → List Json → Prop where
  | nil : Leaves P [] []
  | keep (entry : Json) {entries rest : List Json} (h : Leaves P entries rest) :
    Leaves P (entry :: entries) (entry :: rest)
  | remove {entry : Json} {entries rest : List Json} (hentry : P entry) (h : Leaves P entries rest) :
    Leaves P (entry :: entries) rest

theorem foldl_takeIn_of_leaves {method : String} {entries rest : List Json}
    (h : Leaves (IsMalformed method) entries rest) (held : Book × BalanceTable) :
  entries.foldl (takeIn method) held = rest.foldl (takeIn method) held
  := by
  induction h generalizing held with
  | nil => rfl
  | keep entry _ ih => exact ih _
  | remove hentry _ ih => rw [List.foldl_cons, takeIn_of_isMalformed hentry, ih]

/-- A list of entries in one message does to orders and balances what its entries do in messages
of their own, one after the other, at whatever times; so malformed entries may as well be left out.
A message about orders does nothing to balances, one about balances nothing to orders, and any
other message does nothing to either. -/
theorem holdings_of_message (d : Desk) (message : Json) (now : Moment) :
  (∀ method entries, message.methodAndPayload? = some (method, .arr entries) →
    (∀ messages, List.Forall₂ (fun entry m => Brings method entry m.2) entries messages →
      (d.applyMessage now message).holdings = (d.applyMessages messages).holdings)
    ∧ ∀ rest other now', Leaves (IsMalformed method) entries rest →
      other.methodAndPayload? = some (method, .arr rest) →
      (d.applyMessage now message).holdings = (d.applyMessage now' other).holdings)
  ∧ (∀ payload, message.methodAndPayload? = some ("order.update", payload) →
    (d.applyMessage now message).balances = d.balances)
  ∧ (∀ payload, message.methodAndPayload? = some ("asset.update", payload) →
    (d.applyMessage now message).book = d.book)
  ∧ ((∀ payload, message.methodAndPayload? ≠ some ("order.update", payload)
      ∧ message.methodAndPayload? ≠ some ("asset.update", payload)) →
    (d.applyMessage now message).holdings = d.holdings)
  := by
  refine ⟨?_, ?_, ?_, ?_⟩
  · intro method entries h
    have hmessage := holdings_applyMessage h now d
    constructor
    · intro messages hmessages
      rw [hmessage, holdings_applyMessages hmessages]
      rfl
    · intro rest other now' hrest hother
      rw [hmessage, holdings_applyMessage hother]
      exact foldl_takeIn_of_leaves hrest _
  · intro payload h
    simp only [applyMessage, h]
    exact applyOrderMessage_balances now payload d
  · intro payload h
    simp only [applyMessage, h]
    exact applyBalanceUpdate_book payload d
  · intro h
    unfold applyMessage
    split
    · rfl
    case h_2 method payload hcall =>
      have hasset : method ≠ "asset.update" := by
        rintro rfl
        exact (h payload).2 hcall
      have horder : method ≠ "order.update" := by
        rintro rfl
        exact (h payload).1 hcall
      rw [if_neg hasset, if_neg horder]

/-- A message about orders, in the list form. -/
def ordersMessage (payload : Json) : Json := .arr [.str "order.update", payload]

/-- An entry that confirms a venue id. -/
def confirmingEntry : Json :=
  .object [("market", .str "BTC_USDT"), ("client_id", .str "c2"), ("order_id", .str "2"),
    ("status", .ofInt 1)]

/-- An entry that refers to an order by that venue id. -/
def cancelingEntry : Json :=
  .object [("market", .str "BTC_USDT"), ("order_id", .str "2"), ("status", .str "canceled")]

/-- Entries that are malformed: the first one has no id, the others name no market and are no
object. -/
def brokenEntries : List Json :=
  [.object [("market", .str "BTC_USDT"), ("status", .ofInt 3)],
    .object [("order_id", .str "1"), ("status", .ofInt 3)], .str "garbage"]

theorem isMalformed_brokenEntries : ∀ entry ∈ brokenEntries, IsMalformed "order.update" entry
  := by
  intro entry hentry
  refine ⟨fun _ => (@updateOf?_eq_none_iff ⟨0⟩ entry).mp ?_, fun h => absurd h (by decide)⟩
  revert entry
  decide

/-- With malformed entries in between, the first entry of a list still counts for the last. -/
theorem holdings_of_message_brokenEntries :
  ∃ d : Desk, d.book.orders = [.sample "c1" (.confirmed ⟨"1"⟩), .sample "c2" .unknown]
    ∧ (d.applyMessage ⟨5⟩ (ordersMessage
        (.arr (confirmingEntry :: brokenEntries ++ [cancelingEntry])))).holdings
      = (d.applyMessages [(⟨6⟩, ordersMessage confirmingEntry),
          (⟨7⟩, ordersMessage cancelingEntry)]).holdings
    ∧ (d.applyMessages [(⟨6⟩, ordersMessage confirmingEntry),
        (⟨7⟩, ordersMessage cancelingEntry)]).book.orders
      = [.sample "c1" (.confirmed ⟨"1"⟩),
        { Order.sample "c2" (.confirmed ⟨"2"⟩) with state := .canceled }]
  := by
  refine ⟨{ book := { orders := [.sample "c1" (.confirmed ⟨"1"⟩), .sample "c2" .unknown] } },
    rfl, ?_, by decide⟩
  have hleaves : Leaves (IsMalformed "order.update")
      (confirmingEntry :: brokenEntries ++ [cancelingEntry]) [confirmingEntry, cancelingEntry] := by
    have hbroken := isMalformed_brokenEntries
    simp only [brokenEntries, List.forall_mem_cons] at hbroken
    obtain ⟨hid, hmarket, hobject, -⟩ := hbroken
    exact .keep _ (.remove hid (.remove hmarket (.remove hobject (.keep _ .nil))))
  rw [((holdings_of_message _ _ ⟨5⟩).1 _ _ rfl).2 _
    (ordersMessage (.arr [confirmingEntry, cancelingEntry])) ⟨5⟩ hleaves rfl]
  apply ((holdings_of_message _ _ ⟨5⟩).1 _ _ rfl).1
  refine .cons (.inr ⟨rfl, ?_⟩) (.cons (.inr ⟨rfl, ?_⟩) .nil) <;> rintro items ⟨⟩

end Desk

end VenueLink
