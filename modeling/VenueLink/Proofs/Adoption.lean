import Mathlib.Data.List.TakeWhile
import VenueLink.Proofs.Resolution

/-!
# The id that matched, and the id adopted

An entry matches an order by its venue id when one of the id fields reads like it, but what is
adopted is the first id field with a usable text.  So the id that matched is adopted just when no
other text stands before it.
-/

namespace VenueLink

open Json (Members)
open Routine (exchanges resumed)

/-- Nothing is left of a text that is all blank. -/
theorem Text.trim_of_isAllBlank {s : String} (h : Text.isAllBlank s = true) :
  Text.trim s = ""
  := by
  have hdrop : s.toList.dropWhile Text.isBlank = [] := by
    rw [List.dropWhile_eq_nil_iff]
    exact List.all_eq_true.mp h
  rw [Text.trim, Text.trimChars, hdrop]
  rfl

namespace Score

variable {s : Score}

theorem isMatch_of_isExact (h : s.isExact = true) :
  s.isMatch = true
  := by
  cases s with
  | exact key => rfl
  | _ => cases h

theorem rank_of_isExact (h : s.isExact = true) :
  s.rank = 255
  := by
  cases s with
  | exact key => rfl
  | _ => cases h

end Score

/-! ## Id fields -/

/-- Where anything is found, it is a given value just when nothing is found before the first
that gives it. -/
theorem findSome?_eq_some_iff_takeWhile {α β : Type} [DecidableEq β] {f : α → Option β}
    {l : List α} (h : (l.findSome? f).isSome = true) (b : β) :
  l.findSome? f = some b ↔ ¬((l.takeWhile fun a => f a ≠ some b).any fun a => (f a).isSome) = true
  := by
  induction l with
  | nil => simp at h
  | cons a rest ih =>
      rw [List.findSome?_cons, List.takeWhile_cons]
      cases ha : f a with
      | none =>
          rw [List.findSome?_cons, ha] at h
          simpa [ha] using ih h
      | some b' =>
          by_cases hb : b' = b
          · simp [hb]
          · simp [hb, ha]

namespace OrderEntry

/-- The text of an id field, if it is usable. -/
def idText? (entry : Members) (key : String) : Option String :=
  (entry.get? key).bind Json.scalarText?

/-- Another usable text stands before the first id field that reads like a venue id. -/
def Masks (entry : Members) (id : VenueId) : Prop :=
  ((venueIdKeys.takeWhile fun key => idText? entry key ≠ some id.text).any fun key =>
    (idText? entry key).isSome) = true

instance (entry : Members) (id : VenueId) : Decidable (Masks entry id) :=
  inferInstanceAs (Decidable (_ = true))

theorem venueId?_eq (entry : Members) :
  venueId? entry = (venueIdKeys.findSome? (idText? entry)).map VenueId.mk
  := by
  rw [venueId?, Members.text?, ← List.head?_filterMap, List.filterMap_filterMap,
    List.head?_filterMap]
  rfl

/-- The venue id that an entry brings is a given one unless another text masks it. -/
theorem eq_iff_not_masks {entry : Members} {id' : VenueId} (h : venueId? entry = some id')
    (id : VenueId) :
  id' = id ↔ ¬Masks entry id
  := by
  rw [venueId?_eq] at h
  obtain ⟨text, htext, rfl⟩ := Option.map_eq_some_iff.mp h
  have hfirst := findSome?_eq_some_iff_takeWhile (Option.isSome_of_eq_some htext) id.text
  rw [htext, Option.some.injEq] at hfirst
  rw [Masks, ← hfirst]
  constructor
  · rintro rfl
    rfl
  · rintro rfl
    rfl

/-- What reads like a text that is not empty is usable. -/
theorem isSome_venueId?_of_anyEquals {entry : Members} {text : String} (htext : text ≠ "")
    (h : anyEquals entry venueIdKeys text = true) :
  (venueId? entry).isSome = true
  := by
  rw [anyEquals, List.any_eq_true] at h
  obtain ⟨value, hvalue, hequals⟩ := h
  rw [venueId?, Option.isSome_map, Members.text?, List.findSome?_isSome_iff]
  use value, hvalue
  cases value with
  | num n => rfl
  | str s =>
      have hblank : Text.isAllBlank s = false := by
        rw [Bool.eq_false_iff]
        intro hblank
        apply htext
        rw [← of_decide_eq_true hequals]
        exact Text.trim_of_isAllBlank hblank
      simp [Json.scalarText?, hblank]
  | _ => cases hequals

/-- Signals that agree are counted one by one. -/
theorem rank_weigh_le (signals : List Signal) (n : Nat) :
  (weigh signals n).rank ≤ signals.length + n
  := by
  induction signals generalizing n with
  | nil => cases n <;> simp [weigh, Score.rank]
  | cons signal rest ih =>
      rw [List.length_cons]
      match signal with
      | none =>
          have := ih n
          rw [weigh]
          omega
      | some true =>
          have := ih (n + 1)
          rw [weigh]
          omega
      | some false => exact Nat.zero_le _

/-- An entry matches by the client id, by the venue id, or by three signals at most. -/
theorem score_cases (o : Order) (t : Tolerance) (entry : Members) :
  score o t entry = .exact .clientId ∨
    (score o t entry = .exact .venueId ∧
      ∃ id, o.knownId? = some id ∧ anyEquals entry venueIdKeys id.text = true) ∨
    (score o t entry).rank ≤ 3
  := by
  unfold score
  split
  · exact .inl rfl
  · split
    case isTrue hvenue => exact .inr (.inl ⟨rfl, (Option.any_eq_true ..).mp hvenue⟩)
    case isFalse => exact .inr (.inr (rank_weigh_le _ 0))

/-- An entry that carries no id of the order is weaker than every entry that does. -/
theorem rank_score_lt {o : Order} {t : Tolerance} {entry : Members}
    (h : (score o t entry).isExact = false) :
  (score o t entry).rank < 255
  := by
  rcases score_cases o t entry with hclient | ⟨hvenue, -⟩ | hrank
  · simp [hclient, Score.isExact] at h
  · simp [hvenue, Score.isExact] at h
  · omega

/-- An entry that matches by the venue id brings a venue id. -/
theorem exists_venueId?_of_score {o : Order} {t : Tolerance} {entry : Members} {id : VenueId}
    (hid : o.knownId? = some id) (htext : id.text ≠ "")
    (h : score o t entry = .exact .venueId) :
  ∃ id', venueId? entry = some id'
  := by
  rcases score_cases o t entry with hclient | ⟨-, id', hid', hequals⟩ | hrank
  · cases h.symm.trans hclient
  · cases hid.symm.trans hid'
    exact Option.isSome_iff_exists.mp (isSome_venueId?_of_anyEquals htext hequals)
  · rw [h] at hrank
    simp [Score.rank] at hrank

/-- No entry is stronger than one that carries an id of the order. -/
theorem rank_score_le (o : Order) (t : Tolerance) (entry : Members) :
  (score o t entry).rank ≤ 255
  := by
  rcases score_cases o t entry with hclient | ⟨hvenue, -⟩ | hrank
  · rw [hclient, Score.rank]
  · rw [hvenue, Score.rank]
  · omega

end OrderEntry

/-! ## The entry that decides -/

/-- An entry decides a search: it carries an id of the order, and a usable venue id. -/
def Resolution.decides (p : Policy) (o : Order) (entry : Members) : Bool :=
  (OrderEntry.score o p.tolerance entry).isExact && (OrderEntry.venueId? entry).isSome

/-- The first entry that decides a search. -/
def Resolution.decisive? (p : Policy) (o : Order) (entries : List Json) : Option Members :=
  (entries.filterMap Json.members?).find? (decides p o)

namespace Candidate

variable {p : Policy} {o : Order} {now : Moment} {known? : Option Candidate}
  {entries : List Json} {entry : Members} {c : Candidate}

theorem eq_of_ofMembers? (h : ofMembers? p.tolerance o now entry = some c) :
  c.score = OrderEntry.score o p.tolerance entry ∧ OrderEntry.venueId? entry = some c.venueId
  := by
  unfold ofMembers? at h
  dsimp only at h
  split at h
  · obtain ⟨id, hid, rfl⟩ := Option.map_eq_some_iff.mp h
    exact ⟨rfl, hid⟩
  · cases h

/-- An entry that decides is a candidate, of the greatest strength. -/
theorem exists_ofMembers?_of_decides (now : Moment)
    (h : Resolution.decides p o entry = true) :
  ∃ c, ofMembers? p.tolerance o now entry = some c ∧ c.score.isExact = true
  := by
  rw [Resolution.decides, Bool.and_eq_true] at h
  obtain ⟨id, hid⟩ := Option.isSome_iff_exists.mp h.2
  have hmatch : (OrderEntry.score o p.tolerance entry).isMatch = true :=
    Score.isMatch_of_isExact h.1
  use ⟨OrderEntry.score o p.tolerance entry, id, OrderEntry.state entry,
    OrderEntry.timestamp now entry⟩
  simp [ofMembers?, hmatch, hid, h.1]

theorem better_of_lt (h : ∀ best, known? = some best → best.score.rank < c.score.rank) :
  better known? c = some c
  := by
  cases known? with
  | none => rfl
  | some best => rw [better, if_pos (h best rfl)]

theorem foldl_better_of_le {cs : List Candidate}
    (h : ∀ c' ∈ cs, c'.score.rank ≤ c.score.rank) :
  cs.foldl better (some c) = some c
  := by
  induction cs with
  | nil => rfl
  | cons c' rest ih =>
      rw [List.forall_mem_cons] at h
      rw [List.foldl_cons, better, if_neg (Nat.not_lt.mpr h.1)]
      exact ih h.2

/-- Where no entry decides, the best candidate is weaker than one that would. -/
theorem rank_lt_of_foldl_better {members : List Members}
    (hknown : ∀ best, known? = some best → best.score.rank < 255)
    (h : ∀ entry ∈ members, ¬Resolution.decides p o entry = true)
    (hc : (members.filterMap (ofMembers? p.tolerance o now)).foldl better known? = some c) :
  c.score.rank < 255
  := by
  rcases eq_or_mem_of_foldl_better hc with hc | hc
  · exact hknown c hc
  · obtain ⟨entry, hentry, hc⟩ := List.mem_filterMap.mp hc
    obtain ⟨hscore, hid⟩ := eq_of_ofMembers? hc
    rw [hscore]
    apply OrderEntry.rank_score_lt
    simpa [Resolution.decides, hid] using h entry hentry

/-- Where an entry decides, it is the best candidate. -/
theorem best_of_decisive (hknown : ∀ best, known? = some best → best.score.rank < 255)
    (h : Resolution.decisive? p o entries = some entry) :
  ∃ c, best p.tolerance o now known? entries = some c ∧
    ofMembers? p.tolerance o now entry = some c ∧ c.score.isExact = true
  := by
  obtain ⟨hentry, before, after, hsplit, hbefore⟩ := List.find?_eq_some_iff_append.mp h
  obtain ⟨c, hc, hexact⟩ := exists_ofMembers?_of_decides now hentry
  refine ⟨c, ?_, hc, hexact⟩
  rw [best, hsplit, List.filterMap_append, List.filterMap_cons_some hc, List.foldl_append,
    List.foldl_cons, better_of_lt, foldl_better_of_le]
  · intro c' hc'
    obtain ⟨entry', -, hc'⟩ := List.mem_filterMap.mp hc'
    rw [Score.rank_of_isExact hexact, (eq_of_ofMembers? hc').1]
    apply OrderEntry.rank_score_le
  · intro best hbest
    rw [Score.rank_of_isExact hexact]
    apply rank_lt_of_foldl_better hknown _ hbest
    intro entry' hentry'
    simpa using hbefore entry' hentry'

end Candidate

namespace Resolution

variable {p : Policy} {o : Order} {d d' : Desk} {es : List (Event Desk)}

/-- The entries listed in answers that are accepted, one listing after the other. -/
def listed (es : List (Event Desk)) : List Json :=
  (exchanges es).flatMap fun x => Reply.entries x.outcome

theorem decisive?_append (p : Policy) (o : Order) (entries entries' : List Json) :
  decisive? p o (entries ++ entries') = (decisive? p o entries).or (decisive? p o entries')
  := by
  rw [decisive?, List.filterMap_append, List.find?_append]
  rfl

/-- The entry that decides is what a search comes to. -/
theorem found_of_runs {listings : List Endpoint} {best? found? : Option Candidate}
    {entry : Members} (hbest : ∀ best, best? = some best → best.score.rank < 255)
    (h : (search p o listings best?).Runs d es (.finished found?) d')
    (hdecides : decisive? p o (listed es) = some entry) :
  ∃ now c, found? = some c ∧ Candidate.ofMembers? p.tolerance o now entry = some c
  := by
  induction listings generalizing best? d es with
  | nil =>
      obtain ⟨rfl, -, -⟩ := (Routine.runs_pure _).mp h
      cases hdecides
  | cons l rest ih =>
      rw [search_cons] at h
      simp only [Routine.runs_bind, Routine.runs_fetch, Routine.runs_now] at h
      obtain ⟨_, _, _, _, rfl, ⟨x, rfl, -, -, rfl, rfl⟩, now, _, _, after, rfl, ⟨rfl, rfl⟩, h⟩ := h
      have hlisted : listed ([.exchange x] ++ ([.clock now] ++ after)) =
          Reply.entries x.outcome ++ listed after := by
        simp [listed]
      rw [hlisted, decisive?_append] at hdecides
      cases hfirst : decisive? p o (Reply.entries x.outcome) with
      | some entry' =>
          rw [hfirst, Option.some_or, Option.some.injEq] at hdecides
          subst hdecides
          obtain ⟨c, hc, hcandidate, hexact⟩ := Candidate.best_of_decisive hbest hfirst
          rw [hc, Option.any_some, if_pos hexact] at h
          obtain ⟨-, hfound, -⟩ := (Routine.runs_pure _).mp h
          exact ⟨now, c, by simpa using hfound, hcandidate⟩
      | none =>
          rw [hfirst, Option.none_or] at hdecides
          have hweak (c : Candidate)
              (hc : Candidate.best p.tolerance o now best? (Reply.entries x.outcome) = some c) :
              c.score.rank < 255 :=
            Candidate.rank_lt_of_foldl_better hbest (List.find?_eq_none.mp hfirst) hc
          split at h
          case isTrue hexact =>
            obtain ⟨c, hc, hexact⟩ := (Option.any_eq_true ..).mp hexact
            have := hweak c hc
            rw [Score.rank_of_isExact hexact] at this
            omega
          case isFalse => exact ih hweak h hdecides

/-! ## Adoption -/

/-- What comes of adopting a venue id for an order under watch at a desk: it is confirmed, or
refused since the order has another one confirmed or is not under watch any more. -/
inductive Adopts (o : Order) (id : VenueId) (d : Desk) : Resolution → Desk → Prop where
  | confirmed {q q' : Order} {d' : Desk} (hbefore : d.book.find? o.clientId = some q)
    (hfree : ∀ other, q.venue = .confirmed other → other = id)
    (hafter : d'.book.find? o.clientId = some q') (hid : q'.venue = .confirmed id) :
    Adopts o id d (.resolved id) d'
  | refused {d' : Desk} (hbook : d'.book = d.book)
    (hother : ∀ q, d.book.find? o.clientId = some q →
      ∃ other, q.venue = .confirmed other ∧ other ≠ id) :
    Adopts o id d .unresolved d'

theorem Adopts.of_book {id : VenueId} {res : Resolution} {d₁ d₂ : Desk}
    (h : Adopts o id d res d₁) (hbook : d₂.book = d₁.book) :
  Adopts o id d res d₂
  := by
  cases h with
  | confirmed hbefore hfree hafter hid => exact .confirmed hbefore hfree (hbook ▸ hafter) hid
  | refused hsame hother => exact .refused (hbook.trans hsame) hother

/-- A venue id is refused for an order that has another one confirmed. -/
theorem exists_other_of_confirm_error {b : Book} {q : Order} {key : ClientId} {id : VenueId}
    {e : ConfirmError} (hq : b.find? key = some q) (h : b.confirm key id = .error e) :
  ∃ other, q.venue = .confirmed other ∧ other ≠ id
  := by
  by_contra hnone
  push Not at hnone
  have hok := Order.confirm_eq_ok.mpr ⟨hnone, rfl⟩
  simp [Book.confirm, hq, hok] at h

/-- A venue id that is confirmed stays so when the order ends. -/
theorem find?_propose_forOrder {q : Order} {id : VenueId}
    (hq : d.book.find? o.clientId = some q) (hid : q.venue = .confirmed id)
    (state : OrderState) (timestamp : Moment) :
  ∃ q', (d.propose (.forOrder o state timestamp)).book.find? o.clientId = some q' ∧
    q'.venue = .confirmed id
  := by
  have hkey := Book.clientId_of_find? hq
  use (Book.updated q (.forOrder o state timestamp)).1
  constructor
  · rw [← hkey] at hq ⊢
    exact (Book.find?_apply_of_clientId (congrArg some hkey.symm) hq q.clientId).trans (if_pos rfl)
  · exact (Book.becomes_updated q _).confirmed id hid

/-- The venue id of a candidate is adopted. -/
theorem adopts_adopt (o : Order) (c : Candidate) (d : Desk) :
  Adopts o c.venueId d (adopt o c d).1 (adopt o c d).2
  := by
  cases hconfirm : d.book.confirm o.clientId c.venueId with
  | error e =>
      have hrefused : adopt o c d =
          (unresolved, d.count (.anomaly Anomaly.venueIdConflict.label)) := by
        simp [adopt, hconfirm]
      rw [hrefused]
      exact .refused rfl fun q hq => exists_other_of_confirm_error hq hconfirm
  | ok b =>
      obtain ⟨q, q', hq, hq', rfl⟩ := Book.eq_put_of_confirm hconfirm
      obtain ⟨hfree, rfl⟩ := Order.confirm_eq_ok.mp hq'
      have hfind : (d.book.put { q with venue := .confirmed c.venueId }).find? o.clientId
          = some { q with venue := .confirmed c.venueId } := by
        rw [Book.find?_put, if_pos (Book.clientId_of_find? hq).symm, hq]
        rfl
      cases hended : c.state.isTerminal with
      | true =>
          obtain ⟨q', hq', hid⟩ := find?_propose_forOrder
            (o := { o with venue := .confirmed c.venueId })
            (d := { d with book := d.book.put { q with venue := .confirmed c.venueId } })
            hfind rfl c.state c.timestamp
          simp only [adopt, hconfirm, hended, if_true]
          exact .confirmed hq hfree hq' hid
      | false =>
          simp only [adopt, hconfirm, hended, Bool.false_eq_true, if_false]
          exact .confirmed hq hfree hfind rfl

/-- An entry that matches an order by the venue id that the order holds brings a venue id, and
that is the one held just when no other text masks it.  When such an entry decides a search, the
venue id that it brings is what is adopted. -/
theorem adopts_of_runs {id : VenueId} (hid : o.knownId? = some id) (htext : id.text ≠ "") :
  (∀ entry, OrderEntry.score o p.tolerance entry = .exact .venueId →
    ∃ id', OrderEntry.venueId? entry = some id' ∧ (id' = id ↔ ¬OrderEntry.Masks entry id)) ∧
  ∀ d es res d' entry, (Desk.resolve p o).Runs d es (.finished res) d' →
    decisive? p o (listed es) = some entry →
    OrderEntry.score o p.tolerance entry = .exact .venueId →
    ∃ id', OrderEntry.venueId? entry = some id' ∧ (id' = id ↔ ¬OrderEntry.Masks entry id) ∧
      Adopts o id' (resumed d es) res d'
  := by
  have hentry (entry : Members) (hscore : OrderEntry.score o p.tolerance entry = .exact .venueId) :
      ∃ id', OrderEntry.venueId? entry = some id' ∧ (id' = id ↔ ¬OrderEntry.Masks entry id) := by
    obtain ⟨id', hid'⟩ := OrderEntry.exists_venueId?_of_score hid htext hscore
    exact ⟨id', hid', OrderEntry.eq_iff_not_masks hid' id⟩
  use hentry
  intro d es res d' entry h hdecides hscore
  obtain ⟨id', hid', hmasks⟩ := hentry entry hscore
  refine ⟨id', hid', hmasks, ?_⟩
  simp only [Desk.resolve, Routine.runs_bind, Routine.runs_now, Routine.runs_update] at h
  obtain ⟨best?, d₁, asked, _, rfl, hsearch, now, _, _, _, rfl, ⟨rfl, rfl⟩, rfl, rfl, rfl⟩ := h
  have hexchanges : exchanges (asked ++ ([.clock now] ++ [])) = exchanges asked := by simp
  rw [listed, hexchanges] at hdecides
  obtain ⟨-, -, rfl, -⟩ := searched_of_runs hsearch
  obtain ⟨_, c, rfl, hc⟩ := found_of_runs (by simp) hsearch hdecides
  obtain ⟨-, hvenue⟩ := Candidate.eq_of_ofMembers? hc
  cases hid'.symm.trans hvenue
  rw [resumed, hexchanges]
  exact (adopts_adopt o c (resumed d asked)).of_book rfl

/-- A desk with one order under watch. -/
def deskHolding (venue : VenueIdentity) : Desk := { book := { orders := [.sample "c1" venue] } }

/-- The order is searched for, and the listings hold one entry. -/
def sampleAdoption (venue : VenueIdentity) (fields : List (String × Json)) :
    List (Event Desk) × Resolution × Desk :=
  (Desk.resolve {} (.sample "c1" venue)).played ⟨0⟩
    (fun _ => .ok (.object [("result", .arr [.object fields])])) (fun _ d => d)
    (deskHolding venue)

/-- The entry that decides a sample. -/
def sampleDecider? (venue : VenueIdentity) (fields : List (String × Json)) : Option Members :=
  decisive? {} (.sample "c1" venue) (listed (sampleAdoption venue fields).1)

/-- Id fields that read alike. -/
def agreeingIds : List (String × Json) := [("id", .ofInt 55), ("order_id", .str " 55 ")]

/-- Id fields of which the one that matches is masked. -/
def maskedIds : List (String × Json) := [("id", .str "55"), ("order_id", .str "999")]

/-- The id held is adopted from an entry whose id fields agree. -/
theorem adopts_of_runs_agreeingIds :
  ∃ entry, sampleDecider? (.unconfirmed ⟨"55"⟩) agreeingIds = some entry ∧
    OrderEntry.score (.sample "c1" (.unconfirmed ⟨"55"⟩)) .standard entry = .exact .venueId ∧
    Adopts (.sample "c1" (.unconfirmed ⟨"55"⟩)) ⟨"55"⟩
      (resumed (deskHolding (.unconfirmed ⟨"55"⟩))
        (sampleAdoption (.unconfirmed ⟨"55"⟩) agreeingIds).1)
      (sampleAdoption (.unconfirmed ⟨"55"⟩) agreeingIds).2.1
      (sampleAdoption (.unconfirmed ⟨"55"⟩) agreeingIds).2.2
  := by
  have hdecides : (sampleDecider? (.unconfirmed ⟨"55"⟩) agreeingIds).isSome = true := by
    decide
  have hmatches : (sampleDecider? (.unconfirmed ⟨"55"⟩) agreeingIds).all (fun entry =>
      OrderEntry.score (.sample "c1" (.unconfirmed ⟨"55"⟩)) .standard entry = .exact .venueId ∧
        ¬OrderEntry.Masks entry ⟨"55"⟩) = true := by
    decide
  obtain ⟨entry, hentry⟩ := Option.isSome_iff_exists.mp hdecides
  rw [hentry, Option.all_some, decide_eq_true_iff] at hmatches
  obtain ⟨-, hruns⟩ := adopts_of_runs
    (rfl : (Order.sample "c1" (.unconfirmed ⟨"55"⟩)).knownId? = some ⟨"55"⟩) (by decide)
  obtain ⟨id, -, hmasks, hadopts⟩ :=
    hruns _ _ _ _ entry (Routine.runs_played ..) hentry hmatches.1
  cases hmasks.mpr hmatches.2
  exact ⟨entry, hentry, hmatches.1, hadopts⟩

/-- Another id than the one that matched is adopted: it is confirmed for an order that holds an
id which is not confirmed, and it is refused as a conflict for one that has its id confirmed. -/
theorem adopted_another :
  (∃ entry, sampleDecider? (.unconfirmed ⟨"55"⟩) maskedIds = some entry ∧
    OrderEntry.score (.sample "c1" (.unconfirmed ⟨"55"⟩)) .standard entry = .exact .venueId ∧
    OrderEntry.venueId? entry = some ⟨"999"⟩) ∧
  (∃ es d', (Desk.resolve {} (.sample "c1" (.unconfirmed ⟨"55"⟩))).Runs
      (deskHolding (.unconfirmed ⟨"55"⟩)) es (.finished (.resolved ⟨"999"⟩)) d' ∧
    d'.book.orders = [.sample "c1" (.confirmed ⟨"999"⟩)]) ∧
  ∃ es d', (Desk.resolve {} (.sample "c1" (.confirmed ⟨"55"⟩))).Runs
      (deskHolding (.confirmed ⟨"55"⟩)) es (.finished .unresolved) d' ∧
    d'.metrics.head? = some (.anomaly Anomaly.venueIdConflict.label)
  := by
  refine ⟨?_, ?_, ?_⟩
  · have hdecides : (sampleDecider? (.unconfirmed ⟨"55"⟩) maskedIds).isSome = true := by
      decide
    have hmatches : (sampleDecider? (.unconfirmed ⟨"55"⟩) maskedIds).all (fun entry =>
        OrderEntry.score (.sample "c1" (.unconfirmed ⟨"55"⟩)) .standard entry = .exact .venueId ∧
          OrderEntry.venueId? entry = some ⟨"999"⟩) = true := by
      decide
    obtain ⟨entry, hentry⟩ := Option.isSome_iff_exists.mp hdecides
    rw [hentry, Option.all_some, decide_eq_true_iff] at hmatches
    exact ⟨entry, hentry, hmatches⟩
  · have hresolved : (sampleAdoption (.unconfirmed ⟨"55"⟩) maskedIds).2.1 =
        .resolved ⟨"999"⟩ := by
      decide
    refine ⟨(sampleAdoption (.unconfirmed ⟨"55"⟩) maskedIds).1,
      (sampleAdoption (.unconfirmed ⟨"55"⟩) maskedIds).2.2, ?_, by decide⟩
    rw [← hresolved]
    apply Routine.runs_played
  · have hunresolved : (sampleAdoption (.confirmed ⟨"55"⟩) maskedIds).2.1 = .unresolved := by
      decide
    refine ⟨(sampleAdoption (.confirmed ⟨"55"⟩) maskedIds).1,
      (sampleAdoption (.confirmed ⟨"55"⟩) maskedIds).2.2, ?_, by decide⟩
    rw [← hunresolved]
    apply Routine.runs_played

end Resolution

end VenueLink
