import VenueLink.Proofs.CancelCourse
import VenueLink.Proofs.JsonText
import VenueLink.Proofs.Runs

/-!
# The members of bulk requests

The candidates for bulk requests are the orders whose venue id is confirmed or is found by a
search.  They are cut into pieces, one for each bulk request, and the text of a request
denotes the members of its piece.
-/

namespace VenueLink

open Routine (exchanges)

namespace CancelRun

/-! ## Candidates -/

/-- Orders with the venue ids that are found for them, one after the other.  For an order
without a confirmed id a search is run. -/
inductive Finds (p : Policy) :
    Desk → List Order → List (Event Desk) → List (Order × Option VenueId) → Desk → Prop where
  | nil (d : Desk) : Finds p d [] [] [] d
  | confirmed {d d' : Desk} {o : Order} {id : VenueId} {rest : List Order}
    {es : List (Event Desk)} {found : List (Order × Option VenueId)}
    (hid : o.confirmedId? = some id) (h : Finds p d rest es found d') :
    Finds p d (o :: rest) es ((o, some id) :: found) d'
  | searched {d d₁ d' : Desk} {o : Order} {resolution : Resolution} {rest : List Order}
    {es es' : List (Event Desk)} {found : List (Order × Option VenueId)}
    (hid : o.confirmedId? = none)
    (hsearch : (Desk.resolve p o).Runs d es (.finished resolution) d₁)
    (h : Finds p d₁ rest es' found d') :
    Finds p d (o :: rest) (es ++ es') ((o, resolution.id?) :: found) d'

/-- The orders for which a venue id was found, with their ids. -/
def candidates (found : List (Order × Option VenueId)) : List BulkMember :=
  found.filterMap fun (o, id?) => id?.map fun id => ⟨o, id⟩

/-- The orders for which no venue id was found. -/
def unfound (found : List (Order × Option VenueId)) : List Order :=
  (found.filter fun (_, id?) => id?.isNone).map (·.1)

variable {p : Policy} {d d' : Desk} {orders others : List Order} {es : List (Event Desk)}
  {found : List (Order × Option VenueId)} {ms : List BulkMember}

theorem Finds.map_fst (h : Finds p d orders es found d') :
  found.map (·.1) = orders
  := by
  induction h with
  | nil d => rfl
  | confirmed hid h ih => rw [List.map_cons, ih]
  | searched hid hsearch h ih => rw [List.map_cons, ih]

/-- Some orders are the candidates among them and the others. -/
theorem candidates_append_unfound_perm (found : List (Order × Option VenueId)) :
  ((candidates found).map (·.order) ++ unfound found).Perm (found.map (·.1))
  := by
  induction found with
  | nil => exact .nil
  | cons entry rest ih =>
      obtain ⟨o, id?⟩ := entry
      cases id? with
      | some id => exact ih.cons o
      | none => exact List.perm_middle.trans (ih.cons o)

/-- An order joins the parts of the orders after it: the members of bulk requests if a venue id
was found for it, or else the others. -/
def join (o : Order) (id? : Option VenueId) (parts : List BulkMember × List Order) :
    List BulkMember × List Order :=
  match id? with
  | some id => (⟨o, id⟩ :: parts.1, parts.2)
  | none => (parts.1, o :: parts.2)

theorem members_cons (p : Policy) (o : Order) (rest : List Order) :
  members p (o :: rest) = (match o.confirmedId? with
    | some id => join o (some id) <$> members p rest
    | none => do
      let resolution ← Desk.resolve p o
      join o resolution.id? <$> members p rest)
  := by
  rw [members]
  cases o.confirmedId? with
  | some id =>
      rw [map_eq_pure_bind]
      rfl
  | none =>
      simp only [map_eq_pure_bind, bind_assoc, pure_bind]
      congr 1
      funext resolution
      congr 1
      funext parts
      cases resolution.id? with
      | some id => rfl
      | none => rfl

theorem join_candidates (o : Order) (id? : Option VenueId)
    (found : List (Order × Option VenueId)) :
  join o id? (candidates found, unfound found)
    = (candidates ((o, id?) :: found), unfound ((o, id?) :: found))
  := by
  cases id? with
  | some id => rfl
  | none => rfl

/-- The search for venue ids finds the candidates in the order in which the orders are
given. -/
theorem exists_finds_of_runs {parts : List BulkMember × List Order}
    (h : (members p orders).Runs d es (.finished parts) d') :
  ∃ found, Finds p d orders es found d' ∧ parts = (candidates found, unfound found)
  := by
  induction orders generalizing d es parts with
  | nil =>
      obtain ⟨rfl, rfl, rfl⟩ := (Routine.runs_pure _).mp h
      exact ⟨[], .nil d', rfl⟩
  | cons o rest ih =>
      rw [members_cons] at h
      split at h
      case h_1 id hid =>
        obtain ⟨parts', hrest, rfl⟩ := (Routine.runs_map _ _).mp h
        obtain ⟨found, hfinds, rfl⟩ := ih hrest
        exact ⟨_, .confirmed hid hfinds, join_candidates o (some id) found⟩
      case h_2 hid =>
        obtain ⟨resolution, d₁, before, after, rfl, hsearch, h⟩ := (Routine.runs_bind _ _).mp h
        obtain ⟨parts', hrest, rfl⟩ := (Routine.runs_map _ _).mp h
        obtain ⟨found, hfinds, rfl⟩ := ih hrest
        exact ⟨_, .searched hid hsearch hfinds, join_candidates o resolution.id? found⟩

/-! ## Pieces -/

/-- A piece has between one and so many items. -/
theorem length_of_mem_pieces {α : Type} {n : Nat} {items piece : List α}
    (h : piece ∈ pieces n items) :
  1 ≤ piece.length ∧ piece.length ≤ n + 1
  := by
  fun_induction pieces n items with
  | case1 => exact absurd h List.not_mem_nil
  | case2 a rest ih =>
      rcases List.mem_cons.mp h with rfl | h
      · rw [List.length_cons, List.length_take]
        omega
      · exact ih h

theorem batchSize_sub_one_add_one (p : Policy) :
  batchSize p - 1 + 1 = batchSize p
  := Nat.sub_add_cancel (Nat.le_max_left ..)

/-! ## Requests -/

/-- The market and the venue id of a member of a bulk request. -/
def sentMember? (v : Json) : Option (String × String) :=
  (v.get? "market").bind fun market => market.str?.bind fun market =>
    (v.get? "order_id").bind fun id => id.str?.map fun id => (market, id)

/-- The members of a bulk request as its text lists them. -/
def sentMembers? (r : VenueRequest) : Option (List (String × String)) :=
  (r.params.get? "orders_json").bind fun text => (Json.parse? text).bind fun
    | .arr items => items.mapM sentMember?
    | _ => none

theorem market_lt_order_id :
  "market" < "order_id"
  := by decide

theorem memberJson_eq (m : BulkMember) :
  memberJson m
    = .obj [("market", .str m.order.pair.symbol), ("order_id", .str m.venueId.text)]
  := by
  rw [memberJson, Json.object, Json.Members.ofList_of_pairwise]
  exact List.pairwise_pair.mpr market_lt_order_id

theorem plain_bulkRequest (ms : List BulkMember) :
  Json.Plain Json.maxDepth (.arr (ms.map memberJson))
  := by
  apply Json.Plain.arr
  rw [List.forall_mem_map]
  intro m _
  rw [memberJson_eq]
  apply Json.Plain.obj
  · exact List.pairwise_pair.mpr market_lt_order_id
  · rintro member hmember
    simp only [List.mem_cons, List.not_mem_nil, or_false] at hmember
    rcases hmember with rfl | rfl
    · apply Json.Plain.str
    · apply Json.Plain.str

theorem sentMember?_memberJson (m : BulkMember) :
  sentMember? (memberJson m) = some (m.order.pair.symbol, m.venueId.text)
  := by
  rw [memberJson_eq]
  rfl

/-- A bulk request lists its members by their markets and venue ids. -/
theorem sentMembers?_bulkRequest (ms : List BulkMember) :
  sentMembers? (bulkRequest ms)
    = some (ms.map fun m => (m.order.pair.symbol, m.venueId.text))
  := by
  have htext : (bulkRequest ms).params.get? "orders_json"
      = some (Json.arr (ms.map memberJson)).render := rfl
  rw [sentMembers?, htext, Option.bind_some, Json.parse?_render (plain_bulkRequest ms),
    Option.bind_some]
  dsimp only
  clear htext
  induction ms with
  | nil => rfl
  | cons m rest ih => simp [List.mapM_cons, sentMember?_memberJson, ih]

end CancelRun

end VenueLink
