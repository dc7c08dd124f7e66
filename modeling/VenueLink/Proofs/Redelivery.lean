import VenueLink.Proofs.Book

/-!
# Updates that come again

Messages and polls tell of the same changes, more than once and in any order.  An update that
was applied while its client id was under watch has said all it has to say: its venue id was
confirmed or met another one that stays, and its state was taken over or was refused for good.
So it changes nothing when it comes again, whatever happened in between, and operations lead
to the same book with such repetitions as without them.
-/

namespace VenueLink

namespace OrderState

/-- A state that tells of an end leaves an order that has ended. -/
theorem isTerminal_after {t : OrderState} (s : OrderState) (h : t.isTerminal = true) :
  (s.after t).isTerminal = true
  := by
  cases hs : s.isTerminal with
  | true => rwa [after_of_isTerminal hs]
  | false =>
      cases s with
      | resting => rwa [after_resting]
      | _ => contradiction

/-- A state that tells of no end, or of one that comes too late, changes nothing. -/
theorem after_eq_self {s t : OrderState} (h : t.isTerminal = true → s.isTerminal = true) :
  s.after t = s
  := by
  cases t with
  | resting => cases s <;> rfl
  | _ => exact after_of_isTerminal (h rfl) _

end OrderState

/-! ## What an order was told -/

/-- An update tells an order nothing new: it comes too late to confirm a venue id and too late
to end the order. -/
structure Order.Knows (o : Order) (u : Update) : Prop where
  venueId : u.venueId?.isSome = true → ∃ v, o.venue = .confirmed v
  state : u.state.isTerminal = true → o.state.isTerminal = true

namespace Order

variable {o o' : Order} {u : Update}

/-- What an order knows it still knows when it has become something else. -/
theorem Knows.becomes (h : o.Knows u) (hb : o.Becomes o') :
  o'.Knows u where
  venueId hu := by
    obtain ⟨v, hv⟩ := h.venueId hu
    exact ⟨v, hb.confirmed v hv⟩
  state hu := by
    have ho := h.state hu
    rwa [hb.state ho]

/-- A venue id can only be refused for one that is confirmed. -/
theorem exists_confirmed_of_confirm_error {v : VenueId} {e : IdConflict}
    (h : o.confirm v = .error e) :
  ∃ w, o.venue = .confirmed w
  := by
  unfold confirm at h
  split at h
  case h_1 w hw => exact ⟨w, hw⟩
  · cases h

/-- An order that was updated knows the update. -/
theorem knows_updated (o : Order) (u : Update) :
  (Book.updated o u).1.Knows u where
  venueId hu := by
    change ∃ v, (Book.identify o u).1.venue = .confirmed v
    obtain ⟨v, hv⟩ := Option.isSome_iff_exists.mp hu
    simp only [Book.identify, hv]
    split
    case h_1 o' ho =>
      rw [(confirm_eq_ok.mp ho).2]
      exact ⟨v, rfl⟩
    case h_2 e he => exact exists_confirmed_of_confirm_error he
  state hu := by
    rw [Book.updated_state]
    apply OrderState.isTerminal_after _ hu

/-- A venue id that comes too late identifies nothing. -/
theorem Knows.identify (h : o.Knows u) :
  (Book.identify o u).1 = o
  := by
  unfold Book.identify
  split
  · rfl
  case h_2 v hv =>
    obtain ⟨w, hw⟩ := h.venueId (by rw [hv, Option.isSome_some])
    split
    case h_1 o' ho =>
      obtain ⟨hvw, rfl⟩ := confirm_eq_ok.mp ho
      rw [← hvw w hw, ← hw]
    · rfl

/-- An update that tells nothing new changes nothing. -/
theorem Knows.updated (h : o.Knows u) :
  (Book.updated o u).1 = o
  := by
  change { (Book.identify o u).1 with state := (Book.identify o u).1.state.after u.state } = o
  rw [h.identify, OrderState.after_eq_self h.state]

/-- An update that tells nothing new is not applied. -/
theorem Knows.transition (h : o.Knows u) :
  (Book.updated o u).2.transition ≠ .applied
  := by
  change (Book.identify o u).1.state.propose u.state ≠ .applied
  rw [h.identify, Ne, OrderState.propose_eq_applied_iff, not_not]
  apply OrderState.after_eq_self h.state

end Order

namespace Book

variable {b b' : Book} {o : Order} {u : Update}

/-! ## What a book was told -/

/-- The client id that an update carries is under watch. -/
def HasClient (b : Book) (u : Update) : Prop := (u.clientId?.bind b.find?).isSome = true

instance (b : Book) (u : Update) : Decidable (b.HasClient u) :=
  inferInstanceAs (Decidable (_ = true))

/-- The order that an update names by its client id knows the update. -/
def Knows (b : Book) (u : Update) : Prop :=
  ∃ id o, u.clientId? = some id ∧ b.find? id = some o ∧ o.Knows u

/-- A book knows an update that was applied to it while its client id was under watch. -/
theorem knows_apply (hu : b.HasClient u) :
  (b.apply u).1.Knows u
  := by
  obtain ⟨o, ho⟩ := Option.isSome_iff_exists.mp hu
  obtain ⟨id, hid, ho⟩ := Option.bind_eq_some_iff.mp ho
  obtain rfl := clientId_of_find? ho
  refine ⟨o.clientId, (updated o u).1, hid, ?_, Order.knows_updated o u⟩
  rw [find?_apply_of_clientId hid ho, if_pos rfl]

theorem Knows.succeeds (h : b.Knows u) (hb : b.Succeeds b') :
  b'.Knows u
  := by
  obtain ⟨id, o, hid, ho, hknows⟩ := h
  obtain ⟨o', ho', hbecomes⟩ := hb id o ho
  exact ⟨id, o', hid, ho', hknows.becomes hbecomes⟩

/-- An order put in its own place changes nothing. -/
theorem put_eq_self (hb : b.Keyed) (ho : b.find? o.clientId = some o) :
  b.put o = b
  := by
  have hself : ∀ p ∈ b.orders, (if p.clientId = o.clientId then o else p) = p := by
    intro p hp
    split
    case isTrue hid =>
      have hfind := find?_of_mem hb hp
      rw [hid, ho] at hfind
      exact Option.some.inj hfind
    case isFalse => rfl
  have horders := (List.map_congr_left hself).trans b.orders.map_id
  rw [put, horders]

/-- An update that a book knows changes nothing and is not applied. -/
theorem Knows.apply (h : b.Knows u) (hb : b.Keyed) :
  ∃ verdict, b.apply u = (b, some verdict) ∧ verdict.transition ≠ .applied
  := by
  obtain ⟨id, o, hid, ho, hknows⟩ := h
  use (updated o u).2
  constructor
  · have hput : b.put o = b := by
      apply put_eq_self hb
      rwa [clientId_of_find? ho]
    rw [Book.apply, target?_of_clientId hid ho]
    dsimp only
    rw [hknows.updated, hput]
  · exact hknows.transition

/-! ## Repetitions -/

/-- The update that an operation applies, if its client id is under watch. -/
def Operation.told? (b : Book) : Operation → Option Update
  | update u => if b.HasClient u then some u else none
  | _ => none

/-- Operations on a book that was told some updates, with repetitions put in: each repeats an
update that was told to the book before. -/
inductive Repeats : Book → List Update → List Operation → List Operation → Prop where
  | nil (b : Book) (told : List Update) : Repeats b told [] []
  | cons {b : Book} {told : List Update} {ops ops' : List Operation} (op : Operation)
    (h : Repeats (b.perform op) ((op.told? b).toList ++ told) ops ops') :
    Repeats b told (op :: ops) (op :: ops')
  | again {b : Book} {told : List Update} {ops ops' : List Operation} {u : Update}
    (hu : u ∈ told) (h : Repeats b told ops ops') :
    Repeats b told ops (.update u :: ops')

/-- An operation leaves the book knowing what it knew and what it is told. -/
theorem knows_perform (hb : b.Keyed) {op : Operation} (hop : op.Fits b)
    (h : b.Knows u ∨ op.told? b = some u) :
  (b.perform op).Knows u
  := by
  rcases h with h | h
  · exact h.succeeds (succeeds_perform hb hop)
  · cases op with
    | update u' =>
        rw [Operation.told?] at h
        split at h
        case isTrue hu =>
          cases h
          exact knows_apply hu
        case isFalse => cases h
    | _ => cases h

/-- An update that comes again, after any operations, leaves the book as it is. -/
theorem Course.apply_again {ops : List Operation} (h : b.Course (.update u :: ops) b')
    (hb : b.Keyed) (hu : b.HasClient u) :
  ∃ verdict, b'.apply u = (b', some verdict) ∧ verdict.transition ≠ .applied
  := by
  cases h with
  | cons op hop h =>
      have hkeyed := keyed_perform hb hop
      have hknows : (b.perform (.update u)).Knows u := knows_apply hu
      exact (hknows.succeeds (h.succeeds hkeyed)).apply (h.keyed hkeyed)

/-- Operations lead to the same book when updates are repeated that the book knows. -/
theorem Course.of_repeats {told : List Update} {ops ops' : List Operation}
    (h : b.Course ops b') (hrepeats : b.Repeats told ops ops') (hb : b.Keyed)
    (htold : ∀ u ∈ told, b.Knows u) :
  b.Course ops' b'
  := by
  induction hrepeats with
  | nil => exact h
  | @cons b told ops ops' op _ ih =>
      cases h with
      | cons _ hop h =>
          apply Course.cons op hop
          apply ih h (keyed_perform hb hop)
          intro u hu
          apply knows_perform hb hop
          rcases List.mem_append.mp hu with hu | hu
          · exact .inr (by simpa using hu)
          · exact .inl (htold u hu)
  | @again b told ops ops' u hu _ ih =>
      -- The repetition leaves the book as it is, so the rest is performed on the same book.
      obtain ⟨verdict, happly, -⟩ := (htold u hu).apply hb
      have hsame : b.perform (.update u) = b := by rw [perform, happly]
      have hrest : (b.perform (.update u)).Course ops' b' := by
        rw [hsame]
        exact ih h hb htold
      exact .cons (.update u) trivial hrest

/-- Whatever operations are performed: an update that was applied while its client id was under
watch is not applied when it comes again at any later time and leaves the book as it is.  So the
operations lead to the same book with any number of such repetitions as without them. -/
theorem course_of_repeats (hb : b.Keyed) :
  (∀ before u between b₁ b₂, b.Course before b₁ → b₁.HasClient u →
      b₁.Course (.update u :: between) b₂ →
        ∃ verdict, b₂.apply u = (b₂, some verdict) ∧ verdict.transition ≠ .applied) ∧
    ∀ ops ops' b', b.Course ops b' → b.Repeats [] ops ops' → b.Course ops' b'
  := by
  constructor
  · intro before u between b₁ b₂ hbefore hu h
    exact h.apply_again (hbefore.keyed hb) hu
  · intro ops ops' b' h hrepeats
    exact h.of_repeats hrepeats hb nofun

/-- An update of the order with client id `a` under the venue id `7`. -/
def sampleUpdate (state : OrderState) : Update where
  clientId? := some ⟨"a"⟩
  venueId? := some ⟨"7"⟩
  pair := ⟨"BTC", "USDT"⟩
  state
  timestamp := ⟨0⟩
  identified := .inl rfl

/-- A book that watches one order, of which no venue id was seen. -/
def watchingBook : Book := { orders := [.sample "a" .unknown] }

/-- That the order rests is told again after it was canceled, and that it was canceled is told
twice. -/
theorem course_of_repeats_watchingBook :
  watchingBook.Keyed ∧ ∃ b,
    watchingBook.Course [.update (sampleUpdate .resting), .update (sampleUpdate .canceled)] b ∧
    watchingBook.Course [.update (sampleUpdate .resting), .update (sampleUpdate .canceled),
      .update (sampleUpdate .resting), .update (sampleUpdate .canceled)] b
  := by
  have hkeyed : watchingBook.Keyed := by decide
  have hcourse : watchingBook.Course
      [.update (sampleUpdate .resting), .update (sampleUpdate .canceled)] _ :=
    .cons _ trivial (.cons _ trivial (.nil _))
  refine ⟨hkeyed, _, hcourse, (course_of_repeats hkeyed).2 _ _ _ hcourse ?_⟩
  apply Repeats.cons
  apply Repeats.cons
  apply Repeats.again (by decide)
  apply Repeats.again (by decide)
  apply Repeats.nil

end Book

end VenueLink
