import VenueLink.Proofs.Fills

/-!
# The account of fills

A book keeps the fills of each order in a list, and apart from them the trade ids of all fills.
Whatever operations are performed, the two agree, every list is that of an order under watch, and
a trade id comes only once in it.  An operation changes the lists at most by one fill, which comes
last in the list of its owner, and a fill is said to be recorded just when that happens.
-/

namespace VenueLink.Book

variable {b b' : Book} {op : Operation} {o : Order} {f : Fill}

/-! ## What is kept -/

/-- The fills of a book and the trade ids that it saw agree with each other and with its
orders. -/
structure Accounted (b : Book) : Prop where
  /-- An order has one list of fills. -/
  keyed : (b.fills.map (·.1)).Nodup
  /-- Every list of fills is that of an order under watch. -/
  watched : b.fills.map (·.1) ⊆ b.orders.map (·.clientId)
  /-- No two fills of an order have the same trade id. -/
  distinct : ∀ id, ((b.fillsOf id).map (·.tradeId)).Nodup
  /-- The trade id of every recorded fill is seen. -/
  noted : b.Noted
  /-- A trade id is seen only with a fill that is recorded. -/
  recorded : ∀ t ∈ b.seen, ∃ id, ∃ f ∈ b.fillsOf id, f.tradeId = t

theorem Accounted.mem_seen_iff (h : b.Accounted) (t : TradeId) :
  t ∈ b.seen ↔ ∃ id, ∃ f ∈ b.fillsOf id, f.tradeId = t
  := by
  constructor
  · exact h.recorded t
  · rintro ⟨id, f, hf, rfl⟩
    exact h.noted id f hf

/-! ## What a step keeps -/

/-- A client id comes to those with a list of fills unless it is one of them. -/
theorem map_fst_appendFill (id : ClientId) (f : Fill) (fills : List (ClientId × List Fill)) :
  (appendFill id f fills).map (·.1)
    = if id ∈ fills.map (·.1) then fills.map (·.1) else fills.map (·.1) ++ [id]
  := by
  fun_induction appendFill id f fills with
  | case1 => rfl
  | case2 fs rest => simp
  | case3 key fs rest hne ih =>
      rw [List.map_cons, ih]
      by_cases hid : id ∈ rest.map (·.1)
      · simp [hid]
      · simp [hid, Ne.symm hne]

theorem Accounted.note (h : b.Accounted) (ho : b.owner? f = some o) (hnew : f.tradeId ∉ b.seen) :
  (b.note o f).Accounted where
  keyed := by
    rw [Book.note, map_fst_appendFill]
    split
    case isTrue => exact h.keyed
    case isFalse hid =>
      rw [← List.concat_eq_append]
      exact h.keyed.concat hid
  watched := by
    have hmem : o.clientId ∈ b.orders.map (·.clientId) := List.mem_map_of_mem (mem_of_owner? ho)
    rw [Book.note, map_fst_appendFill]
    split
    case isTrue => exact h.watched
    case isFalse => exact List.append_subset.mpr ⟨h.watched, by simpa using hmem⟩
  distinct id := by
    rw [fillsOf_note]
    split
    case isTrue =>
      rw [List.map_append, List.map_singleton, ← List.concat_eq_append]
      apply (h.distinct id).concat
      -- A fill of the order with this trade id would have been noted.
      intro hmem
      obtain ⟨g, hg, heq⟩ := List.mem_map.mp hmem
      exact hnew (heq ▸ h.noted id g hg)
    case isFalse => exact h.distinct id
  noted := h.noted.note o f
  recorded t ht := by
    rcases List.mem_append.mp ht with ht | ht
    · obtain ⟨id, g, hg, hgt⟩ := h.recorded t ht
      exact ⟨id, g, mem_fillsOf_note.mpr (.inl hg), hgt⟩
    · use o.clientId, f, mem_fillsOf_note.mpr (.inr ⟨rfl, rfl⟩)
      exact (List.mem_singleton.mp ht).symm

/-- A step keeps the account, since the client ids under watch stay so. -/
theorem Accounted.step (h : b.Accounted) (hstep : b.Step op b') :
  b'.Accounted
  := by
  cases hstep with
  | stay => exact h
  | put op o =>
      have hwatched : b.fills.map (·.1) ⊆ (b.put o).orders.map (·.clientId) := by
        rw [map_clientId_put]
        exact h.watched
      exact { h with watched := hwatched }
  | add op o =>
      have hwatched : b.fills.map (·.1) ⊆ (b.orders ++ [o]).map (·.clientId) := by
        rw [List.map_append]
        exact List.subset_append_of_subset_left _ h.watched
      exact { h with watched := hwatched }
  | note ho hnew => exact h.note ho hnew

theorem Reached.accounted (h : b.Reached) :
  b.Accounted
  := by
  apply h.of_step
  · exact ⟨.nil, List.nil_subset _, fun _ => .nil, nofun, nofun⟩
  · exact Accounted.step

/-! ## What a step adds -/

/-- The list of an order stays, or a fill that is given to the order comes at its end. -/
theorem Step.fillsOf (h : b.Step op b') :
  (∀ id, b'.fillsOf id = b.fillsOf id)
    ∨ ∃ f o, op = .fill f ∧ b.owner? f = some o
      ∧ ∀ id, b'.fillsOf id = if id = o.clientId then b.fillsOf id ++ [f] else b.fillsOf id
  := by
  cases h with
  | stay => exact .inl fun _ => rfl
  | put => exact .inl fun _ => rfl
  | add => exact .inl fun _ => rfl
  | note ho _ => exact .inr ⟨_, _, rfl, ho, fillsOf_note b _ _⟩

theorem record_eq_true_iff :
  (b.record f).2 = true ↔ (b.owner? f).isSome ∧ f.tradeId ∉ b.seen
  := by
  rcases record_cases b f with ⟨o, ho, hnew, hrecord⟩ | ⟨hnone | hseen, hrecord⟩
  · simp [hrecord, ho, hnew]
  · simp [hrecord, hnone]
  · simp [hrecord, hseen]

/-- A fill is said to be recorded if it comes at the end of a list. -/
theorem record_eq_true_iff_appended :
  (b.record f).2 = true ↔ ∃ id, (b.record f).1.fillsOf id = b.fillsOf id ++ [f]
  := by
  rcases record_cases b f with ⟨o, -, -, hrecord⟩ | ⟨-, hrecord⟩
  · rw [hrecord]
    constructor
    · intro _
      use o.clientId
      rw [fillsOf_note, if_pos rfl]
    · exact fun _ => rfl
  · simp [hrecord]

/-- A fill that is refused changes nothing. -/
theorem record_of_eq_false (h : (b.record f).2 = false) :
  (b.record f).1 = b
  := by
  rcases record_cases b f with ⟨o, -, -, hrecord⟩ | ⟨-, hrecord⟩
  · rw [hrecord] at h
    cases h
  · rw [hrecord]

/-- In every book that operations lead to the fills are accounted for: under each client id there is
one list, of an order under watch, in which no two fills have the same trade id, and the trade ids
that are seen are those of the recorded fills.  An operation leaves all lists as they are, or it is
a fill that comes at the end of the list of its owner.  A fill is said to be recorded just when it
comes at the end of a list.  That is when it has an owner and no recorded fill has its trade id;
otherwise it changes nothing, so that it may still be recorded when it comes again. -/
theorem accounted_of_reached (hb : b.Reached) :
  b.Accounted
    ∧ (∀ op, (∀ id, (b.perform op).fillsOf id = b.fillsOf id)
      ∨ ∃ f o, op = .fill f ∧ b.owner? f = some o
        ∧ ∀ id, (b.perform op).fillsOf id
          = if id = o.clientId then b.fillsOf id ++ [f] else b.fillsOf id)
    ∧ ∀ f, ((b.record f).2 = true ↔ ∃ id, (b.record f).1.fillsOf id = b.fillsOf id ++ [f])
      ∧ ((b.record f).2 = true
        ↔ (b.owner? f).isSome ∧ ∀ id, ∀ g ∈ b.fillsOf id, g.tradeId ≠ f.tradeId)
      ∧ ((b.record f).2 = false → (b.record f).1 = b)
  := by
  have haccount := hb.accounted
  refine ⟨haccount, fun op => (step_perform b op).fillsOf, fun f => ⟨?_, ?_, ?_⟩⟩
  · exact record_eq_true_iff_appended
  · rw [record_eq_true_iff, haccount.mem_seen_iff]
    simp only [not_exists, not_and, ne_eq]
  · exact record_of_eq_false

/-- A book that got a fill of an order, then the order, and then the fill again. -/
def earlyBook : Book :=
  [.fill (sampleFill "a"), .track (.sample "a" .unknown), .fill (sampleFill "a")].foldl perform {}

/-- Another fill of the order. -/
def laterFill : Fill := { sampleFill "a" with tradeId := ⟨"u"⟩ }

/-- The fill was refused at first, since it had no owner, and yet recorded when it came again.  When
it comes once more it is refused for its trade id, and another one comes after it. -/
theorem accounted_of_reached_earlyBook :
  ({} : Book).record (sampleFill "a") = ({}, false)
    ∧ earlyBook.Reached ∧ earlyBook.Accounted ∧ earlyBook.fillsOf ⟨"a"⟩ = [sampleFill "a"]
    ∧ (earlyBook.record (sampleFill "a")).2 = false
    ∧ (earlyBook.record (sampleFill "a")).1 = earlyBook
    ∧ ∃ id, (earlyBook.record laterFill).1.fillsOf id = earlyBook.fillsOf id ++ [laterFill]
  := by
  have hreached : earlyBook.Reached := ⟨_, rfl⟩
  obtain ⟨haccount, -, hrecord⟩ := accounted_of_reached hreached
  obtain ⟨-, hnew, hsame⟩ := hrecord (sampleFill "a")
  have hrefused : (earlyBook.record (sampleFill "a")).2 = false := by
    rw [Bool.eq_false_iff, Ne, hnew]
    rintro ⟨-, hother⟩
    exact hother ⟨"a"⟩ (sampleFill "a") (by decide) rfl
  obtain ⟨happended, -, -⟩ := hrecord laterFill
  exact ⟨by decide, hreached, haccount, by decide, hrefused, hsame hrefused,
    happended.mp (by decide)⟩

end VenueLink.Book
