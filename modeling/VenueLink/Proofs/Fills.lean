import Mathlib.Data.List.Induction
import VenueLink.Proofs.Book

/-!
# Fills of the order book

A fill belongs to one order under watch, and the book records a fill when its trade id is new
to the book.  So of all the fills with one trade id that have an owner the first one is
recorded, for its owner, and none for any other order.
-/

namespace VenueLink.Book

variable {b b' : Book} {o : Order} {f : Fill} {fs : List Fill} {id : ClientId} {t : TradeId}

/-! ## Owners -/

/-- A fill belongs to an order: it carries the client id of the order, or it carries no client
id under watch and names the known venue id of the order. -/
def Belongs (b : Book) (o : Order) (f : Fill) : Prop :=
  f.clientId? = some o.clientId ∨ f.clientId?.bind b.find? = none ∧ o.knownId? = some f.venueId

instance (b : Book) (o : Order) (f : Fill) : Decidable (b.Belongs o f) :=
  inferInstanceAs (Decidable (_ ∨ _))

/-- The order that a fill is given to is one that it belongs to. -/
theorem belongs_of_owner? (h : b.owner? f = some o) :
  b.Belongs o f
  := by
  rcases Option.or_eq_some_iff.mp h with h | ⟨hnone, h⟩
  · left
    obtain ⟨id, hid, h⟩ := Option.bind_eq_some_iff.mp h
    rw [clientId_of_find? h, hid]
  · exact .inr ⟨hnone, knownId?_of_findByVenue? h⟩

/-- A fill that belongs to an order under watch is given to one. -/
theorem isSome_owner?_of_belongs (hb : b.Keyed) (ho : o ∈ b.orders) (h : b.Belongs o f) :
  (b.owner? f).isSome
  := by
  rcases h with h | ⟨-, h⟩
  · simp [owner?, h, find?_of_mem hb ho]
  · rw [owner?, Option.isSome_or, isSome_findByVenue? ho h, Bool.or_true]

theorem mem_of_owner? (h : b.owner? f = some o) :
  o ∈ b.orders
  := @mem_of_found b o f.clientId? (some f.venueId) h

/-- Owners are found among the orders alone. -/
theorem owner?_of_orders (h : b'.orders = b.orders) (f : Fill) :
  b'.owner? f = b.owner? f
  := by
  have hfind : b'.find? = b.find? := by
    funext id
    rw [find?, find?, h]
  rw [owner?, owner?, findByVenue?, findByVenue?, hfind, h]

/-! ## Recorded fills -/

/-- The fills recorded for an order that have a trade id. -/
def recorded (b : Book) (id : ClientId) (t : TradeId) : List Fill :=
  (b.fillsOf id).filter fun f => f.tradeId = t

/-- An appended fill comes last among those of its order. -/
theorem fillsOf_appendFill (b : Book) (id other : ClientId) (f : Fill) :
  { b with fills := appendFill id f b.fills }.fillsOf other
    = if other = id then b.fillsOf other ++ [f] else b.fillsOf other
  := by
  obtain ⟨orders, fills, seen⟩ := b
  simp only [fillsOf]
  fun_induction appendFill id f fills with
  | case1 =>
      by_cases h : other = id
      · simp [h]
      · simp [h, Ne.symm h]
  | case2 fs rest =>
      by_cases h : other = id
      · simp [h]
      · simp [h, Ne.symm h]
  | case3 key fs rest hne ih =>
      by_cases hkey : key = other
      · subst hkey
        simp [hne]
      · simpa [hkey] using ih

/-- The book with a fill recorded for an order. -/
def note (b : Book) (o : Order) (f : Fill) : Book :=
  { b with fills := appendFill o.clientId f b.fills, seen := b.seen ++ [f.tradeId] }

theorem fillsOf_note (b : Book) (o : Order) (f : Fill) (id : ClientId) :
  (b.note o f).fillsOf id = if id = o.clientId then b.fillsOf id ++ [f] else b.fillsOf id
  := fillsOf_appendFill b o.clientId id f

theorem mem_fillsOf_note {g : Fill} :
  g ∈ (b.note o f).fillsOf id ↔ g ∈ b.fillsOf id ∨ id = o.clientId ∧ g = f
  := by
  rw [fillsOf_note]
  split
  case isTrue hid => simp [hid]
  case isFalse hid => simp [hid]

/-- A fill is recorded for its owner if its trade id is new, and else it changes nothing. -/
theorem record_cases (b : Book) (f : Fill) :
  (∃ o, b.owner? f = some o ∧ f.tradeId ∉ b.seen ∧ b.record f = (b.note o f, true))
    ∨ (b.owner? f = none ∨ f.tradeId ∈ b.seen) ∧ b.record f = (b, false)
  := by
  cases ho : b.owner? f with
  | none => simp [record, ho]
  | some o =>
      by_cases hseen : f.tradeId ∈ b.seen
      · simp [record, ho, hseen]
      · simp [record, ho, hseen, note]

/-- A fill is recorded for its owner if its trade id is new. -/
theorem recorded_record (hb : b.Keyed) (ho : o ∈ b.orders) (f : Fill) (t : TradeId) :
  (b.record f).1.recorded o.clientId t
    = b.recorded o.clientId t
      ++ if b.owner? f = some o ∧ f.tradeId = t ∧ t ∉ b.seen then [f] else []
  := by
  rcases record_cases b f with ⟨p, hp, hnew, hrecord⟩ | ⟨hold, hrecord⟩
  · -- An owner is told from other orders by its client id.
    have howner : o.clientId = p.clientId ↔ b.owner? f = some o := by
      rw [hp, Option.some_inj]
      constructor
      · intro h
        have hfind := find?_of_mem hb ho
        rw [h, find?_of_mem hb (mem_of_owner? hp)] at hfind
        exact Option.some.inj hfind
      · rintro rfl
        rfl
    rw [hrecord, recorded, fillsOf_note]
    by_cases heq : o.clientId = p.clientId
    · rw [if_pos heq, List.filter_append]
      by_cases ht : f.tradeId = t
      · subst ht
        simp [recorded, howner.mp heq, hnew]
      · simp [recorded, ht]
    · rw [if_neg heq, if_neg fun h => heq (howner.mpr h.1), List.append_nil]
      rfl
  · rw [hrecord, if_neg, List.append_nil]
    rintro ⟨hown, rfl, hnew⟩
    rcases hold with hnone | hseen
    · rw [hnone] at hown
      cases hown
    · exact hnew hseen

/-- A trade id is seen once a fill with it has been recorded. -/
theorem mem_seen_record (b : Book) (f : Fill) (t : TradeId) :
  t ∈ (b.record f).1.seen ↔ t ∈ b.seen ∨ (b.owner? f).isSome ∧ f.tradeId = t
  := by
  rcases record_cases b f with ⟨o, ho, -, hrecord⟩ | ⟨hnone | hseen, hrecord⟩
  · simp [hrecord, note, ho, eq_comm]
  · simp [hrecord, hnone]
  · rw [hrecord]
    constructor
    · exact .inl
    · rintro (h | ⟨-, rfl⟩)
      · exact h
      · exact hseen

/-! ## Books that operations lead to -/

/-- Operations of any kind lead to a book from one without orders and fills. -/
def Reached (b : Book) : Prop := ∃ ops : List Operation, b = ops.foldl perform {}

/-- What an operation may do to a book: it changes nothing, or it puts an order in place or adds
one, or it records a fill for its owner. -/
inductive Step (b : Book) : Operation → Book → Prop where
  | stay (op : Operation) : Step b op b
  | put (op : Operation) (o : Order) : Step b op (b.put o)
  | add (op : Operation) (o : Order) : Step b op { b with orders := b.orders ++ [o] }
  | note {o : Order} {f : Fill} (ho : b.owner? f = some o) (hnew : f.tradeId ∉ b.seen) :
    Step b (.fill f) (b.note o f)

theorem step_perform (b : Book) (op : Operation) :
  b.Step op (b.perform op)
  := by
  cases op with
  | update u =>
      rw [perform, apply]
      split
      · exact .stay _
      · exact .put _ _
  | fill f =>
      rw [perform]
      rcases record_cases b f with ⟨o, ho, hnew, hrecord⟩ | ⟨-, hrecord⟩
      · rw [hrecord]
        exact .note ho hnew
      · rw [hrecord]
        exact .stay _
  | confirm id v =>
      rw [perform]
      split
      case h_1 b' hc =>
        obtain ⟨_, _, -, -, rfl⟩ := eq_put_of_confirm hc
        exact .put _ _
      · exact .stay _
  | track o =>
      rw [perform, track]
      split
      · exact .put _ _
      · exact .add _ _

/-- What holds of a book without orders and fills, and after every step if it held before, holds
of all books that operations lead to. -/
theorem Reached.of_step {P : Book → Prop} (h : b.Reached) (hempty : P {})
    (hstep : ∀ {b op b'}, P b → b.Step op b' → P b') :
  P b
  := by
  obtain ⟨ops, rfl⟩ := h
  induction ops using List.reverseRecOn with
  | nil => exact hempty
  | append_singleton ops op ih =>
      rw [List.foldl_concat]
      exact hstep ih (step_perform _ op)

/-- The trade id of every recorded fill is seen. -/
def Noted (b : Book) : Prop := ∀ id, ∀ f ∈ b.fillsOf id, f.tradeId ∈ b.seen

theorem Noted.note (h : b.Noted) (o : Order) (f : Fill) :
  (b.note o f).Noted
  := by
  intro id g hg
  rw [Book.note, List.mem_append, List.mem_singleton]
  rcases mem_fillsOf_note.mp hg with hg | ⟨-, rfl⟩
  · exact .inl (h id g hg)
  · exact .inr rfl

/-- Only the recording of a fill changes the fills, and it notes the trade id. -/
theorem Noted.step {op : Operation} (h : b.Noted) (hstep : b.Step op b') :
  b'.Noted
  := by
  cases hstep with
  | stay => exact h
  | put => exact h
  | add => exact h
  | note => exact h.note _ _

theorem Reached.noted (h : b.Reached) :
  b.Noted
  := by
  apply h.of_step
  · exact fun _ _ hf => absurd hf List.not_mem_nil
  · exact Noted.step

/-! ## Delivered fills -/

/-- Fills are delivered one after the other. -/
def deliver (b : Book) (fs : List Fill) : Book :=
  fs.foldl (fun b f => (b.record f).1) b

theorem deliver_cons (b : Book) (f : Fill) (rest : List Fill) :
  b.deliver (f :: rest) = (b.record f).1.deliver rest
  := rfl

/-- The first of some fills that has a trade id and is owned. -/
def firstOwned? (b : Book) (t : TradeId) (fs : List Fill) : Option Fill :=
  fs.find? fun f => f.tradeId = t ∧ (b.owner? f).isSome

/-- Of the fills delivered with a trade id that is new the first one that is owned is recorded,
for its owner. -/
theorem recorded_deliver (hb : b.Keyed) (ho : o ∈ b.orders) (fs : List Fill) (t : TradeId) :
  (b.deliver fs).recorded o.clientId t
    = b.recorded o.clientId t ++ if t ∈ b.seen then []
      else ((b.firstOwned? t fs).filter fun f => b.owner? f = some o).toList
  := by
  induction fs generalizing b with
  | nil => simp [deliver, firstOwned?]
  | cons f rest ih =>
      have horders := record_orders b f
      have hkeyed : (b.record f).1.Keyed := by
        rw [Keyed, horders]
        exact hb
      have howner := owner?_of_orders horders
      rw [deliver_cons, ih hkeyed (by rwa [horders]), recorded_record hb ho, List.append_assoc]
      simp only [firstOwned?, howner, mem_seen_record]
      congr 1
      by_cases hfirst : f.tradeId = t ∧ (b.owner? f).isSome
      · rw [List.find?_cons_of_pos (by simpa using hfirst)]
        by_cases hseen : t ∈ b.seen
        · simp [hseen]
        · by_cases hown : b.owner? f = some o
          · simp [hseen, hfirst, hown, Option.filter]
          · simp [hseen, hfirst, hown, Option.filter]
      · rw [List.find?_cons_of_neg (by simpa using hfirst)]
        have hother : ¬(b.owner? f = some o ∧ f.tradeId = t ∧ t ∉ b.seen) := by
          rintro ⟨h, ht, -⟩
          exact hfirst ⟨ht, by rw [h, Option.isSome_some]⟩
        rw [if_neg hother, List.nil_append]
        simp only [and_comm, hfirst, or_false]

/-- If the first fill with a trade id that is owned is given to an order, it is the first one
with the trade id that belongs to the order. -/
theorem find?_belongs_of_firstOwned? (hb : b.Keyed) (ho : o ∈ b.orders)
    (h : b.firstOwned? t fs = some f) (hown : b.owner? f = some o) :
  (fs.find? fun f => f.tradeId = t ∧ b.Belongs o f) = some f
  := by
  obtain ⟨hf, before, after, rfl, hbefore⟩ := List.find?_eq_some_iff_append.mp h
  rw [decide_eq_true_eq] at hf
  apply List.find?_eq_some_iff_append.mpr
  constructor
  · simpa using ⟨hf.1, belongs_of_owner? hown⟩
  · use before, after, rfl
    intro g hg
    have hnot := hbefore g hg
    simp only [Bool.not_eq_true', decide_eq_false_iff_not] at hnot ⊢
    rintro ⟨ht, hbelongs⟩
    exact hnot ⟨ht, isSome_owner?_of_belongs hb ho hbelongs⟩

/-- If a fill with a trade id is delivered that belongs to an order, then the first such fill is
the only one that is recorded for the order, provided that it is the first fill with the trade
id that has any owner, and that the order is given it.  Otherwise none is recorded. -/
theorem recorded_of_delivered (hb : b.Keyed) (hfills : b.fills = []) (hseen : b.seen = [])
    (ho : o ∈ b.orders) (h : ∃ f ∈ fs, f.tradeId = t ∧ b.Belongs o f) :
  ∃ f, (fs.find? fun f => f.tradeId = t ∧ b.Belongs o f) = some f
    ∧ (b.deliver fs).recorded o.clientId t
      = if b.firstOwned? t fs = some f ∧ b.owner? f = some o then [f] else []
  := by
  have hempty : b.recorded o.clientId t = [] := by simp [recorded, fillsOf, hfills]
  rw [recorded_deliver hb ho, hempty, hseen, List.nil_append, if_neg List.not_mem_nil]
  have hfirst : (fs.find? fun f => f.tradeId = t ∧ b.Belongs o f).isSome := by
    rw [List.find?_isSome]
    simpa using h
  obtain ⟨f, hf⟩ := Option.isSome_iff_exists.mp hfirst
  use f, hf
  cases hg : b.firstOwned? t fs with
  | none => simp
  | some g =>
      by_cases hown : b.owner? g = some o
      · rw [find?_belongs_of_firstOwned? hb ho hg hown] at hf
        cases hf
        simp [hown, Option.filter]
      · rw [if_neg]
        · simp [hown, Option.filter]
        · rintro ⟨heq, hown'⟩
          cases heq
          exact hown hown'

/-- Fills with one trade id, of two orders. -/
def sampleFill (id : String) : Fill :=
  { (default : Fill) with tradeId := ⟨"t"⟩, clientId? := some ⟨id⟩ }

/-- A book without fills that has two orders under watch. -/
def sampleBook : Book :=
  { orders := [.sample "a" (.confirmed ⟨"1"⟩), .sample "b" (.confirmed ⟨"2"⟩)] }

/-- The order whose fill comes first keeps it, however often it is delivered. -/
theorem recorded_of_delivered_sampleBook :
  (sampleBook.deliver [sampleFill "a", sampleFill "b", sampleFill "a"]).recorded ⟨"a"⟩ ⟨"t"⟩
    = [sampleFill "a"]
  := by
  obtain ⟨f, hf, h⟩ := @recorded_of_delivered sampleBook (.sample "a" (.confirmed ⟨"1"⟩))
    [sampleFill "a", sampleFill "b", sampleFill "a"] ⟨"t"⟩ (by decide) rfl rfl (by decide)
    (by decide)
  have hfirst : f = sampleFill "a" := by
    have : some (sampleFill "a") = some f := hf
    exact (Option.some.inj this).symm
  rw [hfirst, if_pos (by decide)] at h
  exact h

/-- The other order loses the only fill that is delivered for it. -/
theorem not_recorded_of_sharedTradeId :
  ∃ (b : Book) (fs : List Fill) (o : Order) (f : Fill), b.Keyed ∧ b.fills = [] ∧ b.seen = []
    ∧ o ∈ b.orders ∧ f ∈ fs ∧ b.Belongs o f ∧ (∀ o' ∈ b.orders, b.Belongs o' f → o' = o)
    ∧ (b.deliver fs).recorded o.clientId f.tradeId = []
  := ⟨sampleBook, [sampleFill "a", sampleFill "b"], .sample "b" (.confirmed ⟨"2"⟩),
    sampleFill "b", by decide, rfl, rfl, by decide, by decide, by decide, by decide, by decide⟩

end VenueLink.Book
