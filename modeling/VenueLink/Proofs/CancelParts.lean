import VenueLink.Proofs.CancelCourse

/-!
# The parts of a cancel run as courses

The first part of a run comes from pause to pause just as a course goes from point to point
before the single cancels, and the second part of an order is one of these.  So whoever
lets the parts work in turn takes a course.
-/

namespace VenueLink

open CancelRun (settleBulk acknowledgedBy bulkRequest)

/-! ## Work at the desk -/

/-- A pause of work at the desk of a run. -/
def CancelRun.deskPause {α : Type} :
    Routine.Pause Desk α → Routine.Pause CancelRun α
  | .finished a => .finished a
  | .asking r k => .asking r fun reply => atDesk (k reply)

theorem CancelRun.reaches_atDesk {α : Type} (m : Routine Desk α) (run run' : CancelRun)
    (q : Routine.Pause CancelRun α) :
  (atDesk m).Reaches run q run'
    ↔ ∃ q' d, m.Reaches run.desk q' d ∧ q = deskPause q' ∧ run' = { run with desk := d }
  := by
  induction m generalizing run with
  | done a =>
      constructor
      · rintro ⟨rfl, rfl⟩
        exact ⟨.finished a, run'.desk, ⟨rfl, rfl⟩, rfl, rfl⟩
      · rintro ⟨q', d, ⟨rfl, rfl⟩, rfl, rfl⟩
        exact ⟨rfl, rfl⟩
  | look k ih => apply ih
  | change f m ih => apply ih
  | clock k ih =>
      constructor
      · rintro ⟨t, h⟩
        obtain ⟨q', d, h, hq⟩ := (ih t run).mp h
        exact ⟨q', d, ⟨t, h⟩, hq⟩
      · rintro ⟨q', d, ⟨t, h⟩, hq⟩
        use t
        exact (ih t run).mpr ⟨q', d, h, hq⟩
  | ask r k ih =>
      constructor
      · rintro ⟨rfl, rfl⟩
        exact ⟨.asking r k, run'.desk, ⟨rfl, rfl⟩, rfl, rfl⟩
      · rintro ⟨q', d, ⟨rfl, rfl⟩, rfl, rfl⟩
        exact ⟨rfl, rfl⟩

/-- A piece of work at the desk of a run that ends at once is followed at once. -/
theorem CancelRun.reaches_atDesk_bind {α β : Type} {m : Routine Desk α}
    {f : α → Routine CancelRun β} {run run' : CancelRun} {a : α} {d : Desk}
    {q : Routine.Pause CancelRun β} (h : m.Reaches run.desk (.finished a) d)
    (hf : (f a).Reaches { run with desk := d } q run') :
  (atDesk m >>= f).Reaches run q run'
  := by
  apply (Routine.reaches_andThen (atDesk m) f run run' q).mpr
  right
  use a, { run with desk := d }
  exact ⟨(reaches_atDesk m run _ _).mpr ⟨.finished a, d, h, rfl, rfl⟩, hf⟩

/-! ## Sent cancels -/

/-- The single cancel of an order that was sent under a venue id. -/
def SingleCancel.sent (o : Order) (id : VenueId) : SingleCancel where
  order := o
  request := Desk.orderRequest .cancel o id
  next reply := do
    let result ← CancelRun.atDesk
      (Desk.answeredCancel o ((Desk.orderRequest .cancel o id).outcome reply))
    .modify (CancelRun.settle o.clientId (.ofResult result))

namespace CancelPoint

variable {p : Policy} {run : CancelRun} {waiting before after : List Order}
  {asking : List SingleCancel} {o : Order} {id : VenueId}

/-- The single cancel of a resting order with a confirmed venue id is sent at once. -/
theorem reaches_singlePart (hcurrent : run.desk.current o = o) (hrests : o.state = .resting)
    (hid : o.confirmedId? = some id) :
  (CancelRun.singlePart p o).Reaches run
    (.asking (SingleCancel.sent o id).request (SingleCancel.sent o id).next) run
  := by
  have h := @Desk.reaches_cancelOrder run.desk p o id (by rwa [hcurrent]) (by rwa [hcurrent])
  rw [hcurrent] at h
  apply (Routine.reaches_andThen _ _ run run _).mpr
  left
  exact ⟨_, _, (CancelRun.reaches_atDesk _ run run _).mpr ⟨_, _, h, rfl, rfl⟩, rfl⟩

/-- A resting order with a confirmed venue id is sent for when it is taken up. -/
theorem Step.send (hcurrent : run.desk.current o = o) (hrests : o.state = .resting)
    (hid : o.confirmedId? = some id) :
  Step p ⟨run, .singles (before ++ o :: after) asking⟩ []
    ⟨run, .singles (before ++ after) (asking ++ [.sent o id])⟩
  := .takeUp (reaches_singlePart hcurrent hrests hid)

variable {before after : List SingleCancel} {reply : Reply}

/-- A cancel that was sent and is granted settles the order as canceled. -/
theorem Step.grant (now : Moment)
    (h : ∀ e, (Desk.orderRequest .cancel o id).outcome reply = .error e →
      e.isMissingOrder = true) :
  Step p ⟨run, .singles waiting (before ++ .sent o id :: after)⟩
    [.single o (Desk.orderRequest .cancel o id) reply]
    ⟨{ run with desk := run.desk.markCanceled o now }.settle o.clientId .canceled,
      .singles waiting (before ++ after)⟩
  := by
  have hreaches : ((SingleCancel.sent o id).next reply).Reaches run (.finished ())
      ({ run with desk := run.desk.markCanceled o now }.settle o.clientId .canceled) :=
    CancelRun.reaches_atDesk_bind (Desk.reaches_answeredCancel o now h) ⟨rfl, rfl⟩
  have hstep := @Step.answer p run _ waiting before after _ reply _ hreaches
  rwa [SingleCancel.ofPause, List.append_nil] at hstep

/-- A cancel that was sent and is refused settles the order as failed. -/
theorem Step.refuse {e : VenueError}
    (h : (Desk.orderRequest .cancel o id).outcome reply = .error e)
    (he : e.isMissingOrder = false) :
  Step p ⟨run, .singles waiting (before ++ .sent o id :: after)⟩
    [.single o (Desk.orderRequest .cancel o id) reply]
    ⟨run.settle o.clientId (.failed (CancelError.rejected o.clientId e).message),
      .singles waiting (before ++ after)⟩
  := by
  have hreaches : ((SingleCancel.sent o id).next reply).Reaches run (.finished ())
      (run.settle o.clientId (.failed (CancelError.rejected o.clientId e).message)) := by
    apply CancelRun.reaches_atDesk_bind
    · rw [h]
      apply Desk.reaches_answeredCancel_error o he
    · exact ⟨rfl, rfl⟩
  have hstep := @Step.answer p run _ waiting before after _ reply _ hreaches
  rwa [SingleCancel.ofPause, List.append_nil] at hstep

end CancelPoint

/-! ## The first part -/

/-- What is left of the first part when the venue ids have been found. -/
def CancelRun.afterMembers (p : Policy) (found : List BulkMember × List Order) :
    Routine CancelRun (List Order) := do
  let missed ← cancelBulks (pieces (batchSize p - 1) found.1)
  return found.2 ++ missed

/-- Where the first part of a run is while the run stands at a stage. -/
def CancelStage.pause (p : Policy) : CancelStage → Routine.Pause CancelRun (List Order)
  | finding r k => .asking r fun reply =>
    CancelRun.atDesk (k reply) >>= CancelRun.afterMembers p
  | bulk ms rest left => .asking (bulkRequest ms) fun reply => do
    let now ← .now
    let missed ← .update (settleBulk now (acknowledgedBy ms reply) ms)
    let others ← CancelRun.cancelBulks rest
    return left ++ (missed ++ others)
  | singles waiting _ => .finished waiting

/-- The single cancels that are open at a stage. -/
def CancelStage.asking : CancelStage → List SingleCancel
  | singles _ asking => asking
  | _ => []

@[simp]
theorem CancelStage.asking_sending (rest : List (List BulkMember)) (left : List Order) :
  (sending rest left).asking = []
  := by
  cases rest with
  | nil => rfl
  | cons ms rest => rfl

@[simp]
theorem CancelStage.asking_found (p : Policy)
    (q : Routine.Pause Desk (List BulkMember × List Order)) :
  (found p q).asking = []
  := by
  cases q with
  | finished found => apply asking_sending
  | asking r k => rfl

/-- The bulk requests that are to be sent are sent at once, or there is none. -/
theorem CancelRun.reaches_cancelBulks (p : Policy) (rest : List (List BulkMember))
    (left : List Order) (run run' : CancelRun) (q : Routine.Pause CancelRun (List Order)) :
  (do
    let missed ← cancelBulks rest
    return left ++ missed : Routine CancelRun (List Order)).Reaches run q run'
    ↔ q = (CancelStage.sending rest left).pause p ∧ run' = run
  := by
  cases rest with
  | nil =>
      change q = .finished (left ++ []) ∧ run' = run ↔ _
      rw [List.append_nil]
      rfl
  | cons ms rest =>
      simp only [cancelBulks, cancelBulk, Routine.fetch_eq, bind_assoc, pure_bind]
      rfl

/-- After the answer to a bulk request the bulk requests that follow it are sent. -/
theorem CancelRun.reaches_settled (p : Policy) (rest : List (List BulkMember))
    (left missed : List Order) (run run' : CancelRun)
    (q : Routine.Pause CancelRun (List Order)) :
  (do
    let others ← cancelBulks rest
    return left ++ (missed ++ others) : Routine CancelRun (List Order)).Reaches run q run'
    ↔ q = (CancelStage.sending rest (left ++ missed)).pause p ∧ run' = run
  := by
  simp only [← List.append_assoc]
  apply reaches_cancelBulks

/-- Once the venue ids have been found the first part goes on with the bulk requests. -/
theorem CancelRun.reaches_found (p : Policy) (m : Routine Desk (List BulkMember × List Order))
    (run run' : CancelRun) (q : Routine.Pause CancelRun (List Order)) :
  (atDesk m >>= afterMembers p).Reaches run q run'
    ↔ ∃ q' d, m.Reaches run.desk q' d ∧ q = (CancelStage.found p q').pause p
      ∧ run' = { run with desk := d }
  := by
  change ((atDesk m).andThen (afterMembers p)).Reaches run q run' ↔ _
  simp only [Routine.reaches_andThen, reaches_atDesk]
  constructor
  · rintro (⟨r, k, ⟨q', d, h, hq, hrun⟩, rfl⟩ | ⟨found, run₁, ⟨q', d, h, hq, rfl⟩, hafter⟩)
    · cases q' with
      | finished a => cases hq
      | asking r' k' =>
          cases hq
          exact ⟨.asking r k', d, h, rfl, hrun⟩
    · cases q' with
      | finished a =>
          cases hq
          obtain ⟨rfl, rfl⟩ := (reaches_cancelBulks p _ _ _ _ _).mp hafter
          exact ⟨.finished found, d, h, rfl, rfl⟩
      | asking r' k' => cases hq
  · rintro ⟨q', d, h, rfl, rfl⟩
    cases q' with
    | finished found =>
        right
        use found, { run with desk := d }, ⟨.finished found, d, h, rfl, rfl⟩
        exact (reaches_cancelBulks p _ _ _ _ _).mpr ⟨rfl, rfl⟩
    | asking r k =>
        left
        exact ⟨r, fun reply => atDesk (k reply), ⟨.asking r k, d, h, rfl, rfl⟩, rfl⟩

namespace CancelPoint

variable {p : Policy} {orders : List Order} {d : Desk}

/-- The first part of a run comes to its first pause just where the run begins. -/
theorem reaches_bulkPart (run : CancelRun) (q : Routine.Pause CancelRun (List Order)) :
  (CancelRun.bulkPart p orders).Reaches (.start d orders) q run
    ↔ ∃ c, Begins p orders d c ∧ c.run = run ∧ c.stage.asking = [] ∧ q = c.stage.pause p
  := by
  change (CancelRun.atDesk (CancelRun.members p orders)
    >>= CancelRun.afterMembers p).Reaches _ q run ↔ _
  rw [CancelRun.reaches_found]
  constructor
  · rintro ⟨q', d', h, rfl, rfl⟩
    exact ⟨_, ⟨h⟩, rfl, CancelStage.asking_found p q', rfl⟩
  · rintro ⟨c, ⟨h⟩, rfl, -, rfl⟩
    exact ⟨_, _, h, rfl, rfl⟩

/-- The first part of a run goes on from a question as the run does. -/
theorem reaches_of_pause {c : CancelPoint} {r : VenueRequest}
    {k : Reply → Routine CancelRun (List Order)} (hc : c.stage.pause p = .asking r k)
    (run : CancelRun) (q : Routine.Pause CancelRun (List Order)) :
  (∃ reply, (k reply).Reaches c.run q run)
    ↔ ∃ answers c', Step p c answers c' ∧ c'.run = run ∧ c'.stage.asking = []
      ∧ q = c'.stage.pause p
  := by
  obtain ⟨run₀, stage⟩ := c
  cases stage with
  | finding r' k' =>
      cases hc
      simp only [CancelRun.reaches_found]
      constructor
      · rintro ⟨reply, q', d, h, rfl, rfl⟩
        exact ⟨_, _, .find h, rfl, CancelStage.asking_found p q', rfl⟩
      · rintro ⟨answers, c', h, rfl, -, rfl⟩
        cases h with
        | find h => exact ⟨_, _, _, h, rfl, rfl⟩
  | bulk ms rest left =>
      cases hc
      constructor
      · rintro ⟨reply, now, h⟩
        obtain ⟨rfl, rfl⟩ := (CancelRun.reaches_settled p rest left _ _ run q).mp h
        exact ⟨_, _, .bulk rfl, rfl, CancelStage.asking_sending rest _, rfl⟩
      · rintro ⟨answers, c', h, rfl, -, rfl⟩
        cases h with
        | @bulk _ run' _ _ _ missed reply now h =>
            use reply, now
            apply (CancelRun.reaches_settled p rest left _ _ _ _).mpr
            rw [h]
            exact ⟨rfl, rfl⟩
  | singles waiting asking => cases hc

/-! ## Failed bulk requests -/

/-- Orders whose venue ids are confirmed are all members of bulk requests, at once. -/
theorem reaches_members {ms : List BulkMember}
    (h : ∀ m ∈ ms, m.order.confirmedId? = some m.venueId) :
  (CancelRun.members p (ms.map (·.order))).Reaches d (.finished (ms, [])) d
  := by
  induction ms with
  | nil => exact ⟨rfl, rfl⟩
  | cons m rest ih =>
      have hrest := ih fun m' hm' => h m' (List.mem_cons_of_mem m hm')
      rw [List.map_cons, CancelRun.members, h m List.mem_cons_self]
      apply (Routine.reaches_andThen (CancelRun.members p (rest.map (·.order))) _ d d _).mpr
      right
      exact ⟨(rest, []), d, hrest, rfl, rfl⟩

theorem pieces_of_length_le {α : Type} {n : Nat} {items : List α} (hne : items ≠ [])
    (h : items.length ≤ n + 1) :
  CancelRun.pieces n items = [items]
  := by
  cases items with
  | nil => exact absurd rfl hne
  | cons a rest =>
      have hn : rest.length ≤ n := by simpa using h
      rw [CancelRun.pieces, List.take_of_length_le hn, List.drop_of_length_le hn,
        CancelRun.pieces]

/-- A run of orders whose venue ids are confirmed begins with their only bulk request. -/
theorem begins_of_confirmed {ms : List BulkMember}
    (hms : ∀ m ∈ ms, m.order.confirmedId? = some m.venueId) (hne : ms ≠ [])
    (hlength : ms.length ≤ CancelRun.batchSize p) :
  Begins p (ms.map (·.order)) d ⟨.start d (ms.map (·.order)), .bulk ms [] []⟩
  := by
  have hbatch : 1 ≤ CancelRun.batchSize p := Nat.le_max_left _ _
  have hfound : CancelStage.found p (.finished (ms, [])) = .bulk ms [] [] := by
    rw [CancelStage.found, pieces_of_length_le hne (by omega)]
    rfl
  rw [← hfound]
  exact ⟨reaches_members hms⟩

/-- When the only bulk request of a run fails, its orders wait for their single cancels. -/
theorem comes_of_failedBulk (others : Desk → Desk → Prop) {ms : List BulkMember}
    (hms : ∀ m ∈ ms, m.order.confirmedId? = some m.venueId) (hne : ms ≠ [])
    (hlength : ms.length ≤ CancelRun.batchSize p) (e : VenueError) :
  Comes p others (ms.map (·.order)) d [.bulk ms (.error e)]
    ⟨.start (d.count (.unacknowledged ms.length)) (ms.map (·.order)),
      .singles (ms.map (·.order)) []⟩
  := by
  have hsettle : settleBulk ⟨0⟩ (acknowledgedBy ms (.error e)) ms
      (.start d (ms.map (·.order))) = (ms.map (·.order),
        .start (d.count (.unacknowledged ms.length)) (ms.map (·.order))) := by
    have hnone : acknowledgedBy ms (.error e) = [] := rfl
    simp [settleBulk, hnone, hne, CancelRun.start]
  exact Comes.step ⟨_, begins_of_confirmed hms hne hlength, .nil _⟩ (.bulk hsettle)

/-! ## Letting the parts work -/

variable {others : Desk → Desk → Prop}

/-- The first part of a run is at work where a course comes to: it goes on to a pause where the
course goes on to one. -/
def Follows (p : Policy) (others : Desk → Desk → Prop) (orders : List Order) (d : Desk)
    (m : Routine CancelRun (List Order)) (run : CancelRun) : Prop :=
  ∀ q run', m.Reaches run q run' → ∃ answers c, Comes p others orders d answers c
    ∧ c.run = run' ∧ c.stage.asking = [] ∧ q = c.stage.pause p

theorem follows_bulkPart (p : Policy) (others : Desk → Desk → Prop) (orders : List Order)
    (d : Desk) :
  Follows p others orders d (CancelRun.bulkPart p orders) (.start d orders)
  := by
  intro q run h
  obtain ⟨c, hbegins, hc⟩ := (reaches_bulkPart run q).mp h
  exact ⟨[], c, ⟨c, hbegins, .nil c⟩, hc⟩

/-- Whatever the answer to a question is, the first part goes on as a course does. -/
theorem Follows.answered {r : VenueRequest} {k : Reply → Routine CancelRun (List Order)}
    {run : CancelRun} (h : Follows p others orders d (.ask r k) run) (reply : Reply) :
  Follows p others orders d (k reply) run
  := by
  obtain ⟨answers, c, hcomes, rfl, -, hpause⟩ := h _ _ ⟨rfl, rfl⟩
  intro q run' hreaches
  obtain ⟨answers', c', hstep, hc'⟩ := (reaches_of_pause hpause.symm run' q).mp ⟨reply, hreaches⟩
  exact ⟨answers ++ answers', c', hcomes.step hstep, hc'⟩

variable {m : Routine CancelRun (List Order)} {run : CancelRun}

/-- When the first part of a run is over, its orders wait for their single cancels. -/
theorem Follows.finished {left : List Order} (h : Follows p others orders d (.done left) run) :
  ∃ answers, Comes p others orders d answers ⟨run, .singles left []⟩
  := by
  obtain ⟨answers, ⟨run', stage⟩, hcomes, rfl, hasking, hpause⟩ := h _ _ ⟨rfl, rfl⟩
  cases stage with
  | finding r k => cases hpause
  | bulk ms rest left => cases hpause
  | singles waiting asking =>
      cases hpause
      cases hasking
      exact ⟨answers, hcomes⟩

theorem Follows.clock {k : Moment → Routine CancelRun (List Order)}
    (h : Follows p others orders d (.clock k) run) (t : Moment) :
  Follows p others orders d (k t) run
  := fun q run' hreaches => h q run' ⟨t, hreaches⟩

theorem Follows.answeredBy (h : Follows p others orders d m run) (t : Moment)
    (venue : VenueRequest → Reply) :
  ∃ answers, Comes p others orders d answers
    ⟨(m.answeredBy t venue run).2, .singles (m.answeredBy t venue run).1 []⟩
  := by
  induction m generalizing run with
  | done left => apply h.finished
  | look k ih => apply ih _ h
  | change f m ih => apply ih h
  | clock k ih => apply ih t (h.clock t)
  | ask r k ih => apply ih (venue r) (h.answered (venue r))

end CancelPoint

end VenueLink
