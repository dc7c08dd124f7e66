import VenueLink.Proofs.CancelConfined
import VenueLink.Proofs.CancelOutcome
import Mathlib.Logic.Relation

/-!
# Single cancels side by side

In the second part of a run the single cancels take turns in any order.  Under a clock that
stands still and with a venue that answers the same to the same request, each of them does
side by side with the others what it does alone, so the order of the turns makes no
difference to the book and to the report.
-/

namespace VenueLink

open Relation (ReflTransGen)
open CancelRun (singlePart)
open Routine (Confined Pause)

/-- Two runs agree on an order: on what the book has of it, and on its outcome. -/
def CancelRun.AgreesOn (id : ClientId) (run run' : CancelRun) : Prop :=
  run.desk.book.find? id = run'.desk.book.find? id ∧ run.progress.Same id run'.progress

namespace CancelRun

variable {id other : ClientId} {run run' : CancelRun}

theorem AgreesOn.refl (id : ClientId) (run : CancelRun) :
  run.AgreesOn id run
  := ⟨rfl, Iff.rfl, rfl⟩

theorem AgreesOn.trans {run'' : CancelRun} (h : run.AgreesOn id run')
    (h' : run'.AgreesOn id run'') :
  run.AgreesOn id run''
  := ⟨h.1.trans h'.1, h.2.1.trans h'.2.1, h.2.2.trans h'.2.2⟩

theorem AgreesOn.symm (h : run.AgreesOn id run') :
  run'.AgreesOn id run
  := ⟨h.1.symm, h.2.1.symm, h.2.2.symm⟩

theorem agreesOn_of_same (h : (part id).Same run run') :
  run.AgreesOn id run'
  := by
  obtain ⟨⟨o, ho, ho'⟩, hprogress⟩ := h
  exact ⟨ho.trans ho'.symm, hprogress⟩

theorem agreesOn_of_spares (h : (part id).Spares run run') (hne : other ≠ id) :
  run.AgreesOn other run'
  := ⟨(h.1.find? other hne).symm, h.2 other hne⟩

/-- What spares the rest leaves every other order as it is. -/
theorem same_of_spares (h : (part id).Spares run run') (hne : other ≠ id)
    (hother : (part other).Same run run) :
  (part other).Same run run'
  := by
  obtain ⟨⟨o, ho, -⟩, -⟩ := hother
  use ⟨o, ho, (h.1.find? other hne).trans ho⟩
  exact h.2 other hne

end CancelRun

namespace CancelPoint

/-- A single cancel takes its turn: it is taken up, or its open question is answered. -/
inductive Turn (p : Policy) (t : Moment) (venue : VenueRequest → Reply) :
    CancelPoint → CancelPoint → Prop where
  | takeUp {run run' : CancelRun} {before after : List Order} {o : Order}
    {asking : List SingleCancel} {q : Pause CancelRun Unit}
    (h : (singlePart p o).advance t run = (q, run')) :
    Turn p t venue ⟨run, .singles (before ++ o :: after) asking⟩
      ⟨run', .singles (before ++ after) (asking ++ SingleCancel.ofPause o q)⟩
  | answer {run run' : CancelRun} {waiting : List Order} {before after : List SingleCancel}
    {s : SingleCancel} {q : Pause CancelRun Unit}
    (h : (s.next (venue s.request)).advance t run = (q, run')) :
    Turn p t venue ⟨run, .singles waiting (before ++ s :: after)⟩
      ⟨run', .singles waiting (before ++ SingleCancel.ofPause s.order q ++ after)⟩

/-- Single cancels take turns. -/
def Turns (p : Policy) (t : Moment) (venue : VenueRequest → Reply) :
    CancelPoint → CancelPoint → Prop :=
  ReflTransGen (Turn p t venue)

variable {p : Policy} {t : Moment} {venue : VenueRequest → Reply} {c c' : CancelPoint}
  {orders waiting : List Order} {run run' : CancelRun} {d : Desk} {answers : List CancelAnswer}
  {others : Desk → Desk → Prop}

/-- A turn is a step of the run. -/
theorem Turn.step (h : Turn p t venue c c') :
  ∃ answers, Step p c answers c'
  := by
  cases h with
  | @takeUp run run' before after o asking q h =>
      have hreaches := Routine.reaches_advance t (singlePart p o) run
      rw [h] at hreaches
      exact ⟨_, .takeUp hreaches⟩
  | @answer run run' waiting before after s q h =>
      have hreaches := Routine.reaches_advance t (s.next (venue s.request)) run
      rw [h] at hreaches
      exact ⟨_, .answer hreaches⟩

theorem Comes.turns (h : Comes p others orders d answers c) (h' : Turns p t venue c c') :
  ∃ answers', Comes p others orders d answers' c'
  := by
  induction h' with
  | refl => exact ⟨answers, h⟩
  | tail _ hturn ih =>
      obtain ⟨answers', hcomes⟩ := ih
      obtain ⟨now, hstep⟩ := hturn.step
      exact ⟨_, hcomes.step hstep⟩

/-! ## What is left to do -/

/-- A routine that is to work on the order of a run. -/
abbrev Task := Order × Routine CancelRun Unit

/-- What is left of the task of an order that has come to a pause. -/
def leftOf (venue : VenueRequest → Reply) (o : Order) : Pause CancelRun Unit → List Task
  | .finished _ => []
  | .asking r k => [(o, k (venue r))]

/-- The tasks of the second part of a run: orders are to be taken up, and questions to be
answered. -/
def tasks (p : Policy) (venue : VenueRequest → Reply) : CancelStage → List Task
  | .singles waiting asking => waiting.map (fun o => (o, singlePart p o))
    ++ asking.map fun s => (s.order, s.next (venue s.request))
  | _ => []

theorem map_ofPause (o : Order) (q : Pause CancelRun Unit) :
  (SingleCancel.ofPause o q).map (fun s => (s.order, s.next (venue s.request)))
    = leftOf venue o q
  := by
  cases q with
  | finished u => rfl
  | asking r k => rfl

/-- With a turn one of the tasks goes on to its next pause. -/
theorem Turn.exists_task (h : Turn p t venue c c') :
  ∃ o m rest, (tasks p venue c.stage).Perm ((o, m) :: rest)
    ∧ (tasks p venue c'.stage).Perm (leftOf venue o (m.advance t c.run).1 ++ rest)
    ∧ c'.run = (m.advance t c.run).2
  := by
  let first (o : Order) : Task := (o, singlePart p o)
  let next (s : SingleCancel) : Task := (s.order, s.next (venue s.request))
  cases h with
  | @takeUp run run' before after o asking q h =>
      use o, singlePart p o, before.map first ++ after.map first ++ asking.map next
      dsimp only
      rw [h]
      refine ⟨?_, ?_, rfl⟩
      · simp [tasks, first, next]
      · simpa [tasks, map_ofPause] using @List.perm_append_comm _
          (before.map first ++ after.map first ++ asking.map next) (leftOf venue o q)
  | @answer run run' waiting before after s q h =>
      use s.order, s.next (venue s.request),
        waiting.map first ++ before.map next ++ after.map next
      dsimp only
      rw [h]
      refine ⟨?_, ?_, rfl⟩
      · simpa [tasks] using @List.perm_middle _ (next s) (waiting.map first ++ before.map next)
          (after.map next)
      · simpa [tasks, map_ofPause] using List.perm_append_comm_assoc
          (waiting.map first ++ before.map next) (leftOf venue s.order q) (after.map next)

/-- Tasks are apart: each one is the only one for its order, which is under watch, and is
confined to it. -/
structure Apart (t : Moment) (tasks : List Task) (run : CancelRun) : Prop where
  nodup : (tasks.map (·.1.clientId)).Nodup
  watched : ∀ x ∈ tasks, (CancelRun.part x.1.clientId).Same run run
  confined : ∀ x ∈ tasks, Confined (CancelRun.part x.1.clientId) t x.2

/-- What will have become of the order of a client id when its task is done, if it has one. -/
inductive Outlook (t : Moment) (venue : VenueRequest → Reply) (tasks : List Task)
    (run : CancelRun) (id : ClientId) : CancelRun → Prop where
  | task {o : Order} {m : Routine CancelRun Unit} (h : (o, m) ∈ tasks) (hid : o.clientId = id) :
    Outlook t venue tasks run id (m.answeredBy t venue run).2
  | done (h : ∀ x ∈ tasks, x.1.clientId ≠ id) : Outlook t venue tasks run id run

section Tasks

variable {ts ts' rest : List Task} {o : Order} {m : Routine CancelRun Unit}
  {id : ClientId} {r : CancelRun}

theorem Apart.perm (h : Apart t ts run) (hperm : ts.Perm ts') :
  Apart t ts' run where
  nodup := (hperm.map _).nodup_iff.mp h.nodup
  watched x hx := h.watched x (hperm.mem_iff.mpr hx)
  confined x hx := h.confined x (hperm.mem_iff.mpr hx)

theorem Outlook.perm (h : Outlook t venue ts run id r) (hperm : ts.Perm ts') :
  Outlook t venue ts' run id r
  := by
  cases h with
  | task h hid => exact .task (hperm.mem_iff.mp h) hid
  | done h => exact .done fun x hx => h x (hperm.mem_iff.mpr hx)

theorem exists_outlook (t : Moment) (venue : VenueRequest → Reply) (ts : List Task)
    (run : CancelRun) (id : ClientId) :
  ∃ r, Outlook t venue ts run id r
  := by
  by_cases h : ∃ x ∈ ts, x.1.clientId = id
  · obtain ⟨⟨o, m⟩, hx, hid⟩ := h
    exact ⟨_, .task hx hid⟩
  · exact ⟨run, .done fun x hx hid => h ⟨x, hx, hid⟩⟩

theorem mem_leftOf_iff (o : Order) (q : Pause CancelRun Unit) (x : Task) :
  x ∈ leftOf venue o q ↔ ∃ r k, q = .asking r k ∧ x = (o, k (venue r))
  := by
  cases q with
  | finished u => simp [leftOf]
  | asking r k => simp [leftOf]

theorem clientId_ne_of_mem (h : Apart t ((o, m) :: rest) run) {x : Task} (hx : x ∈ rest) :
  x.1.clientId ≠ o.clientId
  := by
  have hnodup := h.nodup
  rw [List.map_cons, List.nodup_cons] at hnodup
  intro heq
  apply hnodup.1
  rw [← heq]
  exact List.mem_map_of_mem hx

/-- A turn keeps the tasks apart. -/
theorem Apart.turn (h : Apart t ((o, m) :: rest) run) :
  Apart t (leftOf venue o (m.advance t run).1 ++ rest) (m.advance t run).2
  := by
  have hwatched := h.watched _ List.mem_cons_self
  have hconfined := h.confined _ List.mem_cons_self
  constructor
  · apply List.Nodup.sublist _ h.nodup
    rw [List.map_append, List.map_cons]
    cases (m.advance t run).1 with
    | finished u => exact List.sublist_cons_self _ _
    | asking r k => exact List.Sublist.refl _
  · intro x hx
    rcases List.mem_append.mp hx with hx | hx
    · obtain ⟨r, k, -, rfl⟩ := (mem_leftOf_iff _ _ _).mp hx
      exact hconfined.stretch.same hwatched
    · have hsame := CancelRun.same_of_spares (hconfined.stretch.spares hwatched)
        (clientId_ne_of_mem h hx) (h.watched x (List.mem_cons_of_mem _ hx))
      exact Routine.Part.same_left (Routine.Part.symm _ hsame)
  · intro x hx
    rcases List.mem_append.mp hx with hx | hx
    · obtain ⟨r, k, hasks, rfl⟩ := (mem_leftOf_iff _ _ _).mp hx
      exact hconfined.next hwatched hasks _
    · exact h.confined x (List.mem_cons_of_mem _ hx)

/-- A turn leaves the outlook of every order as it is. -/
theorem Outlook.turn (h : Outlook t venue ((o, m) :: rest) run id r)
    (hapart : Apart t ((o, m) :: rest) run) :
  ∃ r', Outlook t venue (leftOf venue o (m.advance t run).1 ++ rest) (m.advance t run).2 id r'
    ∧ r.AgreesOn id r'
  := by
  have hwatched := hapart.watched _ List.mem_cons_self
  have hconfined := hapart.confined _ List.mem_cons_self
  have hspares := hconfined.stretch.spares hwatched
  cases h with
  | @task o' m' hmem hid =>
      subst hid
      rcases List.mem_cons.mp hmem with heq | hmem
      · -- The order whose turn it is: its task has done a first stretch.
        cases heq
        rw [Routine.answeredBy_eq]
        cases hpause : (m.advance t run).1 with
        | finished u =>
            refine ⟨_, .done fun x hx => clientId_ne_of_mem hapart hx, .refl _ _⟩
        | asking r k =>
            refine ⟨_, .task (List.mem_append_left _ List.mem_cons_self) rfl, .refl _ _⟩
      · -- Another order: its task finds the order as before.
        refine ⟨_, .task (List.mem_append_right _ hmem) rfl, ?_⟩
        have hmem' := List.mem_cons_of_mem (o, m) hmem
        have hsame := CancelRun.same_of_spares hspares (clientId_ne_of_mem hapart hmem)
          (hapart.watched _ hmem')
        exact CancelRun.agreesOn_of_same
          (((hapart.confined _ hmem').answeredBy venue).same hsame)
  | done hdone =>
      refine ⟨_, .done ?_, CancelRun.agreesOn_of_spares hspares
        (hdone _ List.mem_cons_self).symm⟩
      intro x hx
      rcases List.mem_append.mp hx with hx | hx
      · obtain ⟨r, k, -, rfl⟩ := (mem_leftOf_iff _ _ _).mp hx
        exact hdone (o, m) List.mem_cons_self
      · exact hdone x (List.mem_cons_of_mem _ hx)

end Tasks

/-! ## Turns -/

/-- A turn keeps the tasks apart, touches neither the fills nor which orders are under watch,
and leaves the outlook of every order as it is. -/
theorem Turn.keeps (h : Turn p t venue c c') (hc : Apart t (tasks p venue c.stage) c.run) :
  Apart t (tasks p venue c'.stage) c'.run
    ∧ c'.run.desk.book.frame = c.run.desk.book.frame
    ∧ ∀ id r, Outlook t venue (tasks p venue c.stage) c.run id r →
      ∃ r', Outlook t venue (tasks p venue c'.stage) c'.run id r' ∧ r.AgreesOn id r'
  := by
  obtain ⟨o, m, rest, hperm, hperm', hrun⟩ := h.exists_task
  have hapart := hc.perm hperm
  rw [hrun]
  use hapart.turn.perm hperm'.symm
  constructor
  · have hwatched := hapart.watched _ List.mem_cons_self
    exact ((hapart.confined _ List.mem_cons_self).stretch.spares hwatched).1.frame
  · intro id r hr
    obtain ⟨r', hr', hagrees⟩ := (hr.perm hperm).turn hapart
    exact ⟨r', hr'.perm hperm'.symm, hagrees⟩

theorem Turns.keeps (h : Turns p t venue c c') (hc : Apart t (tasks p venue c.stage) c.run) :
  Apart t (tasks p venue c'.stage) c'.run
    ∧ c'.run.desk.book.frame = c.run.desk.book.frame
    ∧ ∀ id r, Outlook t venue (tasks p venue c.stage) c.run id r →
      ∃ r', Outlook t venue (tasks p venue c'.stage) c'.run id r' ∧ r.AgreesOn id r'
  := by
  induction h with
  | refl => exact ⟨hc, rfl, fun id r hr => ⟨r, hr, .refl id r⟩⟩
  | tail _ hturn ih =>
      obtain ⟨hapart, hframe, houtlook⟩ := ih
      obtain ⟨hapart', hframe', houtlook'⟩ := hturn.keeps hapart
      use hapart', hframe'.trans hframe
      intro id r hr
      obtain ⟨r', hr', hagrees⟩ := houtlook id r hr
      obtain ⟨r'', hr'', hagrees'⟩ := houtlook' id r' hr'
      exact ⟨r'', hr'', hagrees.trans hagrees'⟩

/-- When all is done, every order has come to what was its outlook. -/
theorem agreesOn_of_turns (h : Turns p t venue c ⟨run', .singles [] []⟩)
    (hc : Apart t (tasks p venue c.stage) c.run) {id : ClientId} {r : CancelRun}
    (hr : Outlook t venue (tasks p venue c.stage) c.run id r) :
  r.AgreesOn id run'
  := by
  obtain ⟨r', hr', hagrees⟩ := (h.keeps hc).2.2 id r hr
  cases hr' with
  | task hmem => exact absurd hmem List.not_mem_nil
  | done => exact hagrees

/-! ## Turns to the end -/

section End

variable (p t venue)

/-- A single cancel that came to a pause can go on to its end. -/
theorem turns_answeredBy (waiting : List Order) (before : List SingleCancel) (o : Order)
    (after : List SingleCancel) (m : Routine CancelRun Unit) (run : CancelRun) :
  Turns p t venue ⟨(m.advance t run).2,
      .singles waiting (before ++ SingleCancel.ofPause o (m.advance t run).1 ++ after)⟩
    ⟨(m.answeredBy t venue run).2, .singles waiting (before ++ after)⟩
  := by
  induction m generalizing run with
  | done u =>
      rw [Routine.advance, SingleCancel.ofPause, List.append_nil]
      exact .refl
  | look k ih => apply ih
  | change f m ih => apply ih
  | clock k ih => apply ih
  | ask r k ih =>
      rw [Routine.advance, SingleCancel.ofPause, List.append_assoc]
      apply ReflTransGen.head _ (ih (venue r) run)
      exact @Turn.answer p t venue run _ waiting before after ⟨o, r, k⟩ _ rfl

theorem exists_turns_asking (run : CancelRun) (waiting : List Order)
    (asking : List SingleCancel) :
  ∃ run', Turns p t venue ⟨run, .singles waiting asking⟩ ⟨run', .singles waiting []⟩
  := by
  induction asking generalizing run with
  | nil => exact ⟨run, .refl⟩
  | cons s rest ih =>
      let m := s.next (venue s.request)
      obtain ⟨run', hrest⟩ := ih (m.answeredBy t venue run).2
      use run'
      apply ReflTransGen.head (@Turn.answer p t venue run _ waiting [] rest s _ rfl)
      exact (turns_answeredBy p t venue waiting [] s.order rest m run).trans hrest

theorem exists_turns_waiting (run : CancelRun) (waiting : List Order) :
  ∃ run', Turns p t venue ⟨run, .singles waiting []⟩ ⟨run', .singles [] []⟩
  := by
  induction waiting generalizing run with
  | nil => exact ⟨run, .refl⟩
  | cons o rest ih =>
      obtain ⟨run', hrest⟩ := ih ((singlePart p o).answeredBy t venue run).2
      use run'
      apply ReflTransGen.head (@Turn.takeUp p t venue run _ [] rest o [] _ rfl)
      have hdone := turns_answeredBy p t venue rest [] o [] (singlePart p o) run
      rw [List.append_nil] at hdone
      exact hdone.trans hrest

/-- From wherever the second part of a run stands, turns lead to its end. -/
theorem exists_turns (run : CancelRun) (waiting : List Order) (asking : List SingleCancel) :
  ∃ run', Turns p t venue ⟨run, .singles waiting asking⟩ ⟨run', .singles [] []⟩
  := by
  obtain ⟨run₁, hasking⟩ := exists_turns_asking p t venue run waiting asking
  obtain ⟨run', hwaiting⟩ := exists_turns_waiting p t venue run₁ waiting
  exact ⟨run', hasking.trans hwaiting⟩

variable {p t venue}

theorem Turns.exists_singles {asking : List SingleCancel}
    (h : Turns p t venue ⟨run, .singles waiting asking⟩ c) :
  ∃ waiting' asking', c.stage = .singles waiting' asking'
  := by
  induction h with
  | refl => exact ⟨waiting, asking, rfl⟩
  | tail _ hturn _ =>
      cases hturn with
      | takeUp _ => exact ⟨_, _, rfl⟩
      | answer _ => exact ⟨_, _, rfl⟩

end End

/-! ## The end of the turns -/

/-- When the second part of a run begins, its tasks are apart. -/
theorem apart_of_comes (hbook : d.book.Keyed) (hnodup : (orders.map (·.clientId)).Nodup)
    (hwatched : ∀ o ∈ orders, (d.book.find? o.clientId).isSome)
    (h : Comes p Desk.Leads orders d answers ⟨run, .singles waiting []⟩) :
  Apart t (tasks p venue (.singles waiting [])) run
  := by
  obtain ⟨hleads, hsound⟩ := h.leads
  have htally : Tally orders waiting run.progress := by
    have := hsound.stage.1
    rwa [CancelStage.todo, List.map_nil, List.append_nil] at this
  rw [tasks, List.map_nil, List.append_nil]
  constructor
  · rw [List.map_map]
    exact htally.nodup hnodup
  · rw [List.forall_mem_map]
    intro o ho
    obtain ⟨o₀, ho₀, hid⟩ := List.mem_map.mp (htally.mem_of_todo ho)
    obtain ⟨o₁, ho₁⟩ := Option.isSome_iff_exists.mp (hwatched o₀ ho₀)
    obtain ⟨o₂, ho₂, -⟩ := Book.Leads.succeeds hleads hbook _ o₁ ho₁
    rw [hid] at ho₂
    exact ⟨⟨o₂, ho₂, ho₂⟩, Iff.rfl, rfl⟩
  · rw [List.forall_mem_map]
    intro o _
    apply CancelRun.confined_singlePart

/-- Runs that agree on every order have the same report. -/
theorem report_eq_of_agreesOn (hc : c.Sound orders) (hc' : c'.Sound orders)
    (h : ∀ id, c.run.AgreesOn id c'.run) :
  c.report = c'.report
  := by
  apply CancelReport.Sorted.eq_of_get?
  · exact CancelProgress.sorted_finish hc.parts.sorted _
  · exact CancelProgress.sorted_finish hc'.parts.sorted _
  · intro id
    obtain ⟨-, hpending, hreport⟩ := h id
    simp only [get?_report, hpending, hreport]

/-- In the second part of a run, for orders that are under watch and of which none is given
twice, each order comes to what its single cancel alone makes of it, in the book and in the
report.  From wherever some turns lead, others lead to the end, and all ends have the same
book and the same report. -/
theorem end_of_turns (hbook : d.book.Keyed) (hnodup : (orders.map (·.clientId)).Nodup)
    (hwatched : ∀ o ∈ orders, (d.book.find? o.clientId).isSome)
    (h : Comes p Desk.Leads orders d answers ⟨run, .singles waiting []⟩) (t : Moment)
    (venue : VenueRequest → Reply) :
  ∃ book report,
    (∀ o ∈ waiting,
      book.find? o.clientId
        = ((Desk.cancelOrder p o).answeredBy t venue run.desk).2.book.find? o.clientId
      ∧ report.get? o.clientId
        = some (.ofResult ((Desk.cancelOrder p o).answeredBy t venue run.desk).1))
    ∧ ∀ c, Turns p t venue ⟨run, .singles waiting []⟩ c →
      (∃ run', Turns p t venue c ⟨run', .singles [] []⟩)
      ∧ (c.stage = .singles [] [] → c.run.desk.book = book ∧ c.report = report)
  := by
  obtain ⟨hleads, hsound⟩ := h.leads
  have hapart := @apart_of_comes p t venue orders waiting run d answers hbook hnodup hwatched h
  obtain ⟨run', hend⟩ := exists_turns p t venue run waiting []
  use run'.desk.book, report ⟨run', .singles [] []⟩
  constructor
  · intro o ho
    have htask : (o, singlePart p o) ∈ tasks p venue (.singles waiting []) :=
      List.mem_append_left _ (List.mem_map_of_mem ho)
    obtain ⟨hfind, hpending, hget⟩ := agreesOn_of_turns hend hapart (.task htask rfl)
    rw [CancelRun.answeredBy_singlePart] at hfind hpending hget
    use hfind.symm
    have htally := hsound.stage.1
    have hout : o.clientId ∈ run.progress.pending := by
      apply htally.pending_of_todo hsound.parts (List.mem_append_left _ ho)
      apply List.count_eq_one_of_mem hnodup
      exact htally.mem_of_todo (List.mem_append_left _ ho)
    rw [get?_report, if_neg, ← hget, CancelRun.settle, CancelProgress.get?_settle,
      if_pos ⟨hout, rfl⟩]
    rw [← hpending, CancelRun.settle, CancelProgress.mem_pending_settle]
    exact fun h => h.2 rfl
  · intro c hc
    obtain ⟨waiting', asking', hstage⟩ := hc.exists_singles
    obtain ⟨run₁, stage⟩ := c
    cases hstage
    use exists_turns p t venue run₁ waiting' asking'
    intro hdone
    cases hdone
    have hagrees : ∀ id, run₁.AgreesOn id run' := by
      intro id
      obtain ⟨r, hr⟩ := exists_outlook t venue (tasks p venue (.singles waiting [])) run id
      exact (agreesOn_of_turns hc hapart hr).symm.trans (agreesOn_of_turns hend hapart hr)
    obtain ⟨_, hcomes₁⟩ := h.turns hc
    obtain ⟨_, hcomes'⟩ := h.turns hend
    constructor
    · apply Book.eq_of_find? (Book.Leads.keyed hcomes'.leads.1 hbook)
      · exact (hc.keeps hapart).2.1.trans (hend.keeps hapart).2.1.symm
      · exact fun id => (hagrees id).1
    · exact report_eq_of_agreesOn hcomes₁.leads.2 hcomes'.leads.2 hagrees

/-- When the bulk request for the two orders has failed and the venue then knows none of them,
both are canceled in whatever order their single cancels take turns. -/
theorem end_of_turns_sampleOrders :
  ∃ answers run book report,
    Comes {} Desk.Leads sampleOrders sampleDesk answers ⟨run, .singles sampleOrders []⟩
    ∧ (∀ o ∈ sampleOrders, (book.find? o.clientId).map (·.state) = some .canceled
      ∧ report.get? o.clientId = some .canceled)
    ∧ ∀ c, Turns {} ⟨0⟩ (fun _ => notFoundReply) ⟨run, .singles sampleOrders []⟩ c →
      c.stage = .singles [] [] → c.run.desk.book = book ∧ c.report = report
  := by
  have hbulk := @comes_of_failedBulk {} sampleDesk Desk.Leads
    [sampleMember "c1" "v1", sampleMember "c2" "v2"] (by decide) (by decide) (by decide)
    (.http 500 "busy")
  obtain ⟨book, report, halone, hturns⟩ := end_of_turns (by decide) (by decide) (by decide)
    hbulk ⟨0⟩ fun _ => notFoundReply
  refine ⟨_, _, book, report, hbulk, ?_, fun c hc => (hturns c hc).2⟩
  intro o ho
  obtain ⟨hfind, hget⟩ := halone o ho
  rw [hfind, hget]
  clear hfind hget
  revert o
  decide

end CancelPoint

end VenueLink
