import VenueLink.Proofs.CancelParts
import VenueLink.Rehearsal.Desk
import VenueLink.Service.Offline

/-!
# Cancel runs that are played

A rehearsal lets the parts of a cancel run work against a scripted venue, and a service that
has no way to the venue lets them work one after the other.  Both take a course, and end
with the report of the point that it comes to.
-/

namespace VenueLink

open Rehearsal (Scene Sleeper play playToSleep startAll takeEarliest? wakeAll playTogether)

namespace CancelPoint

variable {p : Policy} {others : Desk → Desk → Prop} {orders : List Order} {d : Desk}

/-! ## The first part -/

section First

variable {m : Routine CancelRun (List Order)} {run run' : CancelRun}

theorem Follows.play (h : Follows p others orders d m run) {clock : Moment}
    {deadline? : Option Nat} {w w' : Scene} {left? : Option (List Order)}
    (hplay : play clock deadline? m run w = (left?, run', w')) :
  ∃ answers c, Comes p others orders d answers c ∧ c.run = run'
    ∧ ∀ left, left? = some left → c.stage = .singles left []
  := by
  induction m generalizing run w with
  | done left =>
      cases hplay
      obtain ⟨answers, hcomes⟩ := h.finished
      refine ⟨answers, _, hcomes, rfl, ?_⟩
      intro left' hleft
      cases hleft
      rfl
  | look k ih => apply ih _ h hplay
  | change f m ih => apply ih h hplay
  | clock k ih => apply ih clock (h.clock clock) hplay
  | ask r k ih =>
      simp only [Rehearsal.play] at hplay
      split at hplay
      · cases hplay
        obtain ⟨answers, c, hcomes, hrun, -⟩ := h _ _ ⟨rfl, rfl⟩
        use answers, c, hcomes, hrun
        intro left hleft
        cases hleft
      · apply ih _ (h.answered _) hplay

end First

/-! ## The second part -/

section Second

variable {waiting : List Order} {before after asking : List SingleCancel} {o : Order}
  {m : Routine CancelRun Unit} {run run' : CancelRun}

/-- The single cancel of an order is at work beside others: it goes on to a pause where a
course does. -/
def Joins (p : Policy) (others : Desk → Desk → Prop) (orders : List Order) (d : Desk)
    (waiting : List Order) (before : List SingleCancel) (o : Order)
    (after : List SingleCancel) (m : Routine CancelRun Unit) (run : CancelRun) : Prop :=
  ∀ q run', m.Reaches run q run' → ∃ answers, Comes p others orders d answers
    ⟨run', .singles waiting (before ++ SingleCancel.ofPause o q ++ after)⟩

theorem joins_singlePart {answers : List CancelAnswer}
    (h : Comes p others orders d answers ⟨run, .singles (o :: waiting) asking⟩) :
  Joins p others orders d waiting asking o [] (CancelRun.singlePart p o) run
  := by
  intro q run' hreaches
  use answers ++ []
  rw [List.append_nil (asking ++ _)]
  exact h.step (@Step.takeUp p run run' [] waiting o asking q hreaches)

theorem joins_next {answers : List CancelAnswer} {s : SingleCancel}
    (h : Comes p others orders d answers ⟨run, .singles waiting (before ++ s :: after)⟩)
    (reply : Reply) :
  Joins p others orders d waiting before s.order after (s.next reply) run
  := fun _ _ hreaches => ⟨_, h.step (.answer hreaches)⟩

theorem Joins.answered {r : VenueRequest} {k : Reply → Routine CancelRun Unit}
    (h : Joins p others orders d waiting before o after (.ask r k) run) (reply : Reply) :
  Joins p others orders d waiting before o after (k reply) run
  := by
  obtain ⟨answers, hcomes⟩ := h _ _ ⟨rfl, rfl⟩
  rw [SingleCancel.ofPause, List.append_assoc] at hcomes
  exact joins_next hcomes reply

theorem Joins.finished (h : Joins p others orders d waiting before o after (.done ()) run) :
  ∃ answers, Comes p others orders d answers ⟨run, .singles waiting (before ++ after)⟩
  := by
  obtain ⟨answers, hcomes⟩ := h _ _ ⟨rfl, rfl⟩
  rw [SingleCancel.ofPause, List.append_nil] at hcomes
  exact ⟨answers, hcomes⟩

theorem Joins.clock {k : Moment → Routine CancelRun Unit}
    (h : Joins p others orders d waiting before o after (.clock k) run) (t : Moment) :
  Joins p others orders d waiting before o after (k t) run
  := fun q run' hreaches => h q run' ⟨t, hreaches⟩

theorem Joins.answeredBy (h : Joins p others orders d waiting before o after m run)
    (t : Moment) (venue : VenueRequest → Reply) :
  ∃ answers, Comes p others orders d answers
    ⟨(m.answeredBy t venue run).2, .singles waiting (before ++ after)⟩
  := by
  induction m generalizing run with
  | done u => apply h.finished
  | look k ih => apply ih _ h
  | change f m ih => apply ih h
  | clock k ih => apply ih t (h.clock t)
  | ask r k ih => apply ih (venue r) (h.answered (venue r))

/-- Single cancels that are done one after the other are all taken up and finished. -/
theorem comes_answeredBy {answers : List CancelAnswer}
    (h : Comes p others orders d answers ⟨run, .singles waiting []⟩) (t : Moment)
    (venue : VenueRequest → Reply) :
  ∃ answers, Comes p others orders d answers
    ⟨waiting.foldl (fun run o => ((CancelRun.singlePart p o).answeredBy t venue run).2) run,
      .singles [] []⟩
  := by
  induction waiting generalizing run answers with
  | nil => exact ⟨answers, h⟩
  | cons o rest ih =>
      obtain ⟨answers', h'⟩ := (joins_singlePart h).answeredBy t venue
      apply ih h'

/-- What a single cancel goes on with once its question is answered. -/
def resume (a : SingleCancel × Reply) : Routine CancelRun Unit := a.1.next a.2

/-- The sleepers go on with the single cancels at which questions are open, each when its
answer is there. -/
def Asleep (sleepers : List (Sleeper CancelRun)) (asking : List SingleCancel) : Prop :=
  ∃ asked : List (SingleCancel × Reply), asked.map (·.1) = asking
    ∧ (asked.map resume).Perm (sleepers.map (·.next))

theorem Asleep.append {sleepers sleepers' : List (Sleeper CancelRun)}
    {asking asking' : List SingleCancel} (h : Asleep sleepers asking)
    (h' : Asleep sleepers' asking') :
  Asleep (sleepers ++ sleepers') (asking ++ asking')
  := by
  obtain ⟨asked, rfl, hperm⟩ := h
  obtain ⟨asked', rfl, hperm'⟩ := h'
  use asked ++ asked', List.map_append
  rw [List.map_append, List.map_append]
  apply hperm.append hperm'

/-- Whoever wakes goes on with one of the single cancels, and the others stay asleep. -/
theorem Asleep.wake {sleepers rest : List (Sleeper CancelRun)} {sleeper : Sleeper CancelRun}
    {asking : List SingleCancel} (h : Asleep sleepers asking)
    (hperm : sleepers.Perm (sleeper :: rest)) :
  ∃ before s after reply, asking = before ++ s :: after ∧ sleeper.next = s.next reply
    ∧ ∀ again asking', Asleep again asking' →
      Asleep (rest ++ again) (before ++ asking' ++ after)
  := by
  obtain ⟨asked, rfl, hasked⟩ := h
  have hall := hasked.trans (hperm.map (·.next))
  have hmem : sleeper.next ∈ asked.map resume := hall.mem_iff.mpr List.mem_cons_self
  obtain ⟨⟨s, reply⟩, hs, hnext⟩ := List.mem_map.mp hmem
  obtain ⟨before, after, rfl⟩ := List.append_of_mem hs
  refine ⟨before.map (·.1), s, after.map (·.1), reply, ?_, hnext.symm, ?_⟩
  · rw [List.map_append, List.map_cons]
  · rintro again asking' ⟨asked', rfl, hasked'⟩
    have hrest : ((before ++ after).map resume).Perm (rest.map (·.next)) := by
      rw [List.map_append, List.map_cons, hnext, List.map_cons] at hall
      rw [List.map_append]
      exact (List.perm_middle.symm.trans hall).cons_inv
    use before ++ asked' ++ after
    constructor
    · rw [List.map_append, List.map_append]
    · have hmove : (before ++ asked' ++ after).Perm (before ++ after ++ asked') := by
        rw [List.append_assoc, List.append_assoc]
        apply List.Perm.append_left
        apply List.perm_append_comm
      apply (hmove.map resume).trans
      have hsum := hrest.append hasked'
      rwa [← List.map_append, ← List.map_append] at hsum

theorem perm_takeEarliest? {sleepers rest : List (Sleeper CancelRun)}
    {sleeper : Sleeper CancelRun} (h : takeEarliest? sleepers = some (sleeper, rest)) :
  sleepers.Perm (sleeper :: rest)
  := by
  induction sleepers generalizing sleeper rest with
  | nil => cases h
  | cons s tail ih =>
      rw [takeEarliest?] at h
      split at h
      case h_1 hnone =>
        cases h
        cases tail with
        | nil => apply List.Perm.refl
        | cons t tail =>
            rw [takeEarliest?] at hnone
            split at hnone
            · cases hnone
            · split at hnone
              · cases hnone
              · cases hnone
      case h_2 t tail' hsome =>
        have htail := ih hsome
        split at h
        · cases h
          apply (htail.cons s).trans
          apply List.Perm.swap
        · cases h
          apply htail.cons s

/-- A single cancel that is played until it has to wait is asleep if it is not finished. -/
theorem Joins.playToSleep (h : Joins p others orders d waiting before o after m run)
    {clock : Moment} {w w' : Scene} {sleeper? : Option (Sleeper CancelRun)}
    (hplay : playToSleep clock m run w = (sleeper?, run', w')) :
  ∃ answers asking, Comes p others orders d answers
    ⟨run', .singles waiting (before ++ asking ++ after)⟩ ∧ Asleep sleeper?.toList asking
  := by
  induction m generalizing run w with
  | done u =>
      cases hplay
      obtain ⟨answers, hcomes⟩ := h.finished
      use answers, []
      rw [List.append_nil]
      exact ⟨hcomes, [], rfl, .nil⟩
  | look k ih => apply ih _ h hplay
  | change f m ih => apply ih h hplay
  | clock k ih => apply ih clock (h.clock clock) hplay
  | ask r k ih =>
      simp only [Rehearsal.playToSleep] at hplay
      split at hplay
      · apply ih _ (h.answered _) hplay
      · cases hplay
        obtain ⟨answers, hcomes⟩ := h _ _ ⟨rfl, rfl⟩
        exact ⟨answers, _, hcomes, [(⟨o, r, k⟩, (w.request r).1)], rfl, .refl _⟩

theorem comes_startAll {clock : Moment} {w w' : Scene} {left : List Order}
    {sleepers sleepers' : List (Sleeper CancelRun)} {answers : List CancelAnswer}
    (h : Comes p others orders d answers ⟨run, .singles left asking⟩)
    (hasleep : Asleep sleepers asking)
    (hplay : startAll clock (left.map (CancelRun.singlePart p)) run w = (sleepers', run', w')) :
  ∃ answers asking, Comes p others orders d answers ⟨run', .singles [] asking⟩
    ∧ Asleep (sleepers ++ sleepers') asking
  := by
  induction left generalizing run w asking sleepers sleepers' answers with
  | nil =>
      cases hplay
      rw [List.append_nil]
      exact ⟨answers, asking, h, hasleep⟩
  | cons o rest ih =>
      rw [List.map_cons, startAll] at hplay
      obtain ⟨answers', asking', h', hasleep'⟩ := (joins_singlePart h).playToSleep rfl
      rw [List.append_nil] at h'
      cases hplay
      rw [← List.append_assoc]
      apply ih h' (hasleep.append hasleep') rfl

theorem comes_wakeAll {clock : Moment} {deadline? : Option Nat} {w w' : Scene} {fuel : Nat}
    {sleepers : List (Sleeper CancelRun)} {answers : List CancelAnswer}
    (h : Comes p others orders d answers ⟨run, .singles [] asking⟩)
    (hasleep : Asleep sleepers asking)
    (hplay : wakeAll clock deadline? fuel sleepers run w = (run', w')) :
  ∃ answers c, Comes p others orders d answers c ∧ c.run = run'
  := by
  induction fuel generalizing run w asking sleepers answers with
  | zero =>
      cases hplay
      exact ⟨answers, _, h, rfl⟩
  | succ fuel ih =>
      rw [wakeAll] at hplay
      split at hplay
      · cases hplay
        exact ⟨answers, _, h, rfl⟩
      case h_2 sleeper rest htake =>
        split at hplay
        · cases hplay
          exact ⟨answers, _, h, rfl⟩
        · obtain ⟨before, s, after, reply, rfl, hnext, hrest⟩ :=
            hasleep.wake (perm_takeEarliest? htake)
          rw [hnext] at hplay
          obtain ⟨answers', asking', h', hasleep'⟩ := (joins_next h reply).playToSleep rfl
          apply ih h' (hrest _ _ hasleep') hplay

/-- Single cancels that are played side by side take a course up to the deadline. -/
theorem comes_playTogether {clock : Moment} {deadline? : Option Nat} {w w' : Scene}
    {fuel : Nat} {answers : List CancelAnswer}
    (h : Comes p others orders d answers ⟨run, .singles waiting []⟩)
    (hplay : playTogether clock deadline? fuel (waiting.map (CancelRun.singlePart p)) run w
      = (run', w')) :
  ∃ answers c, Comes p others orders d answers c ∧ c.run = run'
  := by
  have hnone : Asleep [] [] := ⟨[], rfl, .nil⟩
  obtain ⟨answers', asking, h', hasleep⟩ := comes_startAll h hnone rfl
  exact comes_wakeAll h' hasleep hplay

end Second

end CancelPoint

/-- A rehearsal reports what a cancel run comes to. -/
theorem Rehearsal.DeskScene.exists_comes_cancelOrders (p : Policy) (orders : List Order)
    (timeoutMs : Nat) (others : Desk → Desk → Prop) (x : DeskScene) :
  ∃ answers c, CancelPoint.Comes p others orders x.desk answers c
    ∧ (x.cancelOrders p orders timeoutMs).1 = c.report
    ∧ (x.cancelOrders p orders timeoutMs).2.desk = c.run.finish.2
  := by
  unfold cancelOrders
  split
  case isTrue hempty =>
    rw [List.isEmpty_iff] at hempty
    subst hempty
    refine ⟨[], _, ⟨_, ⟨⟨rfl, rfl⟩⟩, .nil _⟩, rfl, ?_⟩
    change _ = { x.desk with metrics := x.desk.metrics ++ [] }
    rw [List.append_nil]
  case isFalse =>
    have hfollows := CancelPoint.follows_bulkPart p others orders x.desk
    obtain ⟨left?, run, w, hplay⟩ : ∃ left? run w, play x.clock (some (x.scene.nowMs + timeoutMs))
      (CancelRun.bulkPart p orders) (.start x.desk orders) x.scene = (left?, run, w) :=
      ⟨_, _, _, rfl⟩
    obtain ⟨answers, c, hcomes, rfl, hleft⟩ := hfollows.play hplay
    simp only [hplay]
    cases left? with
    | none => exact ⟨answers, c, hcomes, rfl, rfl⟩
    | some left =>
        obtain ⟨run, stage⟩ := c
        cases hleft left rfl
        obtain ⟨answers', c', hcomes', hrun⟩ := CancelPoint.comes_playTogether hcomes rfl
        use answers', c', hcomes'
        rw [CancelPoint.report, hrun]
        exact ⟨rfl, rfl⟩

/-- The service without a way to the venue reports what a cancel run of its resting orders
comes to. -/
theorem OfflineService.exists_comes_cancelResting (s : Settings) (date : Moment)
    (others : Desk → Desk → Prop) (x : OfflineService) :
  ∃ answers c, CancelPoint.Comes s.policy others x.desk.book.resting x.desk answers c
    ∧ (x.cancelResting s date).1 = c.report
    ∧ (x.cancelResting s date).2.desk = c.run.finish.2
  := by
  obtain ⟨answers, h⟩ :=
    (CancelPoint.follows_bulkPart s.policy others x.desk.book.resting x.desk).answeredBy date
      (reply s)
  obtain ⟨answers', h'⟩ := CancelPoint.comes_answeredBy h date (reply s)
  exact ⟨answers', _, h', rfl, rfl⟩

end VenueLink
