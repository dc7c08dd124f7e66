import VenueLink.Proofs.CancelCourse
import Mathlib.Data.List.Perm.Lattice

/-!
# What a step of a cancel run brings about

The orders of a run are tallied: an order is still to be done or has an outcome, and is not
done more often than it was given.  A point of a run is sound if its orders are tallied and
its open routines bring about what they are to.  A step from a sound point leads to a sound
point, and to an advance: outcomes stay, an acknowledged order is settled at once, and an
order that is settled as canceled is proposed to be canceled at the same time.
-/

namespace VenueLink

open CancelRun (settleBulk acknowledgedBy singlePart)

/-! ## The parts of a run -/

section Parts

open Routine (Origin)

variable {α : Type}

/-- Work at the desk of a run leaves the progress as it is. -/
theorem keeps_atDesk {pause : Origin CancelRun → VenueRequest → CancelRun → Prop}
    {goal : Origin CancelRun → α → CancelRun → Prop} {m : Routine Desk α}
    {x : Origin CancelRun} {d : Desk}
    (h : m.Keeps (fun y r d => ∀ g, pause ⟨⟨y.state, g⟩, y.answered?⟩ r ⟨d, g⟩)
      (fun y a d => ∀ g, goal ⟨⟨y.state, g⟩, y.answered?⟩ a ⟨d, g⟩)
      ⟨x.state.desk, x.answered?⟩ d) :
  (CancelRun.atDesk m).Keeps pause goal x ⟨d, x.state.progress⟩
  := by
  induction m generalizing x d with
  | done a => apply h
  | look k ih => apply ih _ h
  | change f m ih => apply ih h
  | clock k ih =>
      intro t
      apply ih t (h t)
  | ask r k ih =>
      use h.1 _
      intro reply run
      apply ih reply (x := ⟨run, (r, reply)⟩) (h.2 reply run.desk)

/-- What the single cancel of a run brings about with a stretch that ends at a question. -/
def singlePause (x : Origin CancelRun) (_ : VenueRequest) (run : CancelRun) : Prop :=
  x.state.desk.Leads run.desk ∧ run.progress = x.state.progress ∧ ¬x.Granted

/-- What the single cancel of a run brings about in the end: an outcome is settled, a success
if the cancel was granted, and with a success the order is proposed to be canceled. -/
def singleGoal (id : ClientId) (x : Origin CancelRun) (_ : Unit) (run : CancelRun) : Prop :=
  x.state.desk.Leads run.desk
    ∧ ∃ outcome, run.progress = x.state.progress.settle id outcome
      ∧ outcome ≠ .failed CancelRun.timeoutReason
      ∧ (x.Granted → outcome = .canceled)
      ∧ (outcome = .canceled → x.state.desk.book.EndsCanceled run.desk.book id)

/-- No single cancel fails with the reason that is given for orders a run did not come to. -/
theorem CancelOutcome.ofResult_ne_timeout (result : Except CancelError Unit) :
  ofResult result ≠ .failed CancelRun.timeoutReason
  := by
  intro h
  cases result with
  | ok u => cases h
  | error e =>
      -- The sentences differ from each other in the first seven letters.
      have htake : e.message.toList.take 7 = CancelRun.timeoutReason.toList.take 7 := by
        rw [CancelOutcome.failed.inj h]
      cases e with
      | unresolved id => simp [CancelError.message, CancelRun.timeoutReason] at htake
      | rejected id e => simp [CancelError.message, CancelRun.timeoutReason] at htake
      | ended id state => simp [CancelError.message, CancelRun.timeoutReason] at htake

theorem keeps_singlePart (p : Policy) (o : Order) (run : CancelRun) :
  (singlePart p o).Keeps singlePause (singleGoal o.clientId) ⟨run, none⟩ run
  := by
  rw [singlePart, Routine.keeps_bind]
  apply keeps_atDesk (x := ⟨run, none⟩)
  apply (Desk.keeps_cancelOrder p o run.desk).mono
  · rintro x r d ⟨hleads, hgranted⟩ g
    exact ⟨hleads, rfl, hgranted⟩
  · rintro x result d ⟨hleads, hgranted, hends⟩ g
    use hleads, .ofResult result, rfl, CancelOutcome.ofResult_ne_timeout result
    constructor
    · intro h
      rw [hgranted h]
      rfl
    · intro h
      cases result with
      | ok u => exact hends rfl
      | error e => cases h

/-- The search for venue ids parts the orders into those with an id and the others. -/
theorem keeps_members (p : Policy) (orders : List Order) {x : Origin Desk} {d : Desk}
    (h : x.state.Leads d) :
  (CancelRun.members p orders).Keeps (fun x _ d => x.state.Leads d)
    (fun x found d => x.state.Leads d
      ∧ (found.1.map (·.order) ++ found.2).Perm orders) x d
  := by
  induction orders generalizing x d with
  | nil => exact ⟨h, .refl _⟩
  | cons o rest ih =>
      rw [CancelRun.members]
      split
      case h_1 id _ =>
        rw [pure_bind, Routine.keeps_bind]
        apply (ih h).imp
        rintro x ⟨found, others⟩ d ⟨hleads, hperm⟩
        exact ⟨hleads, hperm.cons o⟩
      case h_2 =>
        rw [Routine.keeps_bind, Routine.keeps_map]
        apply (Desk.orderly_resolve p o x d h).imp
        intro x resolution d h
        rw [Routine.keeps_bind]
        apply (ih h).imp
        rintro x ⟨found, others⟩ d ⟨hleads, hperm⟩
        dsimp only
        cases resolution.id? with
        | some id => exact ⟨hleads, hperm.cons o⟩
        | none => exact ⟨hleads, List.perm_middle.trans (hperm.cons o)⟩

end Parts

/-! ## Bulk answers -/

namespace CancelRun

variable {run : CancelRun} {id : ClientId}

/-- A member of a bulk request is marked canceled and settled, both at once. -/
def settleMember (now : Moment) (run : CancelRun) (m : BulkMember) : CancelRun :=
  { run with desk := run.desk.markCanceled m.order now }.settle m.order.clientId .canceled

/-- Members of a bulk request are settled one after the other. -/
def settleMembers (now : Moment) (ms : List BulkMember) (run : CancelRun) : CancelRun :=
  ms.foldl (settleMember now) run

theorem settleMembers_cons (now : Moment) (m : BulkMember) (rest : List BulkMember)
    (run : CancelRun) :
  settleMembers now (m :: rest) run = settleMembers now rest (settleMember now run m)
  := rfl

theorem leads_settleMembers (now : Moment) (ms : List BulkMember) (run : CancelRun) :
  run.desk.Leads (settleMembers now ms run).desk
  := by
  induction ms generalizing run with
  | nil => apply Desk.Leads.refl
  | cons m rest ih =>
      rw [settleMembers_cons]
      apply (Desk.leads_markCanceled m.order now run.desk).trans
      apply ih (settleMember now run m)

theorem parts_settleMembers {ids : List ClientId} (now : Moment) (ms : List BulkMember)
    (h : run.progress.Parts ids) :
  (settleMembers now ms run).progress.Parts ids
  := by
  induction ms generalizing run with
  | nil => exact h
  | cons m rest ih =>
      rw [settleMembers_cons]
      apply ih
      apply CancelProgress.parts_settle h

theorem get?_settleMembers (now : Moment) (ms : List BulkMember) (run : CancelRun)
    (id : ClientId) :
  (settleMembers now ms run).progress.report.get? id
    = if id ∈ run.progress.pending ∧ id ∈ ms.map (·.order.clientId) then some .canceled
      else run.progress.report.get? id
  := by
  induction ms generalizing run with
  | nil => simp [settleMembers]
  | cons m rest ih =>
      rw [settleMembers_cons, ih]
      simp only [settleMember, settle, CancelProgress.mem_pending_settle,
        CancelProgress.get?_settle, List.map_cons, List.mem_cons]
      by_cases hid : id = m.order.clientId
      · subst hid
        simp
      · simp [hid]

/-- An order under watch is proposed to be canceled if it is among the members, and otherwise
perhaps in place of one. -/
theorem state_settleMembers (now : Moment) (ms : List BulkMember) {o : Order}
    (hb : run.desk.book.Keyed) (ho : run.desk.book.find? id = some o) :
  ∃ o', (settleMembers now ms run).desk.book.find? id = some o'
    ∧ (o'.state = o.state ∨ o'.state = o.state.after .canceled)
    ∧ (id ∈ ms.map (·.order.clientId) → o'.state = o.state.after .canceled)
  := by
  induction ms generalizing run o with
  | nil => exact ⟨o, ho, .inl rfl, nofun⟩
  | cons m rest ih =>
      obtain ⟨o₁, ho₁, hstate, hm⟩ := Desk.state_markCanceled (o := m.order) now hb ho
      have hkeyed : (settleMember now run m).desk.book.Keyed :=
        (Desk.leads_markCanceled m.order now run.desk).keyed hb
      obtain ⟨o₂, ho₂, hstate', hrest⟩ := ih hkeyed ho₁
      use o₂, ho₂
      have hafter : o₁.state.after .canceled = o.state.after .canceled := by
        rcases hstate with h | h
        · rw [h]
        · rw [h, OrderState.after_after]
      rw [hafter] at hstate' hrest
      constructor
      · rcases hstate' with h | h
        · rw [h]
          exact hstate
        · exact .inr h
      · intro hid
        rcases List.mem_cons.mp hid with rfl | hid
        · rcases hstate' with h | h
          · rw [h]
            exact hm rfl
          · exact h
        · exact hrest hid

/-- An answer to a bulk request settles the members that it acknowledges, and misses the
others. -/
theorem settleBulk_eq {now : Moment} {ids : List VenueId} {ms : List BulkMember}
    {run' : CancelRun} {missed : List Order} (h : settleBulk now ids ms run = (missed, run')) :
  missed = (ms.filter fun m => !ids.contains m.venueId).map (·.order)
    ∧ run'.progress
      = (settleMembers now (ms.filter fun m => ids.contains m.venueId) run).progress
    ∧ run'.desk.book
      = (settleMembers now (ms.filter fun m => ids.contains m.venueId) run).desk.book
  := by
  cases h
  use rfl
  split
  · exact ⟨rfl, rfl⟩
  · exact ⟨rfl, rfl⟩

theorem flatten_pieces {α : Type} (n : Nat) (items : List α) :
  (pieces n items).flatten = items
  := by
  fun_induction pieces n items with
  | case1 => rfl
  | case2 a rest ih => simp [ih]

end CancelRun

/-! ## Tallies -/

/-- The orders of a run are tallied by those that are still to be done: an order to be done
and an outcome take up one of the orders given, and what is pending is to be done. -/
structure Tally (orders todo : List Order) (g : CancelProgress) : Prop where
  atMost : ∀ id, (todo.map (·.clientId)).count id
    + (if (g.report.get? id).isSome then 1 else 0) ≤ (orders.map (·.clientId)).count id
  covered : ∀ id ∈ g.pending, id ∈ todo.map (·.clientId)

namespace Tally

variable {orders todo todo' : List Order} {g : CancelProgress} {o : Order}

theorem start (h : todo.Perm orders) :
  Tally orders todo (.start orders) where
  atMost id := by
    rw [(h.map (·.clientId)).count_eq]
    simp [CancelProgress.start, CancelReport.get?]
  covered id hid := by
    rw [(h.map (·.clientId)).mem_iff]
    simpa [CancelProgress.start] using hid

theorem perm (h : Tally orders todo g) (hperm : todo.Perm todo') :
  Tally orders todo' g where
  atMost id := by
    rw [← (hperm.map (·.clientId)).count_eq]
    apply h.atMost
  covered id hid := by
    rw [← (hperm.map (·.clientId)).mem_iff]
    apply h.covered id hid

theorem settle (h : Tally orders (o :: todo) g) (outcome : CancelOutcome) :
  Tally orders todo (g.settle o.clientId outcome) where
  atMost id := by
    have hid := h.atMost id
    rw [List.map_cons, List.count_cons] at hid
    rw [CancelProgress.get?_settle]
    by_cases heq : id = o.clientId
    · subst heq
      rw [beq_self_eq_true, if_pos rfl] at hid
      split
      · simp only [Option.isSome_some, if_true]
        omega
      · omega
    · have hneg : ¬(o.clientId ∈ g.pending ∧ id = o.clientId) := fun h => heq h.2
      rw [if_neg hneg]
      omega
  covered id hid := by
    rw [CancelProgress.mem_pending_settle] at hid
    have := h.covered id hid.1
    rw [List.map_cons, List.mem_cons] at this
    exact this.resolve_left hid.2

theorem settleMembers {run : CancelRun} {ms : List BulkMember} (now : Moment)
    (h : Tally orders (ms.map (·.order) ++ todo) run.progress) :
  Tally orders todo (CancelRun.settleMembers now ms run).progress
  := by
  induction ms generalizing run with
  | nil => exact h
  | cons m rest ih =>
      rw [CancelRun.settleMembers_cons]
      apply ih
      rw [List.map_cons, List.cons_append] at h
      apply h.settle

/-- An order to be done is one of the orders given. -/
theorem mem_of_todo (h : Tally orders todo g) (ho : o ∈ todo) :
  o.clientId ∈ orders.map (·.clientId)
  := by
  have hcount := h.atMost o.clientId
  have := List.count_pos_iff.mpr (List.mem_map_of_mem (f := (·.clientId)) ho)
  apply List.count_pos_iff.mp
  omega

/-- When no order is given twice, none is to be done twice. -/
theorem nodup (h : Tally orders todo g) (hnodup : (orders.map (·.clientId)).Nodup) :
  (todo.map (·.clientId)).Nodup
  := by
  rw [List.nodup_iff_count_le_one] at hnodup ⊢
  intro id
  have hmost := h.atMost id
  have hone := hnodup id
  omega

/-- An order that was given once and is still to be done is pending. -/
theorem pending_of_todo (h : Tally orders todo g) (hg : g.Parts (orders.map (·.clientId)))
    (ho : o ∈ todo) (hone : (orders.map (·.clientId)).count o.clientId = 1) :
  o.clientId ∈ g.pending
  := by
  have hcount := h.atMost o.clientId
  have := List.count_pos_iff.mpr (List.mem_map_of_mem (f := (·.clientId)) ho)
  rcases (hg.mem_iff o.clientId).mp (h.mem_of_todo ho) with hp | hsome
  · exact hp
  · rw [if_pos hsome] at hcount
    omega

end Tally

/-! ## Advances -/

/-- What a run brings about with a step: the book is led on by operations, outcomes stay, no
order is timed out, and an order that is settled as canceled is proposed to be canceled at the
same time. -/
structure CancelRun.Advance (run run' : CancelRun) : Prop where
  leads : run.desk.Leads run'.desk
  stays : ∀ id outcome, run.progress.report.get? id = some outcome →
    run'.progress.report.get? id = some outcome
  inTime : ∀ id, run'.progress.report.get? id = some (.failed timeoutReason) →
    run.progress.report.get? id = some (.failed timeoutReason)
  ends : ∀ id, run.progress.report.get? id = none →
    run'.progress.report.get? id = some .canceled →
    run.desk.book.EndsCanceled run'.desk.book id

/-- An order has an outcome, and it is canceled if it was given only once. -/
def CancelRun.Settled (orders : List Order) (run : CancelRun) (id : ClientId) : Prop :=
  ∃ outcome, run.progress.report.get? id = some outcome
    ∧ ((orders.map (·.clientId)).count id = 1 → outcome = .canceled)

/-- However an open single cancel is answered, it brings about what it is to. -/
def SingleCancel.Sound (s : SingleCancel) : Prop :=
  ∀ reply run, (s.next reply).Keeps singlePause (singleGoal s.order.clientId)
    ⟨run, (s.request, reply)⟩ run

section Single

variable {orders todo : List Order} {o : Order} {run run' : CancelRun}
  {answered? : Option (VenueRequest × Reply)}

theorem advance_settle {id : ClientId} {outcome : CancelOutcome}
    (hg : run.progress.Parts (orders.map (·.clientId)))
    (hleads : run.desk.Leads run'.desk)
    (hprogress : run'.progress = run.progress.settle id outcome)
    (htime : outcome ≠ .failed CancelRun.timeoutReason)
    (hends : outcome = .canceled → run.desk.book.EndsCanceled run'.desk.book id) :
  run.Advance run' where
  leads := hleads
  stays other out h := by
    rw [hprogress]
    apply CancelProgress.get?_settle_of_some hg h
  inTime other h := by
    rw [hprogress, CancelProgress.get?_settle] at h
    split at h
    case isTrue => exact absurd (Option.some.inj h) htime
    case isFalse => exact h
  ends other hnone hcanceled := by
    rw [hprogress, CancelProgress.get?_settle] at hcanceled
    split at hcanceled
    case isTrue h =>
      rw [h.2]
      apply hends
      exact Option.some.inj hcanceled
    case isFalse =>
      rw [hnone] at hcanceled
      cases hcanceled

theorem advance_of_progress_eq (hleads : run.desk.Leads run'.desk)
    (hprogress : run'.progress = run.progress) :
  run.Advance run' where
  leads := hleads
  stays other out h := by rwa [hprogress]
  inTime other h := by rwa [hprogress] at h
  ends other hnone hcanceled := by
    rw [hprogress, hnone] at hcanceled
    cases hcanceled

/-- An order to be done has an outcome once it is settled, the one that is settled if it was
given only once. -/
theorem settled_settle (hg : run.progress.Parts (orders.map (·.clientId)))
    (htally : Tally orders (o :: todo) run.progress)
    (hprogress : run'.progress = run.progress.settle o.clientId .canceled) :
  run'.Settled orders o.clientId
  := by
  have hmem := htally.mem_of_todo List.mem_cons_self
  have hsettled : o.clientId ∉ run'.progress.pending := by
    rw [hprogress, CancelProgress.mem_pending_settle]
    exact fun h => h.2 rfl
  have hparts : run'.progress.Parts (orders.map (·.clientId)) := by
    rw [hprogress]
    apply CancelProgress.parts_settle hg
  obtain ⟨outcome, hout⟩ :=
    Option.isSome_iff_exists.mp (((hparts.mem_iff _).mp hmem).resolve_left hsettled)
  use outcome, hout
  intro hone
  have hp := htally.pending_of_todo hg List.mem_cons_self hone
  rw [hprogress, CancelProgress.get?_settle, if_pos ⟨hp, rfl⟩] at hout
  exact (Option.some.inj hout).symm

/-- A stretch of the single cancel of an order leaves the orders tallied and the single cancel
sound if it goes on, and settles the order if the stretch began with an answer that grants
the cancel. -/
theorem single_advance {m : Routine CancelRun Unit} {q : Routine.Pause CancelRun Unit}
    (hm : m.Keeps singlePause (singleGoal o.clientId) ⟨run, answered?⟩ run)
    (h : m.Reaches run q run') (hg : run.progress.Parts (orders.map (·.clientId)))
    (htally : Tally orders (o :: todo) run.progress) :
  run.Advance run' ∧ run'.progress.Parts (orders.map (·.clientId))
    ∧ Tally orders (todo ++ (SingleCancel.ofPause o q).map (·.order)) run'.progress
    ∧ (∀ s ∈ SingleCancel.ofPause o q, s.Sound)
    ∧ ((⟨run, answered?⟩ : Routine.Origin CancelRun).Granted → run'.Settled orders o.clientId)
  := by
  cases q with
  | finished u =>
      obtain ⟨hleads, outcome, hprogress, htime, hgranted, hends⟩ := hm.goal_of_reaches h
      use advance_settle hg hleads hprogress htime hends
      rw [hprogress]
      use CancelProgress.parts_settle hg _ _
      constructor
      · rw [SingleCancel.ofPause, List.map_nil, List.append_nil]
        apply htally.settle
      · constructor
        · intro s hs
          exact absurd hs List.not_mem_nil
        · intro hx
          rw [hgranted hx] at hprogress
          apply settled_settle hg htally hprogress
  | asking r k =>
      obtain ⟨⟨hleads, hprogress, hgranted⟩, hnext⟩ := hm.pause_of_reaches h
      use advance_of_progress_eq hleads hprogress
      rw [hprogress]
      use hg
      constructor
      · apply htally.perm
        exact @List.perm_append_comm _ [o] todo
      · constructor
        · intro s hs
          rw [List.mem_singleton.mp hs]
          apply hnext
        · intro hx
          exact absurd hx hgranted

end Single

section Bulk

variable {orders todo missed : List Order} {run run' : CancelRun} {now : Moment}
  {ids : List VenueId} {ms : List BulkMember}

theorem advance_settleMembers (acked : List BulkMember)
    (hg : run.progress.Parts (orders.map (·.clientId)))
    (hprogress : run'.progress = (CancelRun.settleMembers now acked run).progress)
    (hbook : run'.desk.book = (CancelRun.settleMembers now acked run).desk.book) :
  run.Advance run' where
  leads := by
    rw [Desk.Leads, hbook]
    apply CancelRun.leads_settleMembers
  stays id outcome h := by
    rw [hprogress, CancelRun.get?_settleMembers, if_neg, h]
    rintro ⟨hp, -⟩
    rw [hg.not_both id hp] at h
    cases h
  inTime id h := by
    rw [hprogress, CancelRun.get?_settleMembers] at h
    split at h
    case isTrue => cases h
    case isFalse => exact h
  ends id hnone hcanceled := by
    rw [hprogress, CancelRun.get?_settleMembers] at hcanceled
    split at hcanceled
    case isTrue h =>
      intro hb o ho
      obtain ⟨o', ho', -, hstate⟩ := CancelRun.state_settleMembers now acked hb ho
      rw [hbook]
      exact ⟨o', ho', hstate h.2⟩
    case isFalse =>
      rw [hnone] at hcanceled
      cases hcanceled

/-- An order to be done is settled with the members of a bulk request if it is one of them. -/
theorem settled_settleMembers {acked : List BulkMember} {o : Order}
    (hg : run.progress.Parts (orders.map (·.clientId)))
    (htally : Tally orders todo run.progress)
    (hprogress : run'.progress = (CancelRun.settleMembers now acked run).progress)
    (ho : o ∈ todo) (hacked : o ∈ acked.map (·.order)) :
  run'.Settled orders o.clientId
  := by
  have hid : o.clientId ∈ acked.map (·.order.clientId) := by
    rw [List.mem_map] at hacked ⊢
    obtain ⟨m, hm, rfl⟩ := hacked
    exact ⟨m, hm, rfl⟩
  rw [CancelRun.Settled, hprogress, CancelRun.get?_settleMembers]
  by_cases hp : o.clientId ∈ run.progress.pending
  · rw [if_pos ⟨hp, hid⟩]
    exact ⟨.canceled, rfl, fun _ => rfl⟩
  · rw [if_neg fun h => hp h.1]
    have hmem := (hg.mem_iff _).mp (htally.mem_of_todo ho)
    obtain ⟨outcome, hout⟩ := Option.isSome_iff_exists.mp (hmem.resolve_left hp)
    use outcome, hout
    intro hone
    exact absurd (htally.pending_of_todo hg ho hone) hp

/-- The answer to a bulk request leaves the orders tallied, with what it misses still to be
done, and settles the members that it acknowledges. -/
theorem bulk_advance (h : settleBulk now ids ms run = (missed, run'))
    (hg : run.progress.Parts (orders.map (·.clientId)))
    (htally : Tally orders (ms.map (·.order) ++ todo) run.progress) :
  run.Advance run' ∧ run'.progress.Parts (orders.map (·.clientId))
    ∧ Tally orders (todo ++ missed) run'.progress
    ∧ ∀ m ∈ ms, m.venueId ∈ ids → run'.Settled orders m.order.clientId
  := by
  obtain ⟨rfl, hprogress, hbook⟩ := CancelRun.settleBulk_eq h
  use advance_settleMembers _ hg hprogress hbook
  rw [hprogress]
  use CancelRun.parts_settleMembers now _ hg
  constructor
  · apply Tally.settleMembers
    apply htally.perm
    have hms := (List.filter_append_perm (fun m => ids.contains m.venueId) ms).map (·.order)
    rw [List.map_append] at hms
    apply (hms.symm.append_right todo).trans
    rw [List.append_assoc]
    apply List.Perm.append_left
    apply List.perm_append_comm
  · intro m hm hid
    apply settled_settleMembers hg htally hprogress
    · apply List.mem_append_left
      apply List.mem_map_of_mem hm
    · apply List.mem_map_of_mem
      rw [List.mem_filter]
      exact ⟨hm, List.contains_iff_mem.mpr hid⟩

end Bulk

/-! ## Steps -/

namespace CancelStage

/-- The orders that are still to be done once their venue ids have been found. -/
def todo : CancelStage → List Order
  | finding _ _ => []
  | bulk ms rest left => ms.map (·.order) ++ (rest.flatten.map (·.order) ++ left)
  | singles waiting asking => waiting ++ asking.map (·.order)

theorem todo_sending (rest : List (List BulkMember)) (left : List Order) :
  (sending rest left).todo = rest.flatten.map (·.order) ++ left
  := by
  cases rest with
  | nil => simp [sending, todo]
  | cons ms rest => simp [sending, todo]

/-- Where a run stands is sound: before the venue ids are found no order is settled, and they
will be found for some of the orders; afterwards the orders are tallied, and all open single
cancels are sound. -/
def Sound (orders : List Order) (g : CancelProgress) : CancelStage → Prop
  | finding r k => g = .start orders ∧ ∀ reply d,
    (k reply).Keeps (fun x _ d => x.state.Leads d) (fun x found d => x.state.Leads d
      ∧ (found.1.map (·.order) ++ found.2).Perm orders) ⟨d, (r, reply)⟩ d
  | bulk ms rest left => Tally orders (bulk ms rest left).todo g
  | singles waiting asking => Tally orders (singles waiting asking).todo g
    ∧ ∀ s ∈ asking, s.Sound

variable {orders : List Order} {g : CancelProgress}

theorem sound_sending {rest : List (List BulkMember)} {left : List Order}
    (h : Tally orders (rest.flatten.map (·.order) ++ left) g) :
  (sending rest left).Sound orders g
  := by
  rw [← todo_sending] at h
  cases rest with
  | nil =>
      use h
      intro s hs
      exact absurd hs List.not_mem_nil
  | cons ms rest => exact h

/-- When a stretch of the search for venue ids comes to a pause, the run stands soundly. -/
theorem sound_found (p : Policy) {m : Routine Desk (List BulkMember × List Order)}
    {x : Routine.Origin Desk} {d d' : Desk}
    {q : Routine.Pause Desk (List BulkMember × List Order)}
    (hm : m.Keeps (fun x _ d => x.state.Leads d) (fun x found d => x.state.Leads d
      ∧ (found.1.map (·.order) ++ found.2).Perm orders) x d) (h : m.Reaches d q d') :
  x.state.Leads d' ∧ (found p q).Sound orders (.start orders)
  := by
  cases q with
  | finished found =>
      obtain ⟨hleads, hperm⟩ := hm.goal_of_reaches h
      use hleads
      apply sound_sending
      rw [CancelRun.flatten_pieces]
      apply Tally.start hperm
  | asking r k =>
      obtain ⟨hleads, hnext⟩ := hm.pause_of_reaches h
      exact ⟨hleads, rfl, hnext⟩

end CancelStage

namespace CancelPoint

/-- A point of a run of some orders is sound. -/
structure Sound (orders : List Order) (c : CancelPoint) : Prop where
  parts : c.run.progress.Parts (orders.map (·.clientId))
  stage : c.stage.Sound orders c.run.progress

variable {p : Policy} {orders : List Order} {d : Desk} {c c' : CancelPoint}
  {answers : List CancelAnswer}

theorem sound_of_begins (h : Begins p orders d c) :
  d.Leads c.run.desk ∧ c.Sound orders
  := by
  obtain ⟨h⟩ := h
  obtain ⟨hleads, hstage⟩ :=
    CancelStage.sound_found p (keeps_members p orders (x := ⟨d, none⟩) (Desk.Leads.refl d)) h
  exact ⟨hleads, CancelProgress.parts_start orders, hstage⟩

/-- A step from a sound point advances the run to a sound point, and settles the orders that
its answer acknowledges. -/
theorem Step.advance (h : Step p c answers c') (hc : c.Sound orders) :
  c.run.Advance c'.run ∧ c'.Sound orders
    ∧ ∀ a ∈ answers, ∀ id, a.Acknowledges id → c'.run.Settled orders id
  := by
  obtain ⟨hparts, hstage⟩ := hc
  cases h with
  | @find run r k reply q d h =>
      obtain ⟨hprogress, hk⟩ := hstage
      obtain ⟨hleads, hfound⟩ := CancelStage.sound_found p (hk reply run.desk) h
      use advance_of_progress_eq hleads rfl
      use ⟨hparts, by rwa [hprogress]⟩
      intro a ha id hid
      rw [List.mem_singleton.mp ha] at hid
      exact hid.elim
  | @bulk run run' ms rest left missed reply now h =>
      obtain ⟨hadvance, hparts', htally, hsettled⟩ := bulk_advance h hparts hstage
      use hadvance
      constructor
      · use hparts'
        apply CancelStage.sound_sending
        rwa [← List.append_assoc]
      · intro a ha id hid
        rw [List.mem_singleton.mp ha] at hid
        obtain ⟨m, hm, rfl, hacked⟩ := hid
        exact hsettled m hm hacked
  | @takeUp run run' before after o asking q h =>
      obtain ⟨htally, hasking⟩ := hstage
      have hfirst : Tally orders (o :: (before ++ after ++ asking.map (·.order)))
          run.progress := by
        apply htally.perm
        simp only [CancelStage.todo, List.append_assoc, List.cons_append]
        apply List.perm_middle
      obtain ⟨hadvance, hparts', htally', hsound, -⟩ :=
        single_advance (keeps_singlePart p o run) h hparts hfirst
      use hadvance
      constructor
      · use hparts'
        constructor
        · apply htally'.perm
          simp [CancelStage.todo]
        · intro s hs
          rcases List.mem_append.mp hs with hs | hs
          · exact hasking s hs
          · exact hsound s hs
      · intro a ha
        exact absurd ha List.not_mem_nil
  | @answer run run' waiting before after s reply q h =>
      obtain ⟨htally, hasking⟩ := hstage
      have hfirst : Tally orders
          (s.order :: (waiting ++ (before.map (·.order) ++ after.map (·.order))))
          run.progress := by
        apply htally.perm
        simp only [CancelStage.todo, List.map_append, List.map_cons]
        rw [← List.append_assoc]
        apply List.perm_middle.trans
        rw [List.append_assoc]
      have hs : s.Sound := hasking s (by simp)
      obtain ⟨hadvance, hparts', htally', hsound, hsettled⟩ :=
        single_advance (hs reply run) h hparts hfirst
      use hadvance
      constructor
      · use hparts'
        constructor
        · apply htally'.perm
          simp only [CancelStage.todo, List.map_append, List.append_assoc]
          apply List.Perm.append_left
          apply List.Perm.append_left
          apply List.perm_append_comm
        · intro s' hs'
          simp only [List.mem_append] at hs'
          rcases hs' with (hs' | hs') | hs'
          · exact hasking s' (by simp [hs'])
          · exact hsound s' hs'
          · exact hasking s' (by simp [hs'])
      · intro a ha id hid
        rw [List.mem_singleton.mp ha] at hid
        obtain ⟨rfl, hgrants⟩ := hid
        exact hsettled ⟨s.request, reply, rfl, hgrants⟩

end CancelPoint

end VenueLink
