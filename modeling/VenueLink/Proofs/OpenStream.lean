import Mathlib.Tactic.Common
import VenueLink.Proofs.Supervisor

/-!
# An open connection beside its timer

While a connection is open, a stop may be requested, a timer reports over a channel and ends
when a stop is requested, and the supervisor takes up whatever is ready, in any order.  The
session ends with the first thing taken up that settles it.  That the venue was silent for too
long settles it only when the timer found so, or when the supervisor takes up the end of the
timer; and the latter it may also do after a stop was requested.
-/

namespace VenueLink

/-- The timer finds a silence just when the venue was last heard too long ago. -/
theorem Liveness.tick_eq_silent_iff {l : Liveness} {h : Health} {now : Instant} {idle : Span} :
  l.tick h now = .silent idle ↔
    idle = now.since h.heardAt ∧ l.staleAfter.nanos < idle.nanos
  := by
  rw [tick, Health.idle_eq]
  by_cases hidle : l.staleAfter.nanos < (now.since h.heardAt).nanos
  · rw [if_pos hidle, LivenessEvent.silent.injEq]
    constructor
    · rintro rfl
      exact ⟨rfl, hidle⟩
    · rintro ⟨rfl, -⟩
      rfl
  · rw [if_neg hidle]
    simp only [reduceCtorEq, false_iff, not_and]
    rintro rfl
    exact hidle

/-! ## The connection, its timer and its channel -/

/-- What the timer of an open connection does. -/
inductive TimerState where
  /-- It waits for the next tick. -/
  | waiting
  /-- It has a report, for which there may be no room yet. -/
  | reporting (e : LivenessEvent)
  /-- Nothing more: it ended. -/
  | gone
deriving DecidableEq, Repr

/-- An open connection beside its timer. -/
structure OpenStream where
  supervisor : Supervisor
  clock : Supervisor.Clock
  stopRequested : Bool
  timer : TimerState := .waiting
  /-- The reports of the timer that the supervisor has not taken up yet. -/
  reports : List LivenessEvent := []

namespace OpenStream

/-- The number of reports for which there is room. -/
def room : Nat := 8

/-- A connection has just become open. -/
def begun (s : Supervisor) (clock : Supervisor.Clock) (stopRequested : Bool) : OpenStream where
  supervisor := s.becomeOpen.1
  clock
  stopRequested

/-- The time since the venue was last heard. -/
def idle (x : OpenStream) : Span :=
  (x.supervisor.monitor.health?.map fun h => h.idle x.clock.instant).getD ⟨0⟩

/-- What is done beside an open connection. -/
inductive Act where
  /-- Time passes. -/
  | passes
  /-- A stop is requested. -/
  | requests
  /-- The timer ticks and finds something. -/
  | ticks (e : LivenessEvent)
  /-- The timer reports what it found. -/
  | reports
  /-- The timer ends. -/
  | timerEnds
  /-- The supervisor takes something up. -/
  | takes (o : Occurrence)
deriving DecidableEq, Repr

/-- The supervisor takes something up. -/
def take (c : StreamSettings) (x : OpenStream) (o : Occurrence) : OpenStream :=
  { x with
    supervisor := (x.supervisor.step c x.clock o).1
    reports := match o with
      | .timer _ => x.reports.tail
      | _ => x.reports }

/-- Something is ready for the supervisor.  The end of the timer is, once the timer is gone
and all its reports are taken up.  The connection itself never reports a silence. -/
inductive Offers (x : OpenStream) : Occurrence → Prop where
  | stop (hx : x.supervisor.stage = .opened) (hstop : x.stopRequested = true) :
    Offers x .stopRequested
  | report {e : LivenessEvent} {rest : List LivenessEvent} (hx : x.supervisor.stage = .opened)
    (he : x.reports = e :: rest) : Offers x (.timer e)
  | timerGone (hx : x.supervisor.stage = .opened) (hgone : x.timer = .gone)
    (hnone : x.reports = []) : Offers x .timerGone
  | frame (text : String) (hx : x.supervisor.stage = .opened) : Offers x (.frame text)
  | failed {e : StreamError} (hx : x.supervisor.stage = .opened)
    (he : ∀ idle, e ≠ .stale idle) : Offers x (.failed e)
  | hungUp (hx : x.supervisor.stage = .opened) : Offers x .hungUp
  | acted {r : Outcome} (hx : x.supervisor.IsActing)
    (hr : ∀ idle, r ≠ .broken (.stale idle)) : Offers x (.finished r)
  | timerStopped {out : Outcome} (r : Outcome)
    (hx : x.supervisor.stage = .stoppingTimer out) (hgone : x.timer = .gone) :
    Offers x (.finished r)
  | closed {out : Outcome} (r : Outcome) (hx : x.supervisor.stage = .closing out) :
    Offers x (.finished r)

/-- One thing is done.  The timer may tick at any time and ends by itself when a stop is
requested or it cannot run; the supervisor, once it left its loop, makes it end. -/
inductive Step (c : StreamSettings) : OpenStream → Act → OpenStream → Prop where
  | passes {x : OpenStream} {clock : Supervisor.Clock}
    (h : x.clock.instant.nanos ≤ clock.instant.nanos) : Step c x .passes { x with clock }
  | requests {x : OpenStream} : Step c x .requests { x with stopRequested := true }
  | ticks {x : OpenStream} {h : Health} (hcan : c.liveness.canRun = true)
    (hx : x.timer = .waiting) (hh : x.supervisor.monitor.health? = some h) :
    Step c x (.ticks (c.liveness.tick h x.clock.instant))
      { x with timer := .reporting (c.liveness.tick h x.clock.instant) }
  | reports {x : OpenStream} {e : LivenessEvent} (hx : x.timer = .reporting e)
    (hroom : x.reports.length < room) :
    Step c x .reports
      { x with
        timer := if Liveness.continues e then .waiting else .gone
        reports := x.reports ++ [e] }
  | timerEnds {x : OpenStream} (hx : x.timer = .waiting)
    (h : x.stopRequested = true ∨ c.liveness.canRun = false) :
    Step c x .timerEnds { x with timer := .gone }
  | timerStopped {x : OpenStream} {out : Outcome}
    (hx : x.supervisor.stage = .stoppingTimer out) :
    Step c x .timerEnds { x with timer := .gone }
  | takes {x : OpenStream} {o : Occurrence} (h : x.Offers o) :
    Step c x (.takes o) (x.take c o)

/-- What is not taken up leaves the supervisor as it is. -/
theorem Step.takes_or_eq {c : StreamSettings} {x y : OpenStream} {a : Act}
    (h : Step c x a y) :
  (∃ o, a = .takes o ∧ x.Offers o ∧ y = x.take c o) ∨
    (∀ o, a ≠ .takes o) ∧ y.supervisor = x.supervisor
  := by
  cases h with
  | takes ho => exact .inl ⟨_, rfl, ho, rfl⟩
  | _ => exact .inr ⟨nofun, rfl⟩

/-- The timer has a report, or its channel holds it. -/
def Carries (x : OpenStream) (e : LivenessEvent) : Prop :=
  x.timer = .reporting e ∨ e ∈ x.reports

/-- What is done one after the other, each in the state in which it is done. -/
inductive Run (c : StreamSettings) (x : OpenStream) :
    List (OpenStream × Act) → OpenStream → Prop where
  | nil : Run c x [] x
  | step {y z : OpenStream} {log : List (OpenStream × Act)} {a : Act} (h : Run c x log y)
    (hstep : Step c y a z) : Run c x (log ++ [(y, a)]) z

section

variable {c : StreamSettings} {x y : OpenStream} {log : List (OpenStream × Act)}

theorem Run.exists_step {w : OpenStream} {a : Act} (h : Run c x log y) (ha : (w, a) ∈ log) :
  ∃ before after w', log = before ++ (w, a) :: after ∧ Run c x before w ∧ Step c w a w'
  := by
  induction h with
  | nil => simp at ha
  | @step y z log a' hrun hstep ih =>
      rcases List.mem_append.mp ha with ha | ha
      · obtain ⟨before, after, w', rfl, hbefore, hw⟩ := ih ha
        exact ⟨before, after ++ [(y, a')], w', by simp, hbefore, hw⟩
      · obtain ⟨rfl, rfl⟩ := Prod.mk.inj (List.mem_singleton.mp ha)
        exact ⟨log, [], z, rfl, hrun, hstep⟩

/-! ## When the venue was last heard -/

/-- Something readable is taken up. -/
def Act.isReadable : Act → Bool
  | .takes (.frame text) => (Json.parse? (Text.trim text)).isSome
  | _ => false

theorem isReadable_of_ne {a : Act} (h : ∀ o, a ≠ .takes o) :
  a.isReadable = false
  := by
  cases a with
  | takes o => exact absurd rfl (h o)
  | _ => rfl

/-- When the venue was last heard, by what was done since an instant at which it was. -/
def heardLast (t : Instant) (log : List (OpenStream × Act)) : Instant :=
  log.foldl (fun t p => if p.2.isReadable then p.1.clock.instant else t) t

/-- Outside of its loop the supervisor only takes up the result of what it does. -/
theorem Offers.eq_finished {o : Occurrence} (ho : x.Offers o)
    (hx : x.supervisor.stage ≠ .opened) :
  ∃ r, o = .finished r
  := by
  cases ho with
  | acted | timerStopped | closed => exact ⟨_, rfl⟩
  | _ => contradiction

theorem health_take {o : Occurrence} {h : Health} (ho : x.Offers o)
    (hh : x.supervisor.monitor.health? = some h) :
  ∃ h', (x.take c o).supervisor.monitor.health? = some h' ∧
    h'.heardAt = if (Act.takes o).isReadable then x.clock.instant else h.heardAt
  := by
  cases ho with
  | stop hx => simp [take, Supervisor.step, hx, Act.isReadable, hh]
  | @report e _ hx =>
      cases e <;> simp [take, Supervisor.step, hx, Act.isReadable, hh]
  | timerGone hx => simp [take, Supervisor.step, hx, Act.isReadable, hh]
  | frame text hx =>
      simp only [take, Supervisor.step_frame_of_opened hx, Act.isReadable]
      apply Supervisor.health_receiveOpen _ _ hh
  | failed hx he => simp [take, Supervisor.step, hx, Act.isReadable, hh]
  | hungUp hx => simp [take, Supervisor.step, hx, Act.isReadable, hh]
  | @acted r hx hr =>
      rcases hx with hx | hx | hx <;> cases r <;>
        simp [take, Supervisor.step, hx, Act.isReadable, hh, Monitor.mark]
  | timerStopped r hx => simp [take, Supervisor.step, hx, Act.isReadable, hh]
  | @closed out r hx =>
      cases out <;> simp [take, Supervisor.step, hx, Act.isReadable, hh]

/-- The health record of a state that comes about tells when the venue was last heard. -/
theorem Run.health {s : Supervisor} {clock : Supervisor.Clock} {stop : Bool} {h : Health}
    (hh : s.monitor.health? = some h) (hrun : Run c (begun s clock stop) log y) :
  ∃ h', y.supervisor.monitor.health? = some h' ∧ h'.heardAt = heardLast h.heardAt log
  := by
  induction hrun with
  | nil => exact ⟨h, hh, rfl⟩
  | step _ hstep ih =>
      obtain ⟨h', hh', hheard⟩ := ih
      simp only [heardLast, List.foldl_append, List.foldl_cons, List.foldl_nil] at hheard ⊢
      rcases hstep.takes_or_eq with ⟨o, rfl, ho, rfl⟩ | ⟨ha, hsupervisor⟩
      · rw [← hheard]
        apply health_take ho hh'
      · rw [isReadable_of_ne ha, hsupervisor]
        exact ⟨h', hh', hheard⟩

end

/-! ## How the session ends -/

/-- The outcome of the session that something settles, if it does. -/
def verdict? (x : OpenStream) : Act → Option Outcome
  | .takes .stopRequested => some .done
  | .takes (.timer (.silent idle)) => some (.broken (.stale idle))
  | .takes .timerGone => some (.broken (.stale x.idle))
  | .takes (.failed e) => some (.broken e)
  | .takes .hungUp => some (.broken .closed)
  | .takes (.finished (.broken e)) =>
    match x.supervisor.stage with
    | .sendingProbe => some (.broken e)
    | .answering => some (.broken e)
    | .handingOn => some .done
    | _ => none
  | _ => none

theorem verdict?_of_ne {x : OpenStream} {a : Act} (h : ∀ o, a ≠ .takes o) :
  x.verdict? a = none
  := by
  cases a with
  | takes o => exact absurd rfl (h o)
  | _ => rfl

/-- The outcome of the session after some things were done, if it is settled. -/
def outcome? (log : List (OpenStream × Act)) : Option Outcome :=
  log.findSome? fun p => p.1.verdict? p.2

end OpenStream

/-- A session goes on, or ends with an outcome; a connection was last interrupted for some
reason before it.  What is known from outside goes from open through closing to closed, or it
tells of the interruption. -/
inductive Session (last? : Option StreamError) : Option Outcome → Supervisor → Prop where
  | opened {s : Supervisor}
    (hstage : s.stage = .opened ∨ s.IsActing) (hstate : s.monitor.state = .opened)
    (hlast : s.monitor.lastInterruption? = last?) : Session last? none s
  | stoppingTimer {s : Supervisor} {out : Outcome} (hstage : s.stage = .stoppingTimer out)
    (hstate : s.monitor.state = .opened) (hlast : s.monitor.lastInterruption? = last?) :
    Session last? (some out) s
  | closing {s : Supervisor} (hstage : s.stage = .closing .done)
    (hstate : s.monitor.state = .closing) (hlast : s.monitor.lastInterruption? = last?) :
    Session last? (some .done) s
  | ended {s : Supervisor} (hstage : s.stage = .ended none)
    (hstate : s.monitor.state = .closed) (hlast : s.monitor.lastInterruption? = last?) :
    Session last? (some .done) s
  | closingBroken {s : Supervisor} {e : StreamError} (hstage : s.stage = .closing (.broken e))
    (hstate : s.monitor.state = .interrupted)
    (hlast : s.monitor.lastInterruption? = some e) : Session last? (some (.broken e)) s
  | waiting {s : Supervisor} {e : StreamError} (hstage : s.stage = .waiting)
    (hstate : s.monitor.state = .interrupted)
    (hlast : s.monitor.lastInterruption? = some e) : Session last? (some (.broken e)) s
  | gaveUp {s : Supervisor} {e : StreamError} {n : Nat} (hstage : s.stage = .ended (some n))
    (hstate : s.monitor.state = .closed) (hlast : s.monitor.lastInterruption? = some e) :
    Session last? (some (.broken e)) s

namespace Session

variable {last? : Option StreamError} {out? out'? : Option Outcome} {s : Supervisor}

theorem eq_of_session (h : Session last? out? s) (h' : Session last? out'? s) :
  out? = out'?
  := by
  cases h <;> cases h' <;> simp_all [Supervisor.IsActing]

theorem eq_none (h : Session last? out? s) (hs : s.stage = .opened) :
  out? = none
  := by
  cases h with
  | opened => rfl
  | _ => simp_all

/-- A session goes on where it stands in its loop and the same is known from outside. -/
theorem goesOn {s' : Supervisor} (h : Session last? none s)
    (hstage : s'.stage = .opened ∨ s'.IsActing)
    (hstate : s'.monitor.state = s.monitor.state)
    (hlast : s'.monitor.lastInterruption? = s.monitor.lastInterruption?) :
  Session last? none s'
  := by
  cases h with
  | opened _ hstate' hlast' => apply opened hstage (hstate.trans hstate') (hlast.trans hlast')

theorem stopTimer (h : Session last? none s) (out : Outcome) :
  Session last? (some out) (s.stopTimer out).1
  := by
  cases h with
  | opened _ hstate hlast => apply stoppingTimer <;> simp [hstate, hlast]

theorem receiveOpen (h : Session last? none s) (hs : s.stage = .opened) (now : Instant)
    (text : String) :
  Session last? none (s.receiveOpen now text).1
  := by
  unfold Supervisor.receiveOpen
  cases Inbound.ofText text <;> apply h.goesOn <;>
    simp [Supervisor.IsActing, Monitor.mark, hs]

variable {c : StreamSettings} {x : OpenStream} {o : Occurrence}

/-- What is taken up while the session goes on settles its outcome or lets it go on. -/
theorem take (h : Session last? none x.supervisor) (ho : x.Offers o) :
  Session last? (x.verdict? (.takes o)) (x.take c o).supervisor
  := by
  cases ho with
  | stop hx =>
      simpa [OpenStream.take, Supervisor.step, OpenStream.verdict?, hx] using h.stopTimer _
  | @report e _ hx =>
      cases e with
      | probe =>
          apply h.goesOn <;> simp [OpenStream.take, Supervisor.step, Supervisor.IsActing, hx]
      | silent idle =>
          simpa [OpenStream.take, Supervisor.step, OpenStream.verdict?, hx] using h.stopTimer _
  | timerGone hx =>
      simpa [OpenStream.take, Supervisor.step, OpenStream.verdict?, OpenStream.idle, hx] using
        h.stopTimer _
  | frame text hx =>
      simp only [OpenStream.take, Supervisor.step_frame_of_opened hx]
      apply h.receiveOpen hx
  | failed hx he =>
      simpa [OpenStream.take, Supervisor.step, OpenStream.verdict?, hx] using h.stopTimer _
  | hungUp hx =>
      simpa [OpenStream.take, Supervisor.step, OpenStream.verdict?, hx] using h.stopTimer _
  | @acted r hx hr =>
      cases r with
      | done =>
          apply h.goesOn <;> rcases hx with hx | hx | hx <;>
            simp [OpenStream.take, Supervisor.step, Monitor.mark, hx]
      | broken e =>
          rcases hx with hx | hx | hx <;>
            simpa [OpenStream.take, Supervisor.step, OpenStream.verdict?, hx] using h.stopTimer _
  | timerStopped r hx =>
      cases h with
      | opened hstage => simp [Supervisor.IsActing, hx] at hstage
  | closed r hx =>
      cases h with
      | opened hstage => simp [Supervisor.IsActing, hx] at hstage

/-- Once the outcome of a session is settled, it stays. -/
theorem take_settled {out : Outcome} (h : Session last? (some out) x.supervisor)
    (ho : x.Offers o) :
  Session last? (some out) (x.take c o).supervisor
  := by
  cases h with
  | stoppingTimer hstage hstate hlast =>
      obtain ⟨r, rfl⟩ := ho.eq_finished (by simp [hstage])
      cases out with
      | done => apply closing <;> simp [OpenStream.take, Supervisor.step, hstage, hlast]
      | broken e =>
          apply closingBroken <;>
            simp [OpenStream.take, Supervisor.step, Monitor.interrupt, hstage]
  | closing hstage hstate hlast =>
      obtain ⟨r, rfl⟩ := ho.eq_finished (by simp [hstage])
      apply ended <;> simp [OpenStream.take, Supervisor.step, hstage, hlast]
  | @closingBroken _ e hstage hstate hlast =>
      obtain ⟨r, rfl⟩ := ho.eq_finished (by simp [hstage])
      simp only [OpenStream.take, Supervisor.step, hstage]
      rcases x.supervisor.afterFailure_cases c e with ⟨hnext, hmonitor⟩ | ⟨n, hnext, hmonitor⟩
      · apply waiting hnext <;> simp [hmonitor, hstate, hlast]
      · apply gaveUp hnext <;> simp [hmonitor, hlast]
  | ended hstage => cases ho <;> simp_all [Supervisor.IsActing]
  | waiting hstage => cases ho <;> simp_all [Supervisor.IsActing]
  | gaveUp hstage => cases ho <;> simp_all [Supervisor.IsActing]

end Session

namespace OpenStream

section

variable {c : StreamSettings} {s : Supervisor} {clock : Supervisor.Clock} {stop : Bool}
  {y z : OpenStream} {a : Act} {log : List (OpenStream × Act)} {last? : Option StreamError}

theorem Step.session (hstep : Step c y a z) {out? : Option Outcome}
    (h : Session last? out? y.supervisor) :
  Session last? (out?.or (y.verdict? a)) z.supervisor
  := by
  rcases hstep.takes_or_eq with ⟨o, rfl, ho, rfl⟩ | ⟨ha, hsupervisor⟩
  · cases out? with
    | none => apply h.take ho
    | some out => apply h.take_settled ho
  · rwa [verdict?_of_ne ha, Option.or_none, hsupervisor]

theorem outcome?_append (log log' : List (OpenStream × Act)) :
  outcome? (log ++ log') = (outcome? log).or (outcome? log')
  := List.findSome?_append

/-- The session ends with the first thing that settles it. -/
theorem Run.session (hrun : Run c (begun s clock stop) log y) :
  Session s.monitor.lastInterruption? (outcome? log) y.supervisor
  := by
  -- An outcome once settled stays, so the first verdict is the one that counts.
  induction hrun with
  | nil => apply Session.opened (.inl rfl) <;> simp [begun]
  | step _ hstep ih =>
      rw [outcome?_append]
      simpa [outcome?] using hstep.session ih

theorem Step.carries {e : LivenessEvent} (hstep : Step c y a z) (he : z.Carries e) :
  a = .ticks e ∨ y.Carries e
  := by
  cases hstep with
  | passes => exact .inr he
  | requests => exact .inr he
  | ticks =>
      obtain he | he := he
      · left
        rw [TimerState.reporting.inj he]
      · exact .inr (.inr he)
  | @reports e' hx =>
      right
      obtain he | he := he
      · dsimp only at he
        split at he <;> contradiction
      · rcases List.mem_append.mp he with he | he
        · exact .inr he
        · rw [List.mem_singleton.mp he]
          exact .inl hx
  | timerEnds => exact .inr (.inr (he.resolve_left nofun))
  | timerStopped => exact .inr (.inr (he.resolve_left nofun))
  | @takes o ho =>
      right
      obtain he | he := he
      · exact .inl he
      · cases o with
        | timer => exact .inr (List.mem_of_mem_tail he)
        | _ => exact .inr he

/-- What the timer reports, it found at a tick. -/
theorem Run.ticked (hrun : Run c (begun s clock stop) log y) {e : LivenessEvent}
    (he : y.Carries e) :
  ∃ w, (w, .ticks e) ∈ log
  := by
  induction hrun with
  | nil => simp [Carries, begun] at he
  | @step y z log a _ hstep ih =>
      rcases hstep.carries he with rfl | he
      · exact ⟨y, by simp⟩
      · obtain ⟨w, hw⟩ := ih he
        exact ⟨w, List.mem_append_left _ hw⟩

/-- A silence that was reported is still to be taken up, unless it settles the outcome. -/
theorem Offers.silent_or_verdict {o : Occurrence} (ho : y.Offers o) {idle : Span}
    (hidle : .silent idle ∈ y.reports) :
  .silent idle ∈ (y.take c o).reports ∨ y.verdict? (.takes o) ≠ none
  := by
  cases ho with
  | @report e rest hx hrest =>
      rw [hrest, List.mem_cons] at hidle
      rcases hidle with rfl | hidle
      · right
        simp [verdict?]
      · left
        simpa [take, hrest] using hidle
  | _ => exact .inl hidle

/-- The timer is gone because a stop was requested, because it cannot run, because it reported
a silence, or because the session is over. -/
theorem Run.timer_gone (hrun : Run c (begun s clock stop) log y) (hgone : y.timer = .gone) :
  y.stopRequested = true ∨ c.liveness.canRun = false ∨
    (∃ idle, .silent idle ∈ y.reports) ∨ outcome? log ≠ none
  := by
  -- A timer that ended by itself for a silence left the report of it behind, and the supervisor
  -- comes to that report before it comes to the end of the timer.
  induction hrun with
  | nil => simp [begun] at hgone
  | @step y z log a hrun hstep ih =>
      rw [outcome?_append]
      cases hstep with
      | passes => simpa [outcome?, verdict?] using ih hgone
      | requests => exact .inl rfl
      | ticks => contradiction
      | @reports e hx =>
          cases e with
          | probe => simp [Liveness.continues] at hgone
          | silent idle => exact .inr (.inr (.inl ⟨idle, by simp⟩))
      | timerEnds hx h => exact h.imp_right .inl
      | timerStopped hx =>
          right; right; right
          intro hnone
          have hsession := hrun.session
          rw [(Option.or_eq_none_iff.mp hnone).1] at hsession
          cases hsession with
          | opened hstage => simp [Supervisor.IsActing, hx] at hstage
      | @takes o ho =>
          rcases ih hgone with hstop | hcan | ⟨idle, hidle⟩ | hout
          · exact .inl hstop
          · exact .inr (.inl hcan)
          · right; right
            rcases ho.silent_or_verdict hidle with hidle | hverdict
            · exact .inl ⟨idle, hidle⟩
            · right
              simpa [outcome?] using fun _ => hverdict
          · right; right; right
            simp [hout]

/-! ## A session that nothing disturbs -/

/-- The supervisor takes up a failure of the connection, or a silence that the timer found. -/
def Disturbs (x : OpenStream) : Act → Prop
  | .takes (.failed _) => True
  | .takes .hungUp => True
  | .takes (.timer (.silent _)) => True
  | .takes (.finished (.broken _)) =>
    x.supervisor.stage = .sendingProbe ∨ x.supervisor.stage = .answering
  | _ => False

/-- Nothing that is done disturbs the session. -/
def Calm (log : List (OpenStream × Act)) : Prop := ∀ p ∈ log, ¬ p.1.Disturbs p.2

/-- The supervisor takes up the end of the timer. -/
def TakesTimerGone (log : List (OpenStream × Act)) : Prop :=
  ∃ w, (w, .takes .timerGone) ∈ log

theorem disturbs_of_verdict {e : StreamError} (h : y.verdict? a = some (.broken e)) :
  y.Disturbs a ∨ a = .takes .timerGone
  := by
  unfold verdict? at h
  unfold Disturbs
  split at h <;> simp_all
  split at h <;> simp_all

/-- The session of a calm connection goes on or ends as it was meant to, unless the supervisor
takes up the end of the timer. -/
theorem Calm.outcome (h : Calm log) (hgone : ¬ TakesTimerGone log) :
  outcome? log = none ∨ outcome? log = some .done
  := by
  cases hout : outcome? log with
  | none => exact .inl rfl
  | some out =>
      cases out with
      | done => exact .inr rfl
      | broken e =>
          obtain ⟨⟨w, a⟩, ha, hverdict⟩ := List.exists_of_findSome?_eq_some hout
          rcases disturbs_of_verdict hverdict with hdisturbs | rfl
          · exact absurd hdisturbs (h _ ha)
          · exact absurd ⟨w, ha⟩ hgone

/-- The end of the timer, taken up, passes for a silence. -/
theorem Run.outcome_of_timerGone (hrun : Run c (begun s clock stop) log y) {w : OpenStream}
    (hw : (w, .takes .timerGone) ∈ log) :
  outcome? log = some (.broken (.stale w.idle))
  := by
  obtain ⟨before, after, w', rfl, hbefore, hstep⟩ := hrun.exists_step hw
  have hnone : outcome? before = none := by
    cases hstep with
    | takes ho =>
        cases ho with
        | timerGone hx => exact hbefore.session.eq_none hx
  rw [outcome?_append, hnone]
  rfl

/-! ## Silence -/

/-- What the timer finds at a tick: the venue was last heard too long ago. -/
theorem Run.silent_of_ticks (hrun : Run c (begun s clock stop) log y) {h : Health}
    (hh : s.monitor.health? = some h) {idle : Span} (hstep : Step c y (.ticks (.silent idle)) z) :
  idle = y.clock.instant.since (heardLast h.heardAt log) ∧
    c.liveness.staleAfter.nanos < idle.nanos
  := by
  obtain ⟨h', hh', hheard⟩ := hrun.health hh
  generalize ha : Act.ticks (.silent idle) = a at hstep
  cases hstep with
  | @ticks h'' _ _ hh'' =>
      obtain rfl : h' = h'' := Option.some.inj (hh'.symm.trans hh'')
      rw [← hheard]
      apply Liveness.tick_eq_silent_iff.mp (Act.ticks.inj ha).symm
  | _ => contradiction

/-- At the end of the timer, taken up by the supervisor, a stop was requested, or the timer
cannot run. -/
theorem Run.idle_of_timerGone (hrun : Run c (begun s clock stop) log y) {h : Health}
    (hh : s.monitor.health? = some h) (ho : y.Offers .timerGone) :
  y.idle = y.clock.instant.since (heardLast h.heardAt log) ∧
    (y.stopRequested = true ∨ c.liveness.canRun = false)
  := by
  constructor
  · obtain ⟨h', hh', hheard⟩ := hrun.health hh
    rw [← hheard, idle, hh']
    rfl
  · cases ho with
    | timerGone hx hgone hnone =>
        rcases hrun.timer_gone hgone with hstop | hcan | ⟨idle, hidle⟩ | hout
        · exact .inl hstop
        · exact .inr hcan
        · simp [hnone] at hidle
        · exact absurd (hrun.session.eq_none hx) hout

/-- What breaks a session by a silence: one that the timer found, or the end of the timer. -/
theorem Offers.eq_of_stale {o : Occurrence} (ho : y.Offers o) {idle : Span}
    (h : y.verdict? (.takes o) = some (.broken (.stale idle))) :
  o = .timer (.silent idle) ∨ o = .timerGone ∧ y.idle = idle
  := by
  cases ho with
  | @report e _ hx hrest =>
      cases e with
      | probe => contradiction
      | silent idle' =>
          left
          simpa [verdict?] using h
  | timerGone =>
      right
      simpa [verdict?] using h
  | @failed e hx he =>
      rw [verdict?, Option.some.injEq, Outcome.broken.injEq] at h
      exact absurd h (he idle)
  | @acted r hx hr =>
      cases r with
      | done => contradiction
      | broken e =>
          rcases hx with hx | hx | hx <;> simp only [verdict?, hx, Option.some.injEq] at h
          · exact absurd h (hr idle)
          · exact absurd h (hr idle)
          · contradiction
  | timerStopped r hx => cases r <;> simp [verdict?, hx] at h
  | closed r hx => cases r <;> simp [verdict?, hx] at h
  | _ => simp [verdict?] at h

/-- A session is broken by a silence only if the timer found one, or if the supervisor took up
the end of the timer. -/
theorem Run.stale_of_outcome (hrun : Run c (begun s clock stop) log y) {idle : Span}
    (hout : outcome? log = some (.broken (.stale idle))) :
  (∃ w, (w, .ticks (.silent idle)) ∈ log) ∨ ∃ w, (w, .takes .timerGone) ∈ log ∧ w.idle = idle
  := by
  obtain ⟨⟨w, a⟩, ha, hverdict⟩ := List.exists_of_findSome?_eq_some hout
  obtain ⟨before, after, w', rfl, hbefore, hstep⟩ := hrun.exists_step ha
  cases hstep with
  | takes ho =>
      rcases ho.eq_of_stale hverdict with rfl | ⟨rfl, hidle⟩
      · left
        have hcarries : w.Carries (.silent idle) := by
          cases ho with
          | report _ hrest => simp [Carries, hrest]
        obtain ⟨w', hw'⟩ := hbefore.ticked hcarries
        exact ⟨w', List.mem_append_left _ hw'⟩
      · exact .inr ⟨w, ha, hidle⟩
  | _ => contradiction

/-! ## Ending on request -/

theorem Run.append {x : OpenStream} {more : List (OpenStream × Act)} (h : Run c x log y)
    (h' : Run c y more z) :
  Run c x (log ++ more) z
  := by
  induction h' with
  | nil => simpa using h
  | step _ hstep ih =>
      rw [← List.append_assoc]
      exact ih.step hstep

/-- The connection can come to its end without being disturbed. -/
def CanEnd (c : StreamSettings) (y : OpenStream) : Prop :=
  ∃ more z, Run c y more z ∧ Calm more ∧ ¬ TakesTimerGone more ∧
    z.supervisor.stage = .ended none

theorem CanEnd.step (h : CanEnd c z) (hstep : Step c y a z) (hcalm : ¬ y.Disturbs a)
    (hgone : a ≠ .takes .timerGone) :
  CanEnd c y
  := by
  obtain ⟨more, z', hmore, hcalm', hgone', hend⟩ := h
  use (y, a) :: more, z', (Run.nil.step hstep).append hmore
  and_intros
  · rintro p (_ | ⟨_, hp⟩)
    · exact hcalm
    · exact hcalm' p hp
  · rintro ⟨w, hw⟩
    rcases List.mem_cons.mp hw with hw | hw
    · exact hgone (Prod.mk.inj hw).2.symm
    · exact hgone' ⟨w, hw⟩
  · exact hend

theorem canEnd_of_closing (hy : y.supervisor.stage = .closing .done) :
  CanEnd c y
  := by
  have hend : CanEnd c (y.take c (.finished .done)) := by
    use [], y.take c (.finished .done), .nil
    simp [Calm, TakesTimerGone, take, Supervisor.step, hy]
  apply hend.step (.takes (.closed _ hy)) <;> simp [Disturbs]

theorem canEnd_of_stoppingTimer (hy : y.supervisor.stage = .stoppingTimer .done) :
  CanEnd c y
  := by
  have hclosing : CanEnd c ({ y with timer := .gone }.take c (.finished .done)) := by
    apply canEnd_of_closing
    simp [take, Supervisor.step, hy]
  have hgone := hclosing.step (.takes (.timerStopped _ hy rfl)) (by simp [Disturbs]) (by simp)
  apply hgone.step (.timerStopped hy) <;> simp [Disturbs]

theorem canEnd_of_opened (hy : y.supervisor.stage = .opened) (hstop : y.stopRequested = true) :
  CanEnd c y
  := by
  have hstopping : CanEnd c (y.take c .stopRequested) := by
    apply canEnd_of_stoppingTimer
    simp [take, Supervisor.step, hy]
  apply hstopping.step (.takes (.stop hy hstop)) <;> simp [Disturbs]

/-- After a stop was requested a session that goes on, or ends as it was meant to, can come to
its end. -/
theorem canEnd_of_session
    (h : Session last? none y.supervisor ∨ Session last? (some .done) y.supervisor)
    (hstop : y.stopRequested = true) :
  CanEnd c y
  := by
  obtain h | h := h
  · cases h with
    | opened hstage =>
        rcases hstage with hy | hacting
        · apply canEnd_of_opened hy hstop
        · have hy : (y.take c (.finished .done)).supervisor.stage = .opened := by
            rcases hacting with hy | hy | hy <;> simp [take, Supervisor.step, hy]
          have hnext : CanEnd c (y.take c (.finished .done)) := canEnd_of_opened hy hstop
          apply hnext.step (.takes (.acted hacting (by simp))) <;> simp [Disturbs]
  · cases h with
    | stoppingTimer hy => apply canEnd_of_stoppingTimer hy
    | closing hy => apply canEnd_of_closing hy
    | ended hy =>
        use [], y, .nil
        simp [Calm, TakesTimerGone, hy]

/-- However the stop, the timer and the supervisor interleave: the session is broken by a
silence only if a tick found that the venue was last heard too long ago, or if the supervisor
took up the end of the timer, to which it may come after a stop was requested or when the timer
cannot run.  A session that nothing disturbs goes on or ends as it was meant to, with nothing
told of an interruption, and once a stop was requested it can always come to that end; unless
the supervisor takes up the end of the timer: then the session is broken by a silence, however
short. -/
theorem session_of_run {h : Health} (hh : s.monitor.health? = some h)
    (hrun : Run c (begun s clock stop) log y) :
  (∀ idle,
      Session s.monitor.lastInterruption? (some (.broken (.stale idle))) y.supervisor →
        ∃ before w act after, log = before ++ (w, act) :: after ∧
          idle = w.clock.instant.since (heardLast h.heardAt before) ∧
          (act = .ticks (.silent idle) ∧ c.liveness.staleAfter.nanos < idle.nanos ∨
            act = .takes .timerGone ∧
              (w.stopRequested = true ∨ c.liveness.canRun = false))) ∧
    (Calm log → ¬ TakesTimerGone log →
      (Session s.monitor.lastInterruption? none y.supervisor ∨
          Session s.monitor.lastInterruption? (some .done) y.supervisor) ∧
        (y.stopRequested = true → CanEnd c y)) ∧
    ∀ w, (w, .takes .timerGone) ∈ log →
      Session s.monitor.lastInterruption? (some (.broken (.stale w.idle))) y.supervisor
  := by
  have hsession := hrun.session
  and_intros
  · intro idle hstale
    rcases hrun.stale_of_outcome (hsession.eq_of_session hstale) with ⟨w, hw⟩ | ⟨w, hw, rfl⟩
    · obtain ⟨before, after, w', rfl, hbefore, hstep⟩ := hrun.exists_step hw
      obtain ⟨hidle, hlong⟩ := hbefore.silent_of_ticks hh hstep
      exact ⟨before, w, _, after, rfl, hidle, .inl ⟨rfl, hlong⟩⟩
    · obtain ⟨before, after, w', rfl, hbefore, hstep⟩ := hrun.exists_step hw
      cases hstep with
      | takes ho =>
          obtain ⟨hidle, hwhy⟩ := hbefore.idle_of_timerGone hh ho
          exact ⟨before, w, _, after, rfl, hidle, .inr ⟨rfl, hwhy⟩⟩
  · intro hcalm hgone
    have hgood : Session s.monitor.lastInterruption? none y.supervisor ∨
        Session s.monitor.lastInterruption? (some .done) y.supervisor := by
      rcases hcalm.outcome hgone with hout | hout <;> rw [hout] at hsession
      · exact .inl hsession
      · exact .inr hsession
    exact ⟨hgood, canEnd_of_session hgood⟩
  · intro w hw
    rwa [hrun.outcome_of_timerGone hw] at hsession

end

/-! ## A stop while the connection is open -/

/-- A supervisor about to be subscribed: the venue was heard a while after the connection was
tried. -/
def sampleSupervisor : Supervisor where
  stage := .subscribingAssets
  monitor :=
    { state := .connecting
      connections := 1
      health? := some { openedAt := ⟨0⟩, lastEvent? := some ⟨13000000⟩ } }

/-- The sample connection just after it became open. -/
def sampleStream : OpenStream := begun sampleSupervisor ⟨⟨13000000⟩, 0⟩ false

/-- The sample connection after a stop was requested. -/
def sampleRequested : OpenStream := { sampleStream with stopRequested := true }

/-- The sample connection after its timer ended, too: the supervisor may take up the stop or
the end of the timer. -/
def sampleRace : OpenStream := { sampleRequested with timer := .gone }

/-- What was done until the timer of the sample connection ended. -/
def sampleLog : List (OpenStream × Act) :=
  [(sampleStream, .requests), (sampleRequested, .timerEnds)]

theorem run_sampleLog :
  Run .standard sampleStream sampleLog sampleRace
  := by
  have hrequested : Run .standard sampleStream [(sampleStream, .requests)] sampleRequested :=
    Run.nil.step .requests
  exact hrequested.step (.timerEnds rfl (.inl rfl))

theorem session_of_run_sampleStream :
  Run .standard sampleStream (sampleLog ++ [(sampleRace, .takes .stopRequested)])
      (sampleRace.take .standard .stopRequested) ∧
    Calm (sampleLog ++ [(sampleRace, .takes .stopRequested)]) ∧
    ¬ TakesTimerGone (sampleLog ++ [(sampleRace, .takes .stopRequested)]) ∧
    (Session none none (sampleRace.take .standard .stopRequested).supervisor ∨
      Session none (some .done) (sampleRace.take .standard .stopRequested).supervisor) ∧
    CanEnd .standard (sampleRace.take .standard .stopRequested)
  := by
  have hrun := run_sampleLog.step (.takes (.stop rfl rfl))
  have hcalm : Calm (sampleLog ++ [(sampleRace, .takes .stopRequested)]) := by
    simp [Calm, sampleLog, Disturbs]
  have hgone : ¬ TakesTimerGone (sampleLog ++ [(sampleRace, .takes .stopRequested)]) := by
    simp [TakesTimerGone, sampleLog]
  obtain ⟨hgood, hend⟩ := (session_of_run rfl hrun).2.1 hcalm hgone
  exact ⟨hrun, hcalm, hgone, hgood, hend rfl⟩

/-- Standard settings but for the timer, which has no interval. -/
def sampleUntimed : StreamSettings :=
  { StreamSettings.standard with liveness := ⟨⟨0⟩, .ofSecs 45⟩ }

/-- Although a stop was requested and nothing disturbed the session, it is broken by a silence
that was none and told as an interruption, when the supervisor takes up the end of the timer
before the stop.  With a timer that cannot run the same happens without any stop. -/
theorem broken_though_requested :
  (∃ log y, Run .standard sampleStream log y ∧
      log.map Prod.snd =
        [.requests, .timerEnds, .takes .timerGone, .takes (.finished .done)] ∧
      Calm log ∧ y.stopRequested = true ∧
      y.supervisor.stage = .closing (.broken (.stale ⟨0⟩)) ∧
      y.supervisor.monitor.state = .interrupted ∧
      y.supervisor.monitor.lastInterruption? = some (.stale ⟨0⟩)) ∧
    ∃ log y, Run sampleUntimed sampleStream log y ∧
      log.map Prod.snd = [.timerEnds, .takes .timerGone, .takes (.finished .done)] ∧
      Calm log ∧ y.stopRequested = false ∧
      y.supervisor.stage = .closing (.broken (.stale ⟨0⟩)) ∧
      y.supervisor.monitor.state = .interrupted ∧
      y.supervisor.monitor.lastInterruption? = some (.stale ⟨0⟩)
  := by
  constructor
  · have hgone := run_sampleLog.step (.takes (.timerGone rfl rfl rfl))
    have hstopped := hgone.step (.takes (.timerStopped .done rfl rfl))
    refine ⟨_, _, hstopped, rfl, ?_, rfl, rfl, rfl, rfl⟩
    simp [sampleLog, Calm, Disturbs]
  · have hends : Run sampleUntimed sampleStream _ _ :=
      Run.nil.step (.timerEnds rfl (.inr rfl))
    have hgone := hends.step (.takes (.timerGone rfl rfl rfl))
    have hstopped := hgone.step (.takes (.timerStopped .done rfl rfl))
    refine ⟨_, _, hstopped, rfl, ?_, rfl, rfl, rfl, rfl⟩
    simp [Calm, Disturbs]

end OpenStream

end VenueLink
