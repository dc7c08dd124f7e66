import VenueLink.Proofs.Frame
import VenueLink.Stream.Supervisor

/-!
# What the parts of a supervisor do

For each thing that a supervisor does, where it stands afterwards and what is known from
outside then.
-/

namespace VenueLink

/-- When the venue was last heard: at the last readable message, or at the beginning. -/
def Health.heardAt (h : Health) : Instant := h.lastEvent?.getD h.openedAt

namespace Health

theorem idle_eq (h : Health) (now : Instant) :
  h.idle now = now.since h.heardAt
  := rfl

@[simp] theorem heardAt_sawEvent (h : Health) (t : Instant) :
  (h.sawEvent t).heardAt = t
  := rfl

@[simp] theorem heardAt_sawServerPing (h : Health) (t : Instant) :
  (h.sawServerPing t).heardAt = h.heardAt
  := rfl

@[simp] theorem heardAt_sentPing (h : Health) (t : Instant) :
  (h.sentPing t).heardAt = h.heardAt
  := rfl

@[simp] theorem heardAt_sentPong (h : Health) (t : Instant) :
  (h.sentPong t).heardAt = h.heardAt
  := rfl

end Health

namespace Supervisor

variable (s : Supervisor)

/-- The supervisor does something on the open connection. -/
def IsActing : Prop := s.stage = .sendingProbe ∨ s.stage = .answering ∨ s.stage = .handingOn

@[simp] theorem stage_standAt (stage : Stage) :
  (s.standAt stage).stage = stage
  := rfl

@[simp] theorem monitor_standAt (stage : Stage) :
  (s.standAt stage).monitor = s.monitor
  := rfl

@[simp] theorem stage_watch (f : Monitor → Monitor) :
  (s.watch f).stage = s.stage
  := rfl

@[simp] theorem monitor_watch (f : Monitor → Monitor) :
  (s.watch f).monitor = f s.monitor
  := rfl

@[simp] theorem stage_mark (f : Health → Health) :
  (s.mark f).stage = s.stage
  := rfl

@[simp] theorem monitor_mark (f : Health → Health) :
  (s.mark f).monitor = s.monitor.mark f
  := rfl

@[simp] theorem stage_drawId :
  s.drawId.2.stage = s.stage
  := rfl

@[simp] theorem monitor_drawId :
  s.drawId.2.monitor = s.monitor
  := rfl

@[simp] theorem stage_finish (gaveUpAfter? : Option Nat) :
  (s.finish gaveUpAfter?).stage = .ended gaveUpAfter?
  := rfl

@[simp] theorem monitor_finish (gaveUpAfter? : Option Nat) :
  (s.finish gaveUpAfter?).monitor = { s.monitor with state := .closed }
  := rfl

@[simp] theorem stage_stopTimer (out : Outcome) :
  (s.stopTimer out).1.stage = .stoppingTimer out
  := rfl

@[simp] theorem monitor_stopTimer (out : Outcome) :
  (s.stopTimer out).1.monitor = s.monitor
  := rfl

@[simp] theorem stage_close (out : Outcome) :
  (s.close out).1.stage = .closing out
  := by
  cases out <;> rfl

@[simp] theorem monitor_close_done :
  (s.close .done).1.monitor = { s.monitor with state := .closing }
  := rfl

@[simp] theorem monitor_close_broken (e : StreamError) :
  (s.close (.broken e)).1.monitor = s.monitor.interrupt e
  := rfl

@[simp] theorem health_close (out : Outcome) :
  (s.close out).1.monitor.health? = s.monitor.health?
  := by
  cases out <;> rfl

@[simp] theorem lastId_close (out : Outcome) :
  (s.close out).1.lastId = s.lastId
  := by
  cases out <;> rfl

@[simp] theorem stage_answerProbe (now : Instant) (id? : Option Json) (next : Stage) :
  (s.answerProbe now id? next).1.stage = next
  := by
  cases id? <;> rfl

@[simp] theorem monitor_answerProbe (now : Instant) (id? : Option Json) (next : Stage) :
  (s.answerProbe now id? next).1.monitor = s.monitor.mark fun h => h.sawServerPing now
  := by
  cases id? <;> rfl

@[simp] theorem stage_becomeOpen :
  s.becomeOpen.1.stage = .opened
  := rfl

@[simp] theorem monitor_becomeOpen :
  s.becomeOpen.1.monitor = { s.monitor with state := .opened }
  := rfl

/-- After a failure the next attempt is waited for, or it was given up after some. -/
theorem afterFailure_cases (c : StreamSettings) (e : StreamError) :
  ((s.afterFailure c e).1.stage = .waiting ∧ (s.afterFailure c e).1.monitor = s.monitor) ∨
    ∃ n, (s.afterFailure c e).1.stage = .ended (some n) ∧
      (s.afterFailure c e).1.monitor = { s.monitor with state := .closed }
  := by
  unfold afterFailure
  cases c.backoff.next? s.attempts with
  | none => right; exact ⟨_, rfl, rfl⟩
  | some next => left; exact ⟨rfl, rfl⟩

@[simp] theorem health_afterFailure (c : StreamSettings) (e : StreamError) :
  (s.afterFailure c e).1.monitor.health? = s.monitor.health?
  := by
  obtain ⟨-, hmonitor⟩ | ⟨n, -, hmonitor⟩ := s.afterFailure_cases c e <;> rw [hmonitor]

@[simp] theorem lastId_afterFailure (c : StreamSettings) (e : StreamError) :
  (s.afterFailure c e).1.lastId = s.lastId
  := by
  unfold afterFailure
  cases c.backoff.next? s.attempts <;> rfl

/-- Before the login is answered a frame is taken for the answer. -/
theorem step_frame_of_awaitingLogin {s : Supervisor} {deadline : Instant}
    (hstage : s.stage = .awaitingLogin deadline) (c : StreamSettings) (clock : Clock)
    (text : String) :
  s.step c clock (.frame text) = s.receiveBeforeLogin clock.instant deadline text
  := by
  simp only [step, hstage]

/-- On the open connection a frame is received. -/
theorem step_frame_of_opened {s : Supervisor} (hstage : s.stage = .opened) (c : StreamSettings)
    (clock : Clock) (text : String) :
  s.step c clock (.frame text) = s.receiveOpen clock.instant text
  := by
  simp only [step, hstage]

/-- A frame taken up on the open connection is noted just when it is readable. -/
theorem health_receiveOpen {s : Supervisor} {h : Health} (now : Instant) (text : String)
    (hh : s.monitor.health? = some h) :
  ∃ h', (s.receiveOpen now text).1.monitor.health? = some h' ∧
    h'.heardAt = if (Json.parse? (Text.trim text)).isSome then now else h.heardAt
  := by
  have hreadable := Inbound.isSome_parse?_iff text
  unfold receiveOpen
  cases htext : Inbound.ofText text <;> rw [htext] at hreadable <;>
    simp_all [Monitor.mark]

end Supervisor

end VenueLink
