import Mathlib.Data.List.DropRight
import VenueLink.Proofs.ConnectionCourse

/-!
# Giving up

A supervisor counts the delays that it handed out since the last connection that opened, or since
the start when none did.  It gives up when a connection fails and as many delays as attempts are
allowed were handed out before it.

All that matters for this is the phase of a supervisor and the count of its attempts.  Incidents
turn these in one of few ways, each with its milestones, and what was told of a run is tallied along
the turns.
-/

namespace VenueLink

/-! ## Milestones -/

/-- Something that counts when a supervisor retries. -/
inductive Milestone where
  /-- A connection is tried. -/
  | tried
  /-- The connection is open. -/
  | opened
  /-- The connection failed. -/
  | failed
  /-- A delay before the next connection is handed out. -/
  | delayed
deriving DecidableEq, Repr

namespace Milestone

/-- What came after the last connection opened, or all when none did. -/
def recent (told : List Milestone) : List Milestone := told.rtakeWhile (· ≠ opened)

/-- The attempts in what is recent that no delay goes with: the first one of all. -/
def undelayed (told : List Milestone) : Nat := if opened ∈ told then 0 else 1

variable {told ms : List Milestone}

theorem recent_append (h : opened ∉ ms) :
  recent (told ++ ms) = recent told ++ ms
  := by
  have hms : ∀ m ∈ ms.reverse, decide (m ≠ opened) = true := by
    intro m hm
    exact decide_eq_true (ne_of_mem_of_not_mem (List.mem_reverse.mp hm) h)
  rw [recent, List.rtakeWhile, List.reverse_append, List.takeWhile_append_of_pos hms,
    List.reverse_append, List.reverse_reverse]
  rfl

theorem recent_append_opened :
  recent (told ++ [opened]) = []
  := List.rtakeWhile_concat_neg _ _ _ (by decide)

theorem undelayed_append (h : opened ∉ ms) :
  undelayed (told ++ ms) = undelayed told
  := by
  simp [undelayed, h]

theorem undelayed_append_opened :
  undelayed (told ++ [opened]) = 0
  := by
  simp [undelayed]

end Milestone

/-- The milestone that an effect is. -/
def Effect.milestone? : Effect → Option Milestone
  | .connect .. => some .tried
  | .count (.connected true) => some .opened
  | .count (.interruption _) => some .failed
  | .delay .. => some .delayed
  | _ => none

/-! ## Retries -/

/-- How a supervisor stands to connections. -/
inductive Phase where
  /-- There is none, and the next one is to come. -/
  | between
  /-- There is one, or it is tried. -/
  | connected
  /-- There will be none: it was asked to stop, or gave up after so many attempts. -/
  | over (gaveUpAfter? : Option Nat)
deriving DecidableEq, Repr

/-- The attempts that are still to come for the delays handed out and for the start. -/
def Phase.due : Phase → Nat
  | between => 1
  | _ => 0

/-- How far the retries are: the phase, and the delays handed out in a row. -/
structure Retry where
  phase : Phase
  attempts : Nat

/-- The phase to which a stage belongs. -/
def Stage.phase : Stage → Phase
  | .ready => .between
  | .waiting => .between
  | .ended gaveUpAfter? => .over gaveUpAfter?
  | _ => .connected

namespace Backoff

theorem next?_of_allows {b : Backoff} {n : Nat} (h : b.allows n = true) :
  b.next? n = some (b.delay n, n + 1)
  := if_pos h

theorem next?_eq_none {b : Backoff} {n : Nat} (h : b.allows n = false) :
  b.next? n = none
  := by
  simp [next?, h]

theorem allows_iff {b : Backoff} {n : Nat} :
  b.allows n = true ↔ b.maxAttempts = 0 ∨ n < b.maxAttempts
  := by
  simp [allows]

end Backoff

/-- What may happen to the retries at once, with its milestones. -/
inductive Retry.Turns (b : Backoff) : Retry → Retry → List Milestone → Prop where
  | still (r : Retry) : Turns b r r []
  | tries (n : Nat) : Turns b ⟨.between, n⟩ ⟨.connected, n⟩ [.tried]
  | opens (n : Nat) : Turns b ⟨.connected, n⟩ ⟨.connected, 0⟩ [.opened]
  | fails {n : Nat} (h : b.allows n = true) :
    Turns b ⟨.connected, n⟩ ⟨.between, n + 1⟩ [.failed, .delayed]
  | givesUp {n : Nat} (h : b.allows n = false) :
    Turns b ⟨.connected, n⟩ ⟨.over (some n), n⟩ [.failed]
  | stops (phase : Phase) (n : Nat) : Turns b ⟨phase, n⟩ ⟨.over none, n⟩ []

open Milestone in
/-- What was told agrees with how far the retries are. -/
structure Retry.Tallies (b : Backoff) (r : Retry) (told : List Milestone) : Prop where
  delays : (recent told).count .delayed = r.attempts
  bound : b.maxAttempts = 0 ∨ r.attempts ≤ b.maxAttempts
  tries_le : (recent told).count .tried ≤ r.attempts + undelayed told
  tries : r.phase ≠ .over none →
    (recent told).count .tried + r.phase.due = r.attempts + undelayed told
  last : r.phase = .connected → told.getLast? = some .tried ∨ told.getLast? = some .opened
  gaveUp : ∀ n, r.phase = .over (some n) → n = r.attempts ∧ n = b.maxAttempts ∧ 0 < n

namespace Retry.Tallies

open Milestone

variable {b : Backoff} {r r' : Retry} {n : Nat} {told ms : List Milestone}

/-- When no further attempt is allowed, as many delays as there are attempts were handed out. -/
theorem attempts_of_allows (h : Tallies b r told) (hallows : b.allows r.attempts = false) :
  r.attempts = b.maxAttempts ∧ 0 < r.attempts
  := by
  have hallows' := mt Backoff.allows_iff.mpr (Bool.eq_false_iff.mp hallows)
  have hbound := h.bound
  omega

/-- Whatever happens keeps it so. -/
theorem turn (h : Tallies b r told) (hturns : Turns b r r' ms) :
  Tallies b r' (told ++ ms)
  := by
  cases hturns with
  | still => rwa [List.append_nil]
  | tries n =>
      have hdelays : (recent told).count delayed = n := h.delays
      have htries : (recent told).count tried + 1 = n + undelayed told := h.tries (by simp)
      have hbound := h.bound
      constructor <;> simp_all [recent_append, undelayed_append, Phase.due]
  | opens n =>
      constructor <;> simp [recent_append_opened, undelayed_append_opened, Phase.due]
  | @fails n hallows =>
      have hdelays : (recent told).count delayed = n := h.delays
      have htries : (recent told).count tried = n + undelayed told := h.tries (by simp)
      have hbound := Backoff.allows_iff.mp hallows
      constructor <;> simp_all [recent_append, undelayed_append, Phase.due]
      all_goals omega
  | @givesUp n hallows =>
      obtain ⟨hmax, hpos⟩ := h.attempts_of_allows hallows
      have hdelays : (recent told).count delayed = n := h.delays
      have htries : (recent told).count tried = n + undelayed told := h.tries (by simp)
      constructor <;> simp_all [recent_append, undelayed_append, Phase.due]
  | stops phase n =>
      rw [List.append_nil]
      exact ⟨h.delays, h.bound, h.tries_le, by simp, by simp, by simp⟩

end Retry.Tallies

namespace Supervisor

/-- How far the retries of a supervisor are. -/
def retry (s : Supervisor) : Retry := ⟨s.stage.phase, s.attempts⟩

/-- The milestones in an incident. -/
def Incident.milestones (c : StreamSettings) (x : Incident) : List Milestone :=
  (x.effects c).filterMap Effect.milestone?

/-- The milestones in some incidents. -/
def milestones (c : StreamSettings) (log : List Incident) : List Milestone :=
  log.flatMap (Incident.milestones c)

variable {c : StreamSettings} {x : Incident}

/-- After a failure the next connection is to come, or it is given up. -/
theorem turns_afterFailure {s : Supervisor} {e : StreamError}
    (hstep : x.before.step c x.clock x.occurrence = s.afterFailure c e)
    (hbefore : x.before.retry = ⟨.connected, s.attempts⟩) :
  Retry.Turns c.backoff x.before.retry (x.after c).retry (x.milestones c)
  := by
  rw [Incident.milestones, Incident.effects, Incident.after, hstep, hbefore, afterFailure]
  cases hallows : c.backoff.allows s.attempts with
  | true =>
      rw [Backoff.next?_of_allows hallows]
      exact .fails hallows
  | false =>
      rw [Backoff.next?_eq_none hallows]
      exact .givesUp hallows

theorem turns_answerProbe {s : Supervisor} {now : Instant} {id? : Option Json} {next : Stage}
    (hstep : x.before.step c x.clock x.occurrence = s.answerProbe now id? next)
    (hbefore : x.before.retry = ⟨next.phase, s.attempts⟩) :
  Retry.Turns c.backoff x.before.retry (x.after c).retry (x.milestones c)
  := by
  rw [Incident.milestones, Incident.effects, Incident.after, hstep, hbefore]
  cases id? <;> exact .still _

/-- A frame that comes in before the login was answered. -/
theorem turns_receiveBeforeLogin {deadline : Instant} {text : String}
    (hstage : x.before.stage = .awaitingLogin deadline) (ho : x.occurrence = .frame text) :
  Retry.Turns c.backoff x.before.retry (x.after c).retry (x.milestones c)
  := by
  have hbefore : x.before.retry = ⟨.connected, x.before.attempts⟩ := by rw [retry, hstage]; rfl
  have hstep : x.before.step c x.clock x.occurrence =
      x.before.receiveBeforeLogin x.clock.instant deadline text := by
    rw [ho, step_frame_of_awaitingLogin hstage]
  unfold receiveBeforeLogin at hstep
  cases htext : Inbound.ofText text <;> simp only [htext] at hstep
  case probe id? => exact turns_answerProbe hstep hbefore
  all_goals rw [Incident.milestones, Incident.effects, Incident.after, hstep]
  case blank => exact .still _
  all_goals rw [hbefore]
  case malformed => exact .still _
  all_goals split <;> exact .still _

/-- A frame that comes in on the open connection. -/
theorem turns_receiveOpen {text : String} (hstage : x.before.stage = .opened)
    (ho : x.occurrence = .frame text) :
  Retry.Turns c.backoff x.before.retry (x.after c).retry (x.milestones c)
  := by
  have hbefore : x.before.retry = ⟨.connected, x.before.attempts⟩ := by rw [retry, hstage]; rfl
  have hstep : x.before.step c x.clock x.occurrence =
      x.before.receiveOpen x.clock.instant text := by
    rw [ho, step_frame_of_opened hstage]
  unfold receiveOpen at hstep
  cases htext : Inbound.ofText text <;> simp only [htext] at hstep
  case probe id? => exact turns_answerProbe hstep hbefore
  all_goals rw [Incident.milestones, Incident.effects, Incident.after, hstep]
  case event message =>
    rw [hbefore]
    exact .still _
  all_goals exact .still _

/-- Whatever is met, it does one of these things to the retries. -/
theorem turns (c : StreamSettings) (x : Incident) :
  Retry.Turns c.backoff x.before.retry (x.after c).retry (x.milestones c)
  := by
  obtain ⟨⟨stage, attempts, lastId, monitor⟩, clock, o⟩ := x
  cases stage
  case ready =>
    cases o with
    | checked stop =>
        cases stop with
        | true => exact .stops _ _
        | false => exact .tries _
    | _ => exact .still _
  case connecting =>
    cases o with
    | finished r =>
        cases r with
        | done => exact .still _
        | broken e => exact turns_afterFailure rfl rfl
    | _ => exact .still _
  case awaitingLogin deadline =>
    cases o with
    | frame text => exact turns_receiveBeforeLogin rfl rfl
    | _ => exact .still _
  case subscribingAssets =>
    cases o with
    | finished r =>
        cases r with
        | done => exact .opens _
        | broken e => exact .still _
    | _ => exact .still _
  case opened =>
    cases o with
    | frame text => exact turns_receiveOpen rfl rfl
    | timer e => cases e <;> exact .still _
    | _ => exact .still _
  case stoppingTimer out =>
    cases o with
    | finished r => cases out <;> exact .still _
    | _ => exact .still _
  case closing out =>
    cases o with
    | finished r =>
        cases out with
        | done => exact .stops _ _
        | broken e => exact turns_afterFailure rfl rfl
    | _ => cases out <;> exact .still _
  case waiting =>
    cases o with
    | stopRequested => exact .stops _ _
    | _ => exact .still _
  case ended gaveUpAfter? => cases o <;> exact .still _
  all_goals
    cases o with
    | finished r => cases r <;> exact .still _
    | _ => exact .still _

/-! ## Runs -/

/-- The milestones of a run. -/
def told (c : StreamSettings) (events : List (Clock × Occurrence)) : List Milestone :=
  milestones c (incidents c {} events)

end Supervisor

end VenueLink
