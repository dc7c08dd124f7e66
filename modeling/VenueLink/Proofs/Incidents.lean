import VenueLink.Proofs.Supervisor

/-!
# What a supervisor meets and begins

An incident is an occurrence that a supervisor meets, beside where it stands then.  A probe that
it takes up is answered at once, and a message is handed on when the connection is open.  All
that may be begun in an incident is stated here once, together with the request ids that are
drawn and the results that are waited for.
-/

namespace VenueLink

/-- No result of anything is waited for. -/
def Stage.isIdle : Stage → Bool
  | .ready => true
  | .awaitingLogin _ => true
  | .opened => true
  | .waiting => true
  | .ended _ => true
  | _ => false

/-- The occurrences that a stage waits for. -/
def Stage.awaits : Stage → Occurrence → Bool
  | .ready, .checked _ => true
  | .awaitingLogin _, .frame _ => true
  | .awaitingLogin _, .failed _ => true
  | .awaitingLogin _, .hungUp => true
  | .awaitingLogin _, .loginOverdue => true
  | .answeringBeforeLogin _, .loginOverdue => true
  | .opened, .frame _ => true
  | .opened, .failed _ => true
  | .opened, .hungUp => true
  | .opened, .stopRequested => true
  | .opened, .timer _ => true
  | .opened, .timerGone => true
  | .waiting, .stopRequested => true
  | .waiting, .delayOver => true
  | stage, .finished _ => !stage.isIdle
  | _, _ => false

theorem Stage.isIdle_of_not_awaits {stage : Stage} {r : Outcome}
    (h : stage.awaits (.finished r) = false) :
  stage.isIdle = true
  := by
  simpa [awaits] using h

namespace Effect

/-- Something that is begun and has a result. -/
def hasResult : Effect → Bool
  | .connect .. => true
  | .send _ => true
  | .handOn _ => true
  | .stopTimer => true
  | .close => true
  | _ => false

/-- The request that is sent. -/
def request? : Effect → Option StreamRequest
  | .send r => some r
  | _ => none

/-- The message that is handed on. -/
def message? : Effect → Option Json
  | .handOn message => some message
  | _ => none

end Effect

namespace Supervisor

theorem begun_afterFailure (s : Supervisor) (c : StreamSettings) (e : StreamError) :
  (s.afterFailure c e).2.filter Effect.hasResult = []
  := by
  unfold afterFailure
  cases c.backoff.next? s.attempts <;> rfl

/-- What is not waited for changes nothing. -/
theorem step_of_not_awaits {s : Supervisor} {o : Occurrence} (h : s.stage.awaits o = false)
    (c : StreamSettings) (clock : Clock) :
  s.step c clock o = (s, [])
  := by
  unfold step
  split <;> simp_all [Stage.awaits, Stage.isIdle]

/-- An occurrence that a supervisor meets at some readings of the clocks. -/
structure Incident where
  before : Supervisor
  clock : Clock
  occurrence : Occurrence

namespace Incident

variable (c : StreamSettings) (x : Incident)

/-- The supervisor after the incident. -/
def after : Supervisor := (x.before.step c x.clock x.occurrence).1

/-- What the supervisor begins in the incident. -/
def begun : List Effect := (x.before.step c x.clock x.occurrence).2.filter Effect.hasResult

/-- The frame that the supervisor takes up. -/
def frame? : Option String :=
  match x.before.stage, x.occurrence with
  | .awaitingLogin _, .frame text => some text
  | .opened, .frame text => some text
  | _, _ => none

/-- The probe that the supervisor takes up, by its id. -/
def probe? : Option (Option Json) := x.frame?.bind probeOf?

/-- The message that the supervisor takes up on the open connection. -/
def message? : Option Json :=
  if x.before.stage = .opened then x.frame?.bind messageOf? else none

/-- The next request id. -/
def nextId : Json := .ofNat (x.before.lastId + 1)

/-- What may be begun in an incident, and the supervisor that is left.  Its last request id is
that of the request that was begun, if that has a new one.  It waits for a result when anything
was begun, and else when it did so before and none came. -/
inductive Begins (s : Supervisor) : List Effect → Prop where
  | nothing (hprobe : x.probe? = none) (hmessage : x.message? = none)
    (hid : s.lastId = x.before.lastId)
    (hwaits : x.before.stage.isIdle = true ∨ (∃ r, x.occurrence = .finished r) ∨
      s.stage.isIdle = false) : Begins s []
  | other {e : Effect} (hprobe : x.probe? = none) (hmessage : x.message? = none)
    (hid : s.lastId = x.before.lastId) (hbusy : s.stage.isIdle = false)
    (hrequest : e.request? = none) (hhands : e.message? = none) : Begins s [e]
  | request {r : StreamRequest} (hprobe : x.probe? = none) (hmessage : x.message? = none)
    (hid : s.lastId = x.before.lastId + 1) (hbusy : s.stage.isIdle = false)
    (hr : r.id = x.nextId) (hpong : ∀ id, r ≠ .pong id) : Begins s [.send r]
  | answer {id : Json} (hprobe : x.probe? = some (some id)) (hmessage : x.message? = none)
    (hid : s.lastId = x.before.lastId) (hbusy : s.stage.isIdle = false) :
    Begins s [.send (.pong id)]
  | newAnswer (hprobe : x.probe? = some none) (hmessage : x.message? = none)
    (hid : s.lastId = x.before.lastId + 1) (hbusy : s.stage.isIdle = false) :
    Begins s [.send (.pong x.nextId)]
  | message {message : Json} (hprobe : x.probe? = none) (hmessage : x.message? = some message)
    (hid : s.lastId = x.before.lastId) (hbusy : s.stage.isIdle = false) :
    Begins s [.handOn message]

variable {c x}

theorem frame?_of_awaitingLogin {deadline : Instant} {text : String}
    (hstage : x.before.stage = .awaitingLogin deadline) (ho : x.occurrence = .frame text) :
  x.frame? = some text
  := by
  simp [frame?, hstage, ho]

theorem frame?_of_opened {text : String} (hstage : x.before.stage = .opened)
    (ho : x.occurrence = .frame text) :
  x.frame? = some text
  := by
  simp [frame?, hstage, ho]

theorem frame?_of_finished {r : Outcome} (ho : x.occurrence = .finished r) :
  x.frame? = none
  := by
  unfold frame?
  split <;> simp_all

theorem frame?_of_not_awaits (h : x.before.stage.awaits x.occurrence = false) :
  x.frame? = none
  := by
  unfold frame?
  split <;> simp_all [Stage.awaits]

theorem probe?_eq_none (hframe : x.frame? = none) :
  x.probe? = none
  := by
  simp [probe?, hframe]

theorem message?_eq_none (hframe : x.frame? = none) :
  x.message? = none
  := by
  simp [message?, hframe]

/-- Nothing is begun where no result is waited for. -/
theorem begins_nothing (hidle : x.before.stage.isIdle = true) (hframe : x.frame? = none)
    (hbegun : x.begun c = []) (hid : (x.after c).lastId = x.before.lastId) :
  x.Begins (x.after c) (x.begun c)
  := by
  rw [hbegun]
  exact .nothing (probe?_eq_none hframe) (message?_eq_none hframe) hid (.inl hidle)

/-- Nothing is begun after a result. -/
theorem begins_finished {r : Outcome} (ho : x.occurrence = .finished r)
    (hbegun : x.begun c = []) (hid : (x.after c).lastId = x.before.lastId) :
  x.Begins (x.after c) (x.begun c)
  := by
  have hframe := frame?_of_finished ho
  rw [hbegun]
  exact .nothing (probe?_eq_none hframe) (message?_eq_none hframe) hid (.inr (.inl ⟨r, ho⟩))

/-- Nothing is begun by what is not waited for. -/
theorem begins_ignored (h : x.before.stage.awaits x.occurrence = false) :
  x.Begins (x.after c) (x.begun c)
  := by
  have hframe := frame?_of_not_awaits h
  rw [after, begun, step_of_not_awaits h]
  apply Begins.nothing (probe?_eq_none hframe) (message?_eq_none hframe) rfl
  cases hidle : x.before.stage.isIdle with
  | true => left; rfl
  | false => right; right; rfl

/-- A request is begun under the next id. -/
theorem begins_request {r : StreamRequest} {next : Stage} (hframe : x.frame? = none)
    (hstep : x.before.step c x.clock x.occurrence = (x.before.drawId.2.standAt next, [.send r]))
    (hbusy : next.isIdle = false) (hr : r.id = x.nextId) (hpong : ∀ id, r ≠ .pong id) :
  x.Begins (x.after c) (x.begun c)
  := by
  rw [after, begun, hstep]
  exact .request (probe?_eq_none hframe) (message?_eq_none hframe) rfl hbusy hr hpong

theorem begins_connect (hframe : x.frame? = none)
    (hstep : x.before.step c x.clock x.occurrence = x.before.tryConnection c x.clock.instant) :
  x.Begins (x.after c) (x.begun c)
  := by
  rw [after, begun, hstep]
  apply Begins.other (probe?_eq_none hframe) (message?_eq_none hframe) <;> rfl

theorem begins_close {out : Outcome} (hframe : x.frame? = none)
    (hstep : x.before.step c x.clock x.occurrence = x.before.close out) :
  x.Begins (x.after c) (x.begun c)
  := by
  rw [after, begun, hstep]
  have hclosing : (x.before.close out).1.stage.isIdle = false := by rw [stage_close]; rfl
  exact .other (probe?_eq_none hframe) (message?_eq_none hframe) (x.before.lastId_close out)
    hclosing rfl rfl

theorem begins_stopTimer {out : Outcome} (hframe : x.frame? = none)
    (hstep : x.before.step c x.clock x.occurrence = x.before.stopTimer out) :
  x.Begins (x.after c) (x.begun c)
  := by
  rw [after, begun, hstep]
  apply Begins.other (probe?_eq_none hframe) (message?_eq_none hframe) <;> rfl

theorem begins_afterFailure {s : Supervisor} {e : StreamError} {r : Outcome}
    (ho : x.occurrence = .finished r)
    (hstep : x.before.step c x.clock x.occurrence = s.afterFailure c e)
    (hid : s.lastId = x.before.lastId) :
  x.Begins (x.after c) (x.begun c)
  := by
  apply begins_finished ho
  · rw [begun, hstep, begun_afterFailure]
  · rw [after, hstep, lastId_afterFailure, hid]

theorem begins_answerProbe {s : Supervisor} {now : Instant} {id? : Option Json} {next : Stage}
    (hprobe : x.probe? = some id?) (hmessage : x.message? = none)
    (hid : s.lastId = x.before.lastId) (hnext : next.isIdle = false) :
  x.Begins (s.answerProbe now id? next).1 ((s.answerProbe now id? next).2.filter Effect.hasResult)
  := by
  cases id? with
  | none =>
      have hnew : (s.answerProbe now none next).2 = [.send (.pong x.nextId)] := by
        rw [nextId, ← hid]
        rfl
      rw [hnew]
      exact .newAnswer hprobe hmessage (congrArg (· + 1) hid) hnext
  | some id => exact .answer hprobe hmessage hid hnext

/-- A frame that comes in before the login was answered. -/
theorem begins_receiveBeforeLogin {deadline : Instant} {text : String}
    (hstage : x.before.stage = .awaitingLogin deadline) (ho : x.occurrence = .frame text) :
  x.Begins (x.after c) (x.begun c)
  := by
  have hidle : x.before.stage.isIdle = true := by rw [hstage]; rfl
  have hstep : x.before.step c x.clock x.occurrence =
      x.before.receiveBeforeLogin x.clock.instant deadline text := by
    rw [ho, step_frame_of_awaitingLogin hstage]
  have hprobe : x.probe? = probeOf? text := by
    simp [probe?, frame?_of_awaitingLogin hstage ho]
  have hmessage : x.message? = none := by simp [message?, hstage]
  rw [Inbound.probeOf?_eq] at hprobe
  rw [begun, after, hstep, receiveBeforeLogin]
  cases htext : Inbound.ofText text <;> simp only [htext] at hprobe ⊢
  case blank => exact .nothing hprobe hmessage rfl (.inl hidle)
  case malformed => apply Begins.other hprobe hmessage <;> rfl
  case probe id? => exact begins_answerProbe hprobe hmessage rfl rfl
  all_goals
    split
    · apply Begins.request hprobe hmessage
      case hid | hbusy | hr => rfl
      case hpong => exact nofun
    · apply Begins.other hprobe hmessage <;> rfl

/-- A frame that comes in on the open connection. -/
theorem begins_receiveOpen {text : String} (hstage : x.before.stage = .opened)
    (ho : x.occurrence = .frame text) :
  x.Begins (x.after c) (x.begun c)
  := by
  have hidle : x.before.stage.isIdle = true := by rw [hstage]; rfl
  have hstep : x.before.step c x.clock x.occurrence =
      x.before.receiveOpen x.clock.instant text := by
    rw [ho, step_frame_of_opened hstage]
  have hprobe : x.probe? = probeOf? text := by simp [probe?, frame?_of_opened hstage ho]
  have hmessage : x.message? = messageOf? text := by
    simp [message?, hstage, frame?_of_opened hstage ho]
  rw [Inbound.probeOf?_eq] at hprobe
  rw [Inbound.messageOf?_eq] at hmessage
  rw [begun, after, hstep, receiveOpen]
  cases htext : Inbound.ofText text <;> simp only [htext] at hprobe hmessage ⊢
  case probe id? => exact begins_answerProbe hprobe hmessage rfl rfl
  case event message => exact .message hprobe hmessage rfl rfl
  all_goals exact .nothing hprobe hmessage rfl (.inl hidle)

/-- What was begun has a result. -/
theorem begins_result {r : Outcome} (ho : x.occurrence = .finished r) :
  x.Begins (x.after c) (x.begun c)
  := by
  obtain ⟨⟨stage, attempts, lastId, monitor⟩, clock, _⟩ := x
  cases ho
  cases stage
  case connecting =>
    cases r with
    | done =>
        apply begins_request
        case hframe | hstep | hbusy | hr => rfl
        case hpong => exact nofun
    | broken e => apply begins_afterFailure <;> rfl
  case subscribingOrders =>
    cases r with
    | done =>
        apply begins_request
        case hframe | hstep | hbusy | hr => rfl
        case hpong => exact nofun
    | broken e => exact begins_close rfl rfl
  case sendingLogin | answeringBeforeLogin | subscribingAssets =>
    cases r with
    | done => apply begins_finished <;> rfl
    | broken e => exact begins_close rfl rfl
  case sendingProbe | answering | handingOn =>
    cases r with
    | done => apply begins_finished <;> rfl
    | broken e => exact begins_stopTimer rfl rfl
  case stoppingTimer out => exact begins_close rfl rfl
  case closing out =>
    cases out with
    | done => apply begins_finished <;> rfl
    | broken e => apply begins_afterFailure <;> rfl
  -- At all other stages nothing was begun.
  all_goals exact begins_ignored rfl

/-- Whatever is met, something is begun or nothing is, by the stage and what is met there. -/
theorem begins (c : StreamSettings) (x : Incident) :
  x.Begins (x.after c) (x.begun c)
  := by
  obtain ⟨⟨stage, attempts, lastId, monitor⟩, clock, o⟩ := x
  cases stage
  case ready =>
    cases o with
    | checked stop =>
        cases stop with
        | true => apply begins_nothing <;> rfl
        | false => exact begins_connect rfl rfl
    | _ => exact begins_ignored rfl
  case awaitingLogin deadline =>
    cases o with
    | frame text => exact begins_receiveBeforeLogin rfl rfl
    | failed | hungUp | loginOverdue => exact begins_close rfl rfl
    | _ => exact begins_ignored rfl
  case answeringBeforeLogin deadline =>
    cases o with
    | finished r => exact begins_result rfl
    | loginOverdue => exact begins_close rfl rfl
    | _ => exact begins_ignored rfl
  case opened =>
    cases o with
    | frame text => exact begins_receiveOpen rfl rfl
    | timer e =>
        cases e with
        | probe =>
            apply begins_request
            case hframe | hstep | hbusy | hr => rfl
            case hpong => exact nofun
        | silent idle => exact begins_stopTimer rfl rfl
    | failed | hungUp | stopRequested | timerGone => exact begins_stopTimer rfl rfl
    | _ => exact begins_ignored rfl
  case waiting =>
    cases o with
    | stopRequested | delayOver => apply begins_nothing <;> rfl
    | _ => exact begins_ignored rfl
  -- At all other stages only a result is waited for, if anything is.
  all_goals
    cases o with
    | finished r => exact begins_result rfl
    | _ => exact begins_ignored rfl

theorem lastId_le_after (c : StreamSettings) (x : Incident) :
  x.before.lastId ≤ (x.after c).lastId
  := by
  have hbegins := x.begins c
  generalize x.begun c = begun at hbegins
  cases hbegins <;> omega

/-- Where no result is waited for afterwards, nothing was begun, and any result waited for
before came. -/
theorem begun_of_idle_after (h : (x.after c).stage.isIdle = true) :
  x.begun c = [] ∧ (x.before.stage.isIdle = true ∨ ∃ r, x.occurrence = .finished r)
  := by
  have hbegins := x.begins c
  generalize x.begun c = begun at hbegins ⊢
  cases hbegins with
  | nothing _ _ _ hwaits => simpa [h] using hwaits
  | _ => simp_all

theorem idle_of_isSome_frame? (h : x.frame?.isSome = true) :
  x.before.stage.isIdle = true
  := by
  unfold frame? at h
  split at h
  next hstage _ => rw [hstage]; rfl
  next hstage _ => rw [hstage]; rfl
  next => simp at h

end Incident

end Supervisor

end VenueLink
