import Mathlib.Tactic.Common
import VenueLink.Proofs.Supervisor

/-!
# Logging in

A connection opens only after its login was answered.  The answer is a frame that came in
after the login was sent: it holds data, is no probe and reports no error code; and none before
it refused the login.
-/

namespace VenueLink

/-! ## Answers to a login -/

/-- A frame grants the login: it holds data, is no probe and reports no error code. -/
def GrantsLogin (text : String) : Prop :=
  ∃ message, Json.parse? (Text.trim text) = some message ∧ ¬ message.IsProbe ∧
    isLoginGranted message = true

/-- A frame refuses the login: it is malformed, or no probe and reports an error code. -/
def RefusesLogin (text : String) : Prop :=
  Inbound.ofText text = .malformed ∨
    ∃ message, Json.parse? (Text.trim text) = some message ∧ ¬ message.IsProbe ∧
      isLoginGranted message = false

/-- Blank frames do not refuse a login. -/
theorem not_refusesLogin_of_blank {text : String} (h : Inbound.ofText text = .blank) :
  ¬ RefusesLogin text
  := by
  rintro (hmalformed | ⟨message, hmessage, -⟩)
  · exact nomatch h.symm.trans hmalformed
  · apply (Inbound.ofJson_ne message).1
    rw [← Inbound.ofText_eq_ofJson hmessage, h]

/-- Probes do not refuse a login. -/
theorem not_refusesLogin_of_probe {text : String} {id? : Option Json}
    (h : Inbound.ofText text = .probe id?) :
  ¬ RefusesLogin text
  := by
  rintro (hmalformed | ⟨message, hmessage, hprobe, -⟩)
  · exact nomatch h.symm.trans hmalformed
  · rw [Inbound.ofText_eq_ofJson hmessage] at h
    obtain h' | h' := Inbound.ofJson_of_not_isProbe hprobe
    · exact nomatch h'.symm.trans h
    · exact nomatch h'.symm.trans h

/-- An answer or a message that reports no error code grants a login. -/
theorem grantsLogin_of_reply {text : String} {reply : Json}
    (h : Inbound.ofText text = .ack reply ∨ Inbound.ofText text = .event reply)
    (hgranted : isLoginGranted reply = true) :
  GrantsLogin text
  := by
  have hdata : Inbound.ofText text ≠ .blank ∧ Inbound.ofText text ≠ .malformed := by
    rcases h with h | h <;> simp [h]
  obtain ⟨message, hmessage, htext⟩ := Inbound.exists_parse hdata.1 hdata.2
  have hprobe : ¬ message.IsProbe := by
    intro hprobe
    rw [htext, Inbound.ofJson_of_isProbe hprobe] at h
    simp at h
  have hreply : message = reply := by
    rcases Inbound.ofJson_of_not_isProbe hprobe with hjson | hjson <;>
      rw [htext, hjson] at h <;> simpa using h
  rw [hreply] at hmessage hprobe
  exact ⟨reply, hmessage, hprobe, hgranted⟩

/-- The login was granted by a frame received, and none before it refused it. -/
def LoginGranted (received? : Option (List String)) : Prop :=
  ∃ before reply after, received? = some (before ++ reply :: after) ∧ GrantsLogin reply ∧
    ∀ text ∈ before, ¬ RefusesLogin text

theorem LoginGranted.append {received? : Option (List String)} (h : LoginGranted received?)
    (text : String) :
  LoginGranted (received?.map (· ++ [text]))
  := by
  obtain ⟨before, reply, after, rfl, hgrants, hbefore⟩ := h
  exact ⟨before, reply, after ++ [text], by simp, hgrants, hbefore⟩

/-! ## What comes in on a connection -/

/-- A supervisor beside the frames that came in on its connection since the login was sent:
none until then. -/
structure Traffic where
  supervisor : Supervisor := {}
  received? : Option (List String) := none

namespace Traffic

/-- What an occurrence leads to.  Before a login is sent on a new connection nothing was
received, and a frame is received only when one is waited for. -/
def step (c : StreamSettings) (x : Traffic) (e : Supervisor.Clock × Occurrence) : Traffic where
  supervisor := (x.supervisor.step c e.1 e.2).1
  received? :=
    match x.supervisor.stage, e.2 with
    | .ready, .checked false => none
    | .sendingLogin, .finished .done => some []
    | .awaitingLogin _, .frame text => x.received?.map (· ++ [text])
    | .opened, .frame text => x.received?.map (· ++ [text])
    | _, _ => x.received?

/-- What occurrences lead to, one after the other. -/
def run (c : StreamSettings) (x : Traffic) (events : List (Supervisor.Clock × Occurrence)) :
    Traffic :=
  events.foldl (step c) x

/-- What was received fits where the supervisor stands, and is not known as open too early. -/
def Fits (x : Traffic) : Prop :=
  match x.supervisor.stage with
  | .awaitingLogin _ =>
    x.supervisor.monitor.state ≠ .opened ∧
      ∃ texts, x.received? = some texts ∧ ∀ text ∈ texts, ¬ RefusesLogin text
  | .answeringBeforeLogin _ =>
    x.supervisor.monitor.state ≠ .opened ∧
      ∃ texts, x.received? = some texts ∧ ∀ text ∈ texts, ¬ RefusesLogin text
  | .subscribingOrders => x.supervisor.monitor.state ≠ .opened ∧ LoginGranted x.received?
  | .subscribingAssets => x.supervisor.monitor.state ≠ .opened ∧ LoginGranted x.received?
  | .opened => LoginGranted x.received?
  | .sendingProbe => LoginGranted x.received?
  | .answering => LoginGranted x.received?
  | .handingOn => LoginGranted x.received?
  | .stoppingTimer _ => LoginGranted x.received?
  | _ => x.supervisor.monitor.state ≠ .opened

section

variable {c : StreamSettings} {s : Supervisor} {received? : Option (List String)}
  {clock : Supervisor.Clock} {o : Occurrence}

theorem fits_close {e : StreamError} :
  Fits ⟨(s.close (.broken e)).1, received?⟩
  := by
  simp [Fits, Monitor.interrupt]

theorem fits_afterFailure {e : StreamError} (hstate : s.monitor.state ≠ .opened) :
  Fits ⟨(s.afterFailure c e).1, received?⟩
  := by
  obtain ⟨hstage, hmonitor⟩ | ⟨n, hstage, hmonitor⟩ := s.afterFailure_cases c e
  · simpa [Fits, hstage, hmonitor] using hstate
  · simp [Fits, hstage, hmonitor]

/-- What is taken for the answer to the login leads on to the subscriptions or ends the
connection. -/
theorem receiveBeforeLogin_of_reply (s : Supervisor) (now deadline : Instant) {text : String}
    {reply : Json}
    (h : Inbound.ofText text = .ack reply ∨ Inbound.ofText text = .event reply) :
  s.receiveBeforeLogin now deadline text =
    let heard := s.mark fun h => h.sawEvent now
    if isLoginGranted reply then
      (heard.drawId.2.standAt .subscribingOrders, [.send (.subscribeOrders heard.drawId.1)])
    else heard.close (.broken (.authRejected reply.render))
  := by
  unfold Supervisor.receiveBeforeLogin
  rcases h with h | h
  · rw [h]
  · rw [h]

variable {s' : Supervisor}

/-- What is taken for the answer to the login grants it or ends the connection. -/
theorem fits_receive_reply {texts : List String} (hstate : s.monitor.state ≠ .opened)
    (htexts : ∀ text ∈ texts, ¬ RefusesLogin text) {now deadline : Instant} {text : String}
    {reply : Json}
    (h : Inbound.ofText text = .ack reply ∨ Inbound.ofText text = .event reply)
    (hs' : (s.receiveBeforeLogin now deadline text).1 = s') :
  Fits ⟨s', some (texts ++ [text])⟩
  := by
  rw [receiveBeforeLogin_of_reply s now deadline h] at hs'
  subst hs'
  by_cases hgranted : isLoginGranted reply = true
  · have hlogin : LoginGranted (some (texts ++ [text])) :=
      ⟨texts, text, [], rfl, grantsLogin_of_reply h hgranted, htexts⟩
    simpa [hgranted, Fits, Monitor.mark] using And.intro hstate hlogin
  · simp [hgranted, fits_close]

/-- A frame that comes in before the login is answered leaves that open, grants the login or
ends the connection. -/
theorem fits_receiveBeforeLogin {texts : List String} {now deadline : Instant} {text : String}
    (hstage : s.stage = .awaitingLogin deadline) (hstate : s.monitor.state ≠ .opened)
    (htexts : ∀ text ∈ texts, ¬ RefusesLogin text)
    (hs' : (s.receiveBeforeLogin now deadline text).1 = s') :
  Fits ⟨s', some (texts ++ [text])⟩
  := by
  have hunrefused (h : ¬ RefusesLogin text) :
      ∀ text' ∈ texts ++ [text], ¬ RefusesLogin text' := by
    simpa [or_imp, forall_and] using ⟨htexts, h⟩
  cases htext : Inbound.ofText text with
  | blank =>
      simp only [Supervisor.receiveBeforeLogin, htext] at hs'
      subst hs'
      simpa [Fits, hstage] using And.intro hstate (hunrefused (not_refusesLogin_of_blank htext))
  | malformed =>
      simp only [Supervisor.receiveBeforeLogin, htext] at hs'
      subst hs'
      apply fits_close
  | probe id? =>
      simp only [Supervisor.receiveBeforeLogin, htext] at hs'
      subst hs'
      simpa [Fits, Monitor.mark] using
        And.intro hstate (hunrefused (not_refusesLogin_of_probe htext))
  | ack reply => apply fits_receive_reply hstate htexts (.inl htext) hs'
  | event reply => apply fits_receive_reply hstate htexts (.inr htext) hs'

/-- While the login is not answered. -/
theorem fits_step_awaitingLogin {deadline : Instant} {texts : List String}
    (hstage : s.stage = .awaitingLogin deadline) (hstate : s.monitor.state ≠ .opened)
    (htexts : ∀ text ∈ texts, ¬ RefusesLogin text) :
  (step c ⟨s, some texts⟩ (clock, o)).Fits
  := by
  cases o with
  | frame text =>
      simp only [step, hstage, Supervisor.step_frame_of_awaitingLogin hstage]
      -- left in place, what the frame leads to would be computed by every later step
      generalize hs' : (s.receiveBeforeLogin clock.instant deadline text).1 = s'
      apply fits_receiveBeforeLogin hstage hstate htexts hs'
  | failed e => simp [step, Supervisor.step, hstage, fits_close]
  | hungUp => simp [step, Supervisor.step, hstage, fits_close]
  | loginOverdue => simp [step, Supervisor.step, hstage, fits_close]
  | _ => simpa [step, Supervisor.step, Fits, hstage] using And.intro hstate htexts

/-- While the subscriptions are sent. -/
theorem fits_step_subscribing
    (hstage : s.stage = .subscribingOrders ∨ s.stage = .subscribingAssets)
    (hstate : s.monitor.state ≠ .opened) (h : LoginGranted received?) :
  (step c ⟨s, received?⟩ (clock, o)).Fits
  := by
  rcases hstage with hstage | hstage <;> cases o with
  | finished r =>
      cases r with
      | done => simpa [step, Supervisor.step, Fits, hstage, hstate] using h
      | broken e => simp [step, Supervisor.step, hstage, fits_close]
  | _ => simpa [step, Supervisor.step, Fits, hstage, hstate] using h

/-- On the open connection. -/
theorem fits_step_opened (hstage : s.stage = .opened) (h : LoginGranted received?) :
  (step c ⟨s, received?⟩ (clock, o)).Fits
  := by
  cases o with
  | frame text =>
      have hgranted := h.append text
      simp only [step, hstage, Supervisor.step_frame_of_opened hstage]
      unfold Supervisor.receiveOpen
      cases Inbound.ofText text <;> simpa [Fits, hstage] using hgranted
  | timer e => cases e <;> simpa [step, Supervisor.step, Fits, hstage] using h
  | _ => simpa [step, Supervisor.step, Fits, hstage] using h

/-- While something is done on the open connection. -/
theorem fits_step_acting (hstage : s.IsActing) (h : LoginGranted received?) :
  (step c ⟨s, received?⟩ (clock, o)).Fits
  := by
  rcases hstage with hstage | hstage | hstage <;> cases o with
  | finished r => cases r <;> simpa [step, Supervisor.step, Fits, hstage] using h
  | _ => simpa [step, Supervisor.step, Fits, hstage] using h

end

/-- Whatever occurs, what was received keeps fitting. -/
theorem Fits.step {c : StreamSettings} {x : Traffic} (h : x.Fits)
    (e : Supervisor.Clock × Occurrence) :
  (x.step c e).Fits
  := by
  obtain ⟨s, received?⟩ := x
  obtain ⟨clock, o⟩ := e
  unfold Fits at h
  cases hstage : s.stage <;> simp only [hstage] at h
  case ready =>
    cases o with
    | checked stop =>
        cases stop <;> simp [Traffic.step, Supervisor.step, Fits, hstage,
          Supervisor.tryConnection, Monitor.tried]
    | _ => simpa [Traffic.step, Supervisor.step, Fits, hstage] using h
  case connecting =>
    cases o with
    | finished r =>
        cases r with
        | done =>
            simpa [Traffic.step, Supervisor.step, Fits, hstage, Supervisor.sendLogin] using h
        | broken e =>
            simp only [Traffic.step, Supervisor.step, hstage]
            apply fits_afterFailure
            simp [Monitor.interrupt]
    | _ => simpa [Traffic.step, Supervisor.step, Fits, hstage] using h
  case sendingLogin =>
    cases o with
    | finished r =>
        cases r with
        | done => simpa [Traffic.step, Supervisor.step, Fits, hstage] using h
        | broken e => simp [Traffic.step, Supervisor.step, hstage, fits_close]
    | _ => simpa [Traffic.step, Supervisor.step, Fits, hstage] using h
  case awaitingLogin deadline =>
    obtain ⟨hstate, texts, rfl, htexts⟩ := h
    apply fits_step_awaitingLogin hstage hstate htexts
  case answeringBeforeLogin deadline =>
    cases o with
    | finished r =>
        cases r with
        | done => simpa [Traffic.step, Supervisor.step, Fits, hstage, Monitor.mark] using h
        | broken e => simp [Traffic.step, Supervisor.step, hstage, fits_close]
    | loginOverdue => simp [Traffic.step, Supervisor.step, hstage, fits_close]
    | _ => simpa [Traffic.step, Supervisor.step, Fits, hstage] using h
  case subscribingOrders => apply fits_step_subscribing (.inl hstage) h.1 h.2
  case subscribingAssets => apply fits_step_subscribing (.inr hstage) h.1 h.2
  case opened => apply fits_step_opened hstage h
  case sendingProbe => apply fits_step_acting (.inl hstage) h
  case answering => apply fits_step_acting (.inr (.inl hstage)) h
  case handingOn => apply fits_step_acting (.inr (.inr hstage)) h
  case stoppingTimer out =>
    cases o with
    | finished r =>
        cases out <;> simp [Traffic.step, Supervisor.step, Fits, hstage, Monitor.interrupt]
    | _ => simpa [Traffic.step, Supervisor.step, Fits, hstage] using h
  case closing out =>
    cases o with
    | finished r =>
        cases out with
        | done => simp [Traffic.step, Supervisor.step, Fits, hstage]
        | broken e =>
            simp only [Traffic.step, Supervisor.step, hstage]
            apply fits_afterFailure h
    | _ => cases out <;> simpa [Traffic.step, Supervisor.step, Fits, hstage] using h
  case waiting =>
    cases o with
    | stopRequested => simp [Traffic.step, Supervisor.step, Fits, hstage]
    | _ => simpa [Traffic.step, Supervisor.step, Fits, hstage] using h
  case ended => cases o <;> simpa [Traffic.step, Supervisor.step, Fits, hstage] using h

theorem Fits.run {c : StreamSettings} {x : Traffic} (h : x.Fits)
    (events : List (Supervisor.Clock × Occurrence)) :
  (x.run c events).Fits
  := by
  induction events generalizing x with
  | nil => exact h
  | cons e events ih => exact ih (h.step e)

theorem Fits.loginGranted {x : Traffic} (h : x.Fits)
    (hopened : x.supervisor.monitor.state = .opened) :
  LoginGranted x.received?
  := by
  unfold Fits at h
  cases hstage : x.supervisor.stage <;> simp_all

end Traffic

end VenueLink
