import VenueLink.Proofs.Deeds

/-!
# Messages on the open connection

On the open connection the messages of the venue go to the consumer.  As long as there is one,
they are handed on once each and in the order in which they come, and nothing else is.  A frame
never ends the session, whatever it holds.
-/

namespace VenueLink

/-- It ends the session on the open connection, or may do so. -/
def Occurrence.endsSession : Occurrence → Bool
  | .finished (.broken _) => true
  | .failed _ => true
  | .hungUp => true
  | .stopRequested => true
  | .timer (.silent _) => true
  | .timerGone => true
  | _ => false

namespace Supervisor

/-- The session on the open connection goes on. -/
def IsLive (s : Supervisor) : Prop := s.stage = .opened ∨ s.IsActing

namespace Incident

variable {c : StreamSettings} {x : Incident}

/-- The message that is taken up is the only one that is begun to be handed on. -/
theorem message?_begun (c : StreamSettings) (x : Incident) :
  (x.begun c).filterMap Effect.message? = x.message?.toList
  := by
  have hbegins := x.begins c
  generalize x.begun c = begun at hbegins ⊢
  cases hbegins with
  | nothing _ hmessage => simp [hmessage]
  | other _ hmessage _ _ _ hhands => simp [hmessage, hhands]
  | request _ hmessage => simp [hmessage, Effect.message?]
  | answer _ hmessage => simp [hmessage, Effect.message?]
  | newAnswer _ hmessage => simp [hmessage, Effect.message?]
  | message _ hmessage => simp [hmessage, Effect.message?]

end Incident

theorem isLive_receiveOpen {s : Supervisor} (hs : s.stage = .opened) (now : Instant)
    (text : String) :
  (s.receiveOpen now text).1.IsLive
  := by
  unfold receiveOpen
  cases Inbound.ofText text <;> simp [IsLive, IsActing, hs]

/-- A session goes on unless something ends it. -/
theorem IsLive.step {s : Supervisor} (h : s.IsLive) (c : StreamSettings) (clock : Clock)
    {o : Occurrence} (ho : o.endsSession = false) :
  (s.step c clock o).1.IsLive
  := by
  obtain ⟨stage, attempts, lastId, monitor⟩ := s
  rcases h with hs | hacting
  · obtain rfl : stage = .opened := hs
    cases o with
    | frame text =>
        change (receiveOpen clock.instant text ⟨.opened, attempts, lastId, monitor⟩).1.IsLive
        exact isLive_receiveOpen rfl clock.instant text
    | timer e =>
        cases e with
        | probe => exact .inr (.inl rfl)
        | silent idle => contradiction
    | failed | hungUp | stopRequested | timerGone => contradiction
    | _ => exact .inl rfl
  · have hstage : stage = .sendingProbe ∨ stage = .answering ∨ stage = .handingOn := hacting
    cases o with
    | finished r =>
        cases r with
        | done => rcases hstage with rfl | rfl | rfl <;> exact .inl rfl
        | broken e => contradiction
    | _ => rcases hstage with rfl | rfl | rfl <;> exact .inr hacting

theorem IsLive.run {s : Supervisor} (h : s.IsLive) (c : StreamSettings)
    {events : List (Clock × Occurrence)} (hends : ∀ e ∈ events, e.2.endsSession = false) :
  (s.run c events).IsLive
  := by
  induction events generalizing s with
  | nil => exact h
  | cons e events ih =>
      rw [List.forall_mem_cons] at hends
      exact ih (h.step c e.1 hends.1) hends.2

/-- Whatever the venue sends and whatever else occurs, while there is a consumer: the messages
handed on are those taken up on the open connection, each once and in their order.  When a frame
is taken up next, all of them have been handed on.  The session goes on until something ends it,
which no frame does. -/
theorem handedOn_eq_messages (c : StreamSettings) (s : Supervisor)
    (events : List (Clock × Occurrence))
    (hpresent : ∀ e ∈ (deeds c (s.incidents c events)).lost, e.message? = none) :
  ((deeds c (s.incidents c events)).done ++
      (deeds c (s.incidents c events)).pending).filterMap Effect.message? =
    (s.incidents c events).filterMap Incident.message? ∧
  (∀ x : Incident, x.before = s.run c events → x.frame?.isSome = true →
    (deeds c (s.incidents c events)).done.filterMap Effect.message? =
      (s.incidents c events).filterMap Incident.message?) ∧
  (s.IsLive → (∀ e ∈ events, e.2.endsSession = false) → (s.run c events).IsLive)
  := by
  have hmessages := filterMap_deeds (Incident.message?_begun c) hpresent
  use hmessages
  constructor
  · intro x hx hframe
    have hidle := Incident.idle_of_isSome_frame? hframe
    rw [hx] at hidle
    simpa [pending_eq_nil hidle] using hmessages
  · intro hlive hends
    exact hlive.run c hends

/-- A supervisor whose connection is open. -/
def openSupervisor : Supervisor := ({} : Supervisor).becomeOpen.1

/-- Two messages come in on an open connection, amid an answer, a probe, a tick of the timer and
frames that are blank or broken. -/
def mixedEvents : List (Clock × Occurrence) :=
  [.frame "[1]", .finished .done, .frame "\x7b\"id\":2,\"result\":null\x7d", .frame "  ",
    .frame "not json", .timer .probe, .finished .done,
    .frame "\x7b\"method\":\"server.ping\",\"id\":1\x7d", .finished .done,
    .frame "\x7b\"method\":\"order.update\",\"params\":[]\x7d"].map
      fun o : Occurrence => (⟨⟨0⟩, 0⟩, o)

theorem handedOn_eq_messages_mixedEvents :
  (deeds .standard (openSupervisor.incidents .standard mixedEvents)).lost.isEmpty = true ∧
    (((deeds .standard (openSupervisor.incidents .standard mixedEvents)).done ++
        (deeds .standard (openSupervisor.incidents .standard mixedEvents)).pending).filterMap
          Effect.message?).map Json.render =
      ["[1]", "\x7b\"method\":\"order.update\",\"params\":[]\x7d"] ∧
    (openSupervisor.run .standard mixedEvents).IsLive
  := by
  have hlost :
      (deeds .standard (openSupervisor.incidents .standard mixedEvents)).lost.isEmpty = true := by
    decide +kernel
  obtain ⟨hmessages, -, hlive⟩ := handedOn_eq_messages .standard openSupervisor mixedEvents (by
    rw [List.isEmpty_iff.mp hlost]
    exact nofun)
  use hlost
  constructor
  · rw [hmessages]
    decide +kernel
  · exact hlive (.inl rfl) (by decide)

end Supervisor

end VenueLink
