import Mathlib.Data.List.Chain
import VenueLink.Proofs.Deeds

/-!
# The course of a connection

Over any number of connections, the state known from outside moves along a few edges only.  What
is told of each connection, from the attempt to its end, is one of three courses: it could not
be made; it was made and failed before it opened; or it opened, after the login was granted and
both subscriptions were sent.  A connection that was made is closed once, after its timer ended
and before the next attempt.
-/

namespace VenueLink

namespace ConnectionState

/-- The states that may follow a state directly. -/
def successors : ConnectionState → List ConnectionState
  | closed => [connecting]
  | connecting => [opened, interrupted]
  | opened => [interrupted, closing]
  | interrupted => [connecting, closed]
  | closing => [closed]

/-- A state stays as it is, or another follows. -/
def LeadsTo (a b : ConnectionState) : Prop := b = a ∨ b ∈ a.successors

theorem LeadsTo.refl (a : ConnectionState) :
  a.LeadsTo a
  := .inl rfl

instance (a b : ConnectionState) : Decidable (a.LeadsTo b) :=
  inferInstanceAs (Decidable (_ ∨ _))

end ConnectionState

/-! ## What is told of a connection -/

/-- Something that is told of a connection. -/
inductive Mark where
  /-- A connection is tried. -/
  | attempted
  /-- The connection could not be made. -/
  | refused
  /-- The connection is made. -/
  | established
  /-- The login was sent. -/
  | loginSent
  /-- The login was granted. -/
  | loginGranted
  /-- The order subscription was sent. -/
  | ordersSubscribed
  /-- The balance subscription was sent. -/
  | assetsSubscribed
  /-- The connection becomes known as open. -/
  | opened
  /-- The timer is started. -/
  | timerStarted
  /-- The timer ended. -/
  | timerEnded
  /-- The connection begins to be closed. -/
  | closing
  /-- The connection is closed. -/
  | closed
deriving DecidableEq, Repr

namespace Mark

/-- All that is told of a connection until it is open. -/
def untilOpen : List Mark :=
  [attempted, established, loginSent, loginGranted, ordersSubscribed, assetsSubscribed, opened,
    timerStarted]

/-- All that is told of one connection, from the attempt to its end. -/
inductive Whole : List Mark → Prop where
  /-- The connection could not be made. -/
  | refused : Whole [attempted, refused]
  /-- The connection was made and failed while it was logged in or subscribed. -/
  | failed {told : List Mark} (h : told <+: [loginSent, loginGranted, ordersSubscribed]) :
    Whole ([attempted, established] ++ told ++ [closing, closed])
  /-- The connection was open, and was closed after the timer ended. -/
  | opened : Whole (untilOpen ++ [timerEnded, closing, closed])

end Mark

namespace Effect

/-- What is told when something is begun. -/
def beginMark? : Effect → Option Mark
  | .connect .. => some .attempted
  | .startTimer => some .timerStarted
  | .close => some .closing
  | _ => none

/-- What is told when something has a result. -/
def endMark? : Effect → Outcome → Option Mark
  | .connect .., .done => some .established
  | .connect .., .broken _ => some .refused
  | .send (.login ..), .done => some .loginSent
  | .send (.subscribeOrders _), .done => some .ordersSubscribed
  | .send (.subscribeAssets ..), .done => some .assetsSubscribed
  | .stopTimer, _ => some .timerEnded
  | .close, _ => some .closed
  | _, _ => none

end Effect

namespace Supervisor

namespace Incident

variable (c : StreamSettings) (x : Incident)

/-- What the supervisor does in the incident. -/
def effects : List Effect := (x.before.step c x.clock x.occurrence).2

/-- The states that the incident goes through.  A connection that could not be made is
interrupted before the attempts may be given up. -/
def states : List ConnectionState :=
  match x.before.stage, x.occurrence with
  | .connecting, .finished (.broken e) =>
    [(x.before.monitor.interrupt e).state, (x.after c).monitor.state]
  | _, _ => [(x.after c).monitor.state]

/-- The frame that is taken up grants the login that is waited for. -/
def grantsLogin : Bool :=
  match x.before.stage, x.occurrence with
  | .awaitingLogin _, .frame text =>
    match Inbound.ofText text with
    | .ack reply => isLoginGranted reply
    | .event reply => isLoginGranted reply
    | _ => false
  | _, _ => false

/-- The connection becomes known as open. -/
def opens : Bool := x.before.monitor.state ≠ .opened ∧ (x.after c).monitor.state = .opened

/-- What the incident tells of what is pending. -/
def ends (pending : List Effect) : List Mark :=
  match x.occurrence with
  | .finished r => pending.filterMap fun e => e.endMark? r
  | _ => []

/-- What the incident tells of a connection, when something is pending. -/
def marks (pending : List Effect) : List Mark :=
  x.ends pending ++
  (if x.grantsLogin then [.loginGranted] else []) ++
  (if x.opens c then [.opened] else []) ++
  (x.effects c).filterMap Effect.beginMark?

end Incident

/-- What is told of the connections of a run, with what became of all that was begun. -/
structure Chronicle where
  deeds : Deeds := {}
  states : List ConnectionState := [.closed]
  marks : List Mark := []

/-- What is told after one more incident. -/
def Chronicle.note (c : StreamSettings) (h : Chronicle) (x : Incident) : Chronicle where
  deeds := h.deeds.note x.occurrence (x.begun c)
  states := h.states ++ x.states c
  marks := h.marks ++ x.marks c h.deeds.pending

/-- What is told of the connections in some incidents. -/
def chronicle (c : StreamSettings) (log : List Incident) : Chronicle :=
  log.foldl (Chronicle.note c) {}

theorem chronicle_concat (c : StreamSettings) (log : List Incident) (x : Incident) :
  chronicle c (log ++ [x]) = (chronicle c log).note c x
  := by
  simp [chronicle]

/-! ## One incident -/

open Mark in
/-- Where a supervisor stands, with what is pending and what was told of the current
connection. -/
inductive Stands (s : Supervisor) : List Effect → List Mark → Prop where
  | ready (hstage : s.stage = .ready)
    (hstate : s.monitor.state = .closed ∨ s.monitor.state = .interrupted) : Stands s [] []
  | connecting {url : String} {headers : List (String × String)}
    (hstage : s.stage = .connecting) (hstate : s.monitor.state = .connecting) :
    Stands s [.connect url headers] [attempted]
  | sendingLogin {id : Nat} {apiKey signature : String} {timestampMs : Int}
    (hstage : s.stage = .sendingLogin) (hstate : s.monitor.state = .connecting) :
    Stands s [.send (.login id apiKey signature timestampMs)] [attempted, established]
  | awaitingLogin {deadline : Instant} (hstage : s.stage = .awaitingLogin deadline)
    (hstate : s.monitor.state = .connecting) :
    Stands s [] [attempted, established, loginSent]
  | answeringBeforeLogin {deadline : Instant} {id : Json}
    (hstage : s.stage = .answeringBeforeLogin deadline)
    (hstate : s.monitor.state = .connecting) :
    Stands s [.send (.pong id)] [attempted, established, loginSent]
  | subscribingOrders {id : Nat} (hstage : s.stage = .subscribingOrders)
    (hstate : s.monitor.state = .connecting) :
    Stands s [.send (.subscribeOrders id)] [attempted, established, loginSent, loginGranted]
  | subscribingAssets {id : Nat} {assets : List String} (hstage : s.stage = .subscribingAssets)
    (hstate : s.monitor.state = .connecting) :
    Stands s [.send (.subscribeAssets id assets)]
      [attempted, established, loginSent, loginGranted, ordersSubscribed]
  | opened (hstage : s.stage = .opened) (hstate : s.monitor.state = .opened) :
    Stands s [] untilOpen
  | acting {e : Effect} (hstage : s.IsActing) (hstate : s.monitor.state = .opened)
    (he : ∀ r, e.endMark? r = none) : Stands s [e] untilOpen
  | stoppingTimer {out : Outcome} (hstage : s.stage = .stoppingTimer out)
    (hstate : s.monitor.state = .opened) : Stands s [.stopTimer] untilOpen
  | closingDone {told : List Mark} (hstage : s.stage = .closing .done)
    (hstate : s.monitor.state = .closing) (htold : Whole (told ++ [closed])) :
    Stands s [.close] told
  | closingBroken {e : StreamError} {told : List Mark} (hstage : s.stage = .closing (.broken e))
    (hstate : s.monitor.state = .interrupted) (htold : Whole (told ++ [closed])) :
    Stands s [.close] told
  | waiting (hstage : s.stage = .waiting) (hstate : s.monitor.state = .interrupted) :
    Stands s [] []
  | ended {gaveUpAfter? : Option Nat} (hstage : s.stage = .ended gaveUpAfter?)
    (hstate : s.monitor.state = .closed) : Stands s [] []

/-- After an incident the current connection goes on, or it is over and there is none. -/
structure Proceeds (c : StreamSettings) (x : Incident) (d : Deeds) (told : List Mark) : Prop where
  path : List.IsChain ConnectionState.LeadsTo (x.before.monitor.state :: x.states c)
  course : let pending := (d.note x.occurrence (x.begun c)).pending
    let told := told ++ x.marks c d.pending
    Stands (x.after c) pending told ∨ Mark.Whole told ∧ Stands (x.after c) pending []

section

variable {s : Supervisor} {c : StreamSettings} {clock : Clock} {o : Occurrence} {x : Incident}
  {d : Deeds} {done lost : List Effect} {told : List Mark}

/-! ### Attempts -/

/-- No connection is tried. -/
def TriesNone (s : Supervisor) (r : Supervisor × List Effect) : Prop :=
  r.1.monitor.connections = s.monitor.connections ∧ .attempted ∉ r.2.filterMap Effect.beginMark?

theorem triesNone_mk {s' : Supervisor} {effects : List Effect} :
  s.TriesNone (s', effects) ↔ s'.monitor.connections = s.monitor.connections ∧
    .attempted ∉ effects.filterMap Effect.beginMark?
  := .rfl

theorem triesNone_close (s : Supervisor) (out : Outcome) :
  s.TriesNone (s.close out)
  := by
  cases out <;> exact ⟨rfl, by simp [close, Effect.beginMark?]⟩

/-- Nothing is told of a connection that is given up or waited for. -/
theorem marks_afterFailure (s : Supervisor) (e : StreamError) :
  (s.afterFailure c e).2.filterMap Effect.beginMark? = []
  := by
  unfold afterFailure
  cases c.backoff.next? s.attempts <;> rfl

theorem triesNone_afterFailure (s : Supervisor) (e : StreamError) :
  s.TriesNone (s.afterFailure c e)
  := by
  constructor
  · obtain ⟨-, hmonitor⟩ | ⟨n, -, hmonitor⟩ := s.afterFailure_cases c e <;> rw [hmonitor]
  · rw [marks_afterFailure]
    exact List.not_mem_nil

theorem triesNone_answerProbe (s : Supervisor) (now : Instant) (id? : Option Json)
    (next : Stage) :
  s.TriesNone (s.answerProbe now id? next)
  := by
  cases id? <;> exact ⟨rfl, by simp [answerProbe, Effect.beginMark?]⟩

theorem triesNone_receiveBeforeLogin (s : Supervisor) (now deadline : Instant) (text : String) :
  s.TriesNone (s.receiveBeforeLogin now deadline text)
  := by
  unfold receiveBeforeLogin
  cases Inbound.ofText text with
  | blank => exact ⟨rfl, List.not_mem_nil⟩
  | malformed => apply triesNone_close
  | probe id? => apply triesNone_answerProbe
  | ack reply | event reply =>
      dsimp only
      split
      · exact ⟨rfl, by simp [Effect.beginMark?]⟩
      · apply triesNone_close

theorem triesNone_receiveOpen (s : Supervisor) (now : Instant) (text : String) :
  s.TriesNone (s.receiveOpen now text)
  := by
  unfold receiveOpen
  cases Inbound.ofText text with
  | probe id? => apply triesNone_answerProbe
  | _ => exact ⟨rfl, by simp [Effect.beginMark?]⟩

/-- Whatever is met, a connection is tried or none is. -/
theorem step_tries (s : Supervisor) (c : StreamSettings) (clock : Clock) (o : Occurrence) :
  s.step c clock o = s.tryConnection c clock.instant ∨ s.TriesNone (s.step c clock o)
  := by
  have hrefused (e : StreamError) :
      s.TriesNone ((s.watch fun m => m.interrupt e).afterFailure c e) :=
    triesNone_afterFailure (s.watch fun m => m.interrupt e) e
  unfold step
  split <;> simp [hrefused, triesNone_close, triesNone_afterFailure,
    triesNone_receiveBeforeLogin, triesNone_receiveOpen, triesNone_mk, sendLogin, stopTimer,
    becomeOpen, drawId, Monitor.mark, Effect.beginMark?]

namespace Incident

/-- A result is not that of an attempt. -/
theorem attempted_notMem_ends (x : Incident) (pending : List Effect) :
  .attempted ∉ x.ends pending
  := by
  unfold ends
  split
  · rw [List.mem_filterMap]
    rintro ⟨e, -, he⟩
    unfold Effect.endMark? at he
    split at he <;> simp at he
  · exact List.not_mem_nil

theorem ends_of_forall {e : Effect} (he : ∀ r, e.endMark? r = none) :
  x.ends [e] = []
  := by
  unfold ends
  split <;> simp [he]

/-- Of what is told only what is begun may be an attempt. -/
theorem count_attempted_marks (x : Incident) (pending : List Effect) :
  (x.marks c pending).count .attempted =
    ((x.effects c).filterMap Effect.beginMark?).count .attempted
  := by
  have hends := List.count_eq_zero.mpr (x.attempted_notMem_ends pending)
  have hgrants : (if x.grantsLogin then [Mark.loginGranted] else []).count .attempted = 0 := by
    split <;> rfl
  have hopens : (if x.opens c then [Mark.opened] else []).count .attempted = 0 := by
    split <;> rfl
  rw [marks, List.count_append, List.count_append, List.count_append, hends, hgrants, hopens]
  apply Nat.zero_add

/-- The connections are counted when they are attempted. -/
theorem connections_after (x : Incident) (pending : List Effect) :
  (x.after c).monitor.connections =
    x.before.monitor.connections + (x.marks c pending).count .attempted
  := by
  rw [count_attempted_marks, after, effects]
  rcases x.before.step_tries c x.clock x.occurrence with htries | ⟨hconnections, hnone⟩
  · rw [htries]
    rfl
  · rw [hconnections, List.count_eq_zero.mpr hnone, Nat.add_zero]

/-- An attempt starts with a fresh health record. -/
theorem health_of_attempt {url : String} {headers : List (String × String)}
    (hconnect : .connect url headers ∈ x.effects c) :
  (x.after c).monitor.health? = some (.begun x.clock.instant)
  := by
  have hmark : .attempted ∈ (x.effects c).filterMap Effect.beginMark? :=
    List.mem_filterMap.mpr ⟨_, hconnect, rfl⟩
  rw [after]
  rcases x.before.step_tries c x.clock x.occurrence with htries | ⟨-, hnone⟩
  · rw [htries]
    rfl
  · exact absurd hmark hnone

theorem states_of_ne (h : x.before.stage ≠ .connecting) :
  x.states c = [(x.after c).monitor.state]
  := by
  unfold states
  split
  next hstage _ => exact absurd hstage h
  next => rfl

theorem states_of_not_awaits (h : x.before.stage.awaits x.occurrence = false) :
  x.states c = [(x.after c).monitor.state]
  := by
  unfold states
  split
  next hstage ho =>
    rw [hstage, ho] at h
    contradiction
  next => rfl

theorem grantsLogin_of_not_awaits (h : x.before.stage.awaits x.occurrence = false) :
  x.grantsLogin = false
  := by
  unfold grantsLogin
  split
  next hstage ho =>
    rw [hstage, ho] at h
    contradiction
  next => rfl

end Incident

/-! ### Where it stands afterwards -/

/-- The state known from outside stays as it is. -/
theorem Proceeds.stays (hstates : x.states c = [x.before.monitor.state])
    (hstands : Stands (x.after c) (d.note x.occurrence (x.begun c)).pending
      (told ++ x.marks c d.pending)) :
  Proceeds c x d told
  := by
  refine ⟨?_, .inl hstands⟩
  rw [hstates]
  apply List.isChain_pair.mpr
  apply ConnectionState.LeadsTo.refl

/-- The state known from outside moves along an edge. -/
theorem Proceeds.moves (a b : ConnectionState)
    (hstates : x.before.monitor.state :: x.states c = [a, b]) (hleads : a.LeadsTo b)
    (hstands : Stands (x.after c) (d.note x.occurrence (x.begun c)).pending
      (told ++ x.marks c d.pending)) :
  Proceeds c x d told
  := by
  refine ⟨?_, .inl hstands⟩
  rw [hstates]
  exact List.isChain_pair.mpr hleads

/-- The connection failed while it was logged in or subscribed, and is closed. -/
theorem Stands.failed {e : StreamError} (sent : List Mark)
    (hsent : sent <+: [.loginSent, .loginGranted, .ordersSubscribed])
    (hstage : s.stage = .closing (.broken e)) (hstate : s.monitor.state = .interrupted) :
  Stands s [.close] ([.attempted, .established] ++ sent ++ [.closing])
  := by
  apply Stands.closingBroken hstage hstate
  simpa using Mark.Whole.failed hsent

/-- Nothing is pending where no result is waited for. -/
theorem Stands.pending_eq_nil {pending : List Effect} (h : Stands s pending told)
    (hidle : s.stage.isIdle = true) :
  pending = []
  := by
  cases h with
  | ready | awaitingLogin | opened | waiting | ended => rfl
  | acting hstage =>
      rcases hstage with hstage | hstage | hstage <;> rw [hstage] at hidle <;> contradiction
  | _ hstage =>
      rw [hstage] at hidle
      contradiction

/-- What is not waited for changes nothing. -/
theorem proceeds_ignored (h : Stands x.before d.pending told)
    (hignored : x.before.stage.awaits x.occurrence = false) :
  Proceeds c x d told
  := by
  have hstep := step_of_not_awaits hignored c x.clock
  have hafter : x.after c = x.before := by rw [Incident.after, hstep]
  have hbegun : x.begun c = [] := by rw [Incident.begun, hstep]; rfl
  have hidle (r : Outcome) (ho : x.occurrence = .finished r) : d.pending = [] := by
    rw [ho] at hignored
    exact h.pending_eq_nil (Stage.isIdle_of_not_awaits hignored)
  have hends : x.ends d.pending = [] := by
    unfold Incident.ends
    split
    next r ho =>
      rw [hidle r ho]
      rfl
    next => rfl
  have hpending : (d.note x.occurrence []).pending = d.pending := by
    cases ho : x.occurrence with
    | finished r => rw [Deeds.pending_note (.inr ⟨r, rfl⟩), hidle r ho]
    | _ => rfl
  have hgrant := Incident.grantsLogin_of_not_awaits hignored
  have hopens : x.opens c = false := by simp [Incident.opens, hafter]
  have hmarks : x.marks c d.pending = [] := by
    rw [Incident.marks, hends, hgrant, hopens, Incident.effects, hstep]
    rfl
  apply Proceeds.stays
  · rw [Incident.states_of_not_awaits hignored, hafter]
  · rw [hafter, hbegun, hpending, hmarks, List.append_nil]
    exact h

/-- A frame is taken up, and does not open the connection. -/
theorem Proceeds.takes {text : String} {r : Supervisor × List Effect}
    (hstep : s.step c clock (.frame text) = r) (hstage : s.stage ≠ .connecting)
    (hleads : s.monitor.state.LeadsTo r.1.monitor.state)
    (hopened : r.1.monitor.state = .opened → s.monitor.state = .opened)
    (hstands : Stands r.1 (r.2.filter Effect.hasResult) (told ++
      ((if (Incident.mk s clock (.frame text)).grantsLogin then [.loginGranted] else []) ++
        r.2.filterMap Effect.beginMark?))) :
  Proceeds c ⟨s, clock, .frame text⟩ ⟨done, lost, []⟩ told
  := by
  set x : Incident := ⟨s, clock, .frame text⟩
  have hafter : x.after c = r.1 := by rw [Incident.after, hstep]
  have hopens : x.opens c = false := by
    rw [Incident.opens, hafter]
    apply decide_eq_false
    rintro ⟨hne, h⟩
    exact hne (hopened h)
  have hmarks : x.marks c [] = (if x.grantsLogin then [.loginGranted] else []) ++
      r.2.filterMap Effect.beginMark? := by
    rw [Incident.marks, hopens, Incident.effects, hstep]
    simp [Incident.ends, x]
  apply Proceeds.moves s.monitor.state r.1.monitor.state
  · rw [Incident.states_of_ne hstage, hafter]
  · exact hleads
  · rw [hmarks, hafter, Incident.begun, hstep, Deeds.pending_note (.inl rfl)]
    exact hstands

/-- A frame that comes in before the login was answered grants it, or fails to, or leaves it
open. -/
theorem stands_receiveBeforeLogin {deadline : Instant} (hstage : s.stage = .awaitingLogin deadline)
    (hstate : s.monitor.state = .connecting) (clock : Clock) (text : String) :
  let r := s.receiveBeforeLogin clock.instant deadline text
  (r.1.monitor.state = .connecting ∨ r.1.monitor.state = .interrupted) ∧
    Stands r.1 (r.2.filter Effect.hasResult) ([.attempted, .established, .loginSent] ++
      ((if (Incident.mk s clock (.frame text)).grantsLogin then [.loginGranted] else []) ++
        r.2.filterMap Effect.beginMark?))
  := by
  have hgrant : (Incident.mk s clock (.frame text)).grantsLogin =
      match Inbound.ofText text with
      | .ack reply => isLoginGranted reply
      | .event reply => isLoginGranted reply
      | _ => false := by
    simp only [Incident.grantsLogin, hstage]
  rw [hgrant]
  unfold receiveBeforeLogin
  cases Inbound.ofText text with
  | blank => exact ⟨.inl hstate, .awaitingLogin hstage hstate⟩
  | malformed => exact ⟨.inr rfl, .failed [.loginSent] ⟨_, rfl⟩ rfl rfl⟩
  | probe id? => cases id? <;> exact ⟨.inl hstate, .answeringBeforeLogin rfl hstate⟩
  | ack reply | event reply =>
      dsimp only
      by_cases hgranted : isLoginGranted reply
      · simp only [hgranted, if_true]
        exact ⟨.inl hstate, .subscribingOrders rfl hstate⟩
      · simp only [hgranted]
        exact ⟨.inr rfl, .failed [.loginSent] ⟨_, rfl⟩ rfl rfl⟩

/-- The open connection goes on after a frame. -/
theorem stands_receiveOpen (hstage : s.stage = .opened) (hstate : s.monitor.state = .opened)
    (now : Instant) (text : String) :
  let r := s.receiveOpen now text
  r.1.monitor.state = .opened ∧
    Stands r.1 (r.2.filter Effect.hasResult) (Mark.untilOpen ++ r.2.filterMap Effect.beginMark?)
  := by
  unfold receiveOpen
  cases Inbound.ofText text with
  | blank | malformed | ack => exact ⟨hstate, .opened hstage hstate⟩
  | probe id? =>
      cases id? <;> exact ⟨hstate, .acting (.inr (.inl rfl)) hstate fun _ => rfl⟩
  | event message => exact ⟨hstate, .acting (.inr (.inr rfl)) hstate fun _ => rfl⟩

/-- After an interruption another connection is waited for, or there is none any more. -/
theorem stands_afterFailure (hs : s.monitor.state = .interrupted) (c : StreamSettings)
    (e : StreamError) :
  Stands (s.afterFailure c e).1 [] [] ∧
    ConnectionState.LeadsTo .interrupted (s.afterFailure c e).1.monitor.state ∧
    (s.afterFailure c e).1.monitor.state ≠ .opened
  := by
  obtain ⟨hstage, hmonitor⟩ | ⟨n, hstage, hmonitor⟩ := s.afterFailure_cases c e
  · have hstate : (s.afterFailure c e).1.monitor.state = .interrupted := by rw [hmonitor, hs]
    refine ⟨.waiting hstage hstate, ?_, ?_⟩ <;> rw [hstate]
    · exact .refl _
    · exact nofun
  · have hstate : (s.afterFailure c e).1.monitor.state = .closed := by rw [hmonitor]
    refine ⟨.ended hstage hstate, ?_, ?_⟩ <;> rw [hstate]
    · decide
    · exact nofun

/-- A connection that could not be made, or is closed, is over. -/
theorem Proceeds.completes {e : StreamError} {r : Outcome} (ho : x.occurrence = .finished r)
    (hstep : x.before.step c x.clock x.occurrence = s.afterFailure c e)
    (hstate : s.monitor.state = .interrupted)
    (hpath : List.IsChain ConnectionState.LeadsTo (x.before.monitor.state :: x.states c))
    (hwhole : Mark.Whole (told ++ x.ends d.pending)) :
  Proceeds c x d told
  := by
  obtain ⟨hstands, -, hopened⟩ := stands_afterFailure hstate c e
  have hafter : x.after c = (s.afterFailure c e).1 := by rw [Incident.after, hstep]
  have hopens : x.opens c = false := by simp [Incident.opens, hafter, hopened]
  have hgrant : x.grantsLogin = false := by simp [Incident.grantsLogin, ho]
  have hmarks : x.marks c d.pending = x.ends d.pending := by
    rw [Incident.marks, hopens, hgrant, Incident.effects, hstep, marks_afterFailure]
    simp
  refine ⟨hpath, .inr ⟨?_, ?_⟩⟩
  · rw [hmarks]
    exact hwhole
  · rw [Deeds.pending_note (.inr ⟨r, ho⟩), hafter, Incident.begun, hstep, begun_afterFailure]
    exact hstands

/-! ### Stage by stage

Of what a stage waits for, the states that are gone through and where the supervisor stands then
are computed; all else is ignored. -/

theorem proceeds_ready (hstage : s.stage = .ready)
    (hstate : s.monitor.state = .closed ∨ s.monitor.state = .interrupted) :
  Proceeds c ⟨s, clock, o⟩ ⟨done, lost, []⟩ []
  := by
  obtain ⟨_, attempts, lastId, ⟨state, connections, health?, last?⟩⟩ := s
  cases hstage
  have hstate : state = .closed ∨ state = .interrupted := hstate
  cases o with
  | checked stop =>
      cases stop with
      | true =>
          apply Proceeds.moves state .closed rfl
          · rcases hstate with rfl | rfl <;> decide
          · rcases hstate with rfl | rfl <;> exact .ended rfl rfl
      | false =>
          apply Proceeds.moves state .connecting rfl
          · rcases hstate with rfl | rfl <;> decide
          · rcases hstate with rfl | rfl <;> exact .connecting rfl rfl
  | _ => exact proceeds_ignored (.ready rfl hstate) rfl

/-- A connection could not be made. -/
theorem proceeds_refused {e : StreamError} {url : String} {headers : List (String × String)}
    (hstage : s.stage = .connecting) (hstate : s.monitor.state = .connecting) :
  Proceeds c ⟨s, clock, .finished (.broken e)⟩ ⟨done, lost, [.connect url headers]⟩ [.attempted]
  := by
  set x : Incident := ⟨s, clock, .finished (.broken e)⟩
  have hstep : x.before.step c x.clock x.occurrence =
      (s.watch fun m => m.interrupt e).afterFailure c e := by
    simp only [x, step, hstage]
  have hstates : x.states c = [.interrupted, (x.after c).monitor.state] := by
    simp only [x, Incident.states, hstage]
    rfl
  apply Proceeds.completes rfl hstep rfl
  · rw [hstate, hstates, Incident.after, hstep]
    apply List.IsChain.cons_cons
    · decide
    · exact List.isChain_pair.mpr (stands_afterFailure rfl c e).2.1
  · exact .refused

theorem proceeds_connecting {url : String} {headers : List (String × String)}
    (hstage : s.stage = .connecting) (hstate : s.monitor.state = .connecting) :
  Proceeds c ⟨s, clock, o⟩ ⟨done, lost, [.connect url headers]⟩ [.attempted]
  := by
  obtain ⟨_, attempts, lastId, ⟨_, connections, health?, last?⟩⟩ := s
  cases hstage
  cases hstate
  cases o with
  | finished r =>
      cases r with
      | done => exact .stays rfl (.sendingLogin rfl rfl)
      | broken e => exact proceeds_refused rfl rfl
  | _ => exact proceeds_ignored (.connecting rfl rfl) rfl

theorem proceeds_sendingLogin {id : Nat} {apiKey signature : String} {timestampMs : Int}
    (hstage : s.stage = .sendingLogin) (hstate : s.monitor.state = .connecting) :
  Proceeds c ⟨s, clock, o⟩ ⟨done, lost, [.send (.login id apiKey signature timestampMs)]⟩
    [.attempted, .established]
  := by
  obtain ⟨_, attempts, lastId, ⟨_, connections, health?, last?⟩⟩ := s
  cases hstage
  cases hstate
  cases o with
  | finished r =>
      cases r with
      | done => exact .stays rfl (.awaitingLogin rfl rfl)
      | broken e =>
          apply Proceeds.moves .connecting .interrupted rfl (by decide)
          exact .failed [] ⟨_, rfl⟩ rfl rfl
  | _ => exact proceeds_ignored (.sendingLogin rfl rfl) rfl

/-- A frame that comes in before the login was answered. -/
theorem proceeds_receiveBeforeLogin {deadline : Instant} {text : String}
    (hstage : s.stage = .awaitingLogin deadline) (hstate : s.monitor.state = .connecting) :
  Proceeds c ⟨s, clock, .frame text⟩ ⟨done, lost, []⟩ [.attempted, .established, .loginSent]
  := by
  obtain ⟨hstate', hstands⟩ := stands_receiveBeforeLogin hstage hstate clock text
  apply Proceeds.takes (step_frame_of_awaitingLogin hstage c clock text)
  · simp [hstage]
  · rw [hstate]
    rcases hstate' with hstate' | hstate' <;> rw [hstate'] <;> decide
  · intro hopened
    rcases hstate' with hstate' | hstate' <;> exact nomatch hopened.symm.trans hstate'
  · exact hstands

theorem proceeds_awaitingLogin {deadline : Instant} (hstage : s.stage = .awaitingLogin deadline)
    (hstate : s.monitor.state = .connecting) :
  Proceeds c ⟨s, clock, o⟩ ⟨done, lost, []⟩ [.attempted, .established, .loginSent]
  := by
  obtain ⟨_, attempts, lastId, ⟨_, connections, health?, last?⟩⟩ := s
  cases hstage
  cases hstate
  cases o with
  | frame text => exact proceeds_receiveBeforeLogin rfl rfl
  | failed | hungUp | loginOverdue =>
      apply Proceeds.moves .connecting .interrupted rfl (by decide)
      exact .failed [.loginSent] ⟨_, rfl⟩ rfl rfl
  | _ => exact proceeds_ignored (.awaitingLogin rfl rfl) rfl

theorem proceeds_answeringBeforeLogin {deadline : Instant} {id : Json}
    (hstage : s.stage = .answeringBeforeLogin deadline) (hstate : s.monitor.state = .connecting) :
  Proceeds c ⟨s, clock, o⟩ ⟨done, lost, [.send (.pong id)]⟩ [.attempted, .established, .loginSent]
  := by
  obtain ⟨_, attempts, lastId, ⟨_, connections, health?, last?⟩⟩ := s
  cases hstage
  cases hstate
  cases o with
  | finished r =>
      cases r with
      | done => exact .stays rfl (.awaitingLogin rfl rfl)
      | broken e =>
          apply Proceeds.moves .connecting .interrupted rfl (by decide)
          exact .failed [.loginSent] ⟨_, rfl⟩ rfl rfl
  | loginOverdue =>
      apply Proceeds.moves .connecting .interrupted rfl (by decide)
      exact .failed [.loginSent] ⟨_, rfl⟩ rfl rfl
  | _ => exact proceeds_ignored (.answeringBeforeLogin rfl rfl) rfl

theorem proceeds_subscribingOrders {id : Nat} (hstage : s.stage = .subscribingOrders)
    (hstate : s.monitor.state = .connecting) :
  Proceeds c ⟨s, clock, o⟩ ⟨done, lost, [.send (.subscribeOrders id)]⟩
    [.attempted, .established, .loginSent, .loginGranted]
  := by
  obtain ⟨_, attempts, lastId, ⟨_, connections, health?, last?⟩⟩ := s
  cases hstage
  cases hstate
  cases o with
  | finished r =>
      cases r with
      | done => exact .stays rfl (.subscribingAssets rfl rfl)
      | broken e =>
          apply Proceeds.moves .connecting .interrupted rfl (by decide)
          exact .failed [.loginSent, .loginGranted] ⟨_, rfl⟩ rfl rfl
  | _ => exact proceeds_ignored (.subscribingOrders rfl rfl) rfl

theorem proceeds_subscribingAssets {id : Nat} {assets : List String}
    (hstage : s.stage = .subscribingAssets) (hstate : s.monitor.state = .connecting) :
  Proceeds c ⟨s, clock, o⟩ ⟨done, lost, [.send (.subscribeAssets id assets)]⟩
    [.attempted, .established, .loginSent, .loginGranted, .ordersSubscribed]
  := by
  obtain ⟨_, attempts, lastId, ⟨_, connections, health?, last?⟩⟩ := s
  cases hstage
  cases hstate
  cases o with
  | finished r =>
      cases r with
      | done =>
          apply Proceeds.moves .connecting .opened rfl (by decide)
          exact .opened rfl rfl
      | broken e =>
          apply Proceeds.moves .connecting .interrupted rfl (by decide)
          exact .failed [.loginSent, .loginGranted, .ordersSubscribed] ⟨_, rfl⟩ rfl rfl
  | _ => exact proceeds_ignored (.subscribingAssets rfl rfl) rfl

/-- A frame that comes in on the open connection. -/
theorem proceeds_receiveOpen {text : String} (hstage : s.stage = .opened)
    (hstate : s.monitor.state = .opened) :
  Proceeds c ⟨s, clock, .frame text⟩ ⟨done, lost, []⟩ Mark.untilOpen
  := by
  obtain ⟨hstate', hstands⟩ := stands_receiveOpen hstage hstate clock.instant text
  apply Proceeds.takes (step_frame_of_opened hstage c clock text)
  · simp [hstage]
  · rw [hstate, hstate']
    exact .refl _
  · intro _
    exact hstate
  · have hgrant : (Incident.mk s clock (.frame text)).grantsLogin = false := by
      simp only [Incident.grantsLogin, hstage]
    rw [hgrant, if_neg Bool.false_ne_true, List.nil_append]
    exact hstands

theorem proceeds_opened (hstage : s.stage = .opened) (hstate : s.monitor.state = .opened) :
  Proceeds c ⟨s, clock, o⟩ ⟨done, lost, []⟩ Mark.untilOpen
  := by
  obtain ⟨_, attempts, lastId, ⟨_, connections, health?, last?⟩⟩ := s
  cases hstage
  cases hstate
  cases o with
  | frame text => exact proceeds_receiveOpen rfl rfl
  | timer e =>
      cases e with
      | probe => exact .stays rfl (.acting (.inl rfl) rfl fun _ => rfl)
      | silent idle => exact .stays rfl (.stoppingTimer rfl rfl)
  | failed | hungUp | stopRequested | timerGone => exact .stays rfl (.stoppingTimer rfl rfl)
  | _ => exact proceeds_ignored (.opened rfl rfl) rfl

/-- Something that was done on the open connection has a result. -/
theorem proceeds_acting {e : Effect} (hstage : s.IsActing) (hstate : s.monitor.state = .opened)
    (he : ∀ r, e.endMark? r = none) :
  Proceeds c ⟨s, clock, o⟩ ⟨done, lost, [e]⟩ Mark.untilOpen
  := by
  obtain ⟨stage, attempts, lastId, ⟨_, connections, health?, last?⟩⟩ := s
  cases hstate
  have hcases : stage = .sendingProbe ∨ stage = .answering ∨ stage = .handingOn := hstage
  cases o with
  | finished r =>
      apply Proceeds.stays
      · rcases hcases with rfl | rfl | rfl <;> cases r <;> rfl
      · rw [Incident.marks, Incident.ends_of_forall he]
        rcases hcases with rfl | rfl | rfl <;> cases r with
        | done => exact .opened rfl rfl
        | broken e => exact .stoppingTimer rfl rfl
  | _ =>
      apply proceeds_ignored
      · exact .acting hstage rfl he
      · rcases hcases with rfl | rfl | rfl <;> rfl

theorem proceeds_stoppingTimer {out : Outcome} (hstage : s.stage = .stoppingTimer out)
    (hstate : s.monitor.state = .opened) :
  Proceeds c ⟨s, clock, o⟩ ⟨done, lost, [.stopTimer]⟩ Mark.untilOpen
  := by
  obtain ⟨_, attempts, lastId, ⟨_, connections, health?, last?⟩⟩ := s
  cases hstage
  cases hstate
  cases o with
  | finished r =>
      cases out with
      | done =>
          apply Proceeds.moves .opened .closing rfl (by decide)
          rw [Deeds.pending_note (.inr ⟨r, rfl⟩)]
          exact .closingDone rfl rfl .opened
      | broken e =>
          apply Proceeds.moves .opened .interrupted rfl (by decide)
          rw [Deeds.pending_note (.inr ⟨r, rfl⟩)]
          exact .closingBroken rfl rfl .opened
  | _ => exact proceeds_ignored (.stoppingTimer rfl rfl) rfl

theorem proceeds_closingDone (hstage : s.stage = .closing .done)
    (hstate : s.monitor.state = .closing) (htold : Mark.Whole (told ++ [.closed])) :
  Proceeds c ⟨s, clock, o⟩ ⟨done, lost, [.close]⟩ told
  := by
  obtain ⟨_, attempts, lastId, ⟨_, connections, health?, last?⟩⟩ := s
  cases hstage
  cases hstate
  cases o with
  | finished r =>
      refine ⟨?_, .inr ⟨htold, ?_⟩⟩
      · show List.IsChain ConnectionState.LeadsTo [.closing, .closed]
        exact List.isChain_pair.mpr (by decide)
      · rw [Deeds.pending_note (.inr ⟨r, rfl⟩)]
        exact .ended rfl rfl
  | _ => exact proceeds_ignored (.closingDone rfl rfl htold) rfl

theorem proceeds_closingBroken {e : StreamError} (hstage : s.stage = .closing (.broken e))
    (hstate : s.monitor.state = .interrupted) (htold : Mark.Whole (told ++ [.closed])) :
  Proceeds c ⟨s, clock, o⟩ ⟨done, lost, [.close]⟩ told
  := by
  cases o with
  | finished r =>
      set x : Incident := ⟨s, clock, .finished r⟩
      have hstep : x.before.step c x.clock x.occurrence = s.afterFailure c e := by
        simp only [x, step, hstage]
      have hne : s.stage ≠ .connecting := by simp [hstage]
      apply Proceeds.completes rfl hstep hstate
      · rw [Incident.states_of_ne hne, Incident.after, hstep, hstate]
        exact List.isChain_pair.mpr (stands_afterFailure hstate c e).2.1
      · exact htold
  | _ => exact proceeds_ignored (.closingBroken hstage hstate htold) (by rw [hstage]; rfl)

theorem proceeds_waiting (hstage : s.stage = .waiting) (hstate : s.monitor.state = .interrupted) :
  Proceeds c ⟨s, clock, o⟩ ⟨done, lost, []⟩ []
  := by
  obtain ⟨_, attempts, lastId, ⟨_, connections, health?, last?⟩⟩ := s
  cases hstage
  cases hstate
  cases o with
  | stopRequested =>
      apply Proceeds.moves .interrupted .closed rfl (by decide)
      exact .ended rfl rfl
  | delayOver => exact .stays rfl (.ready rfl (.inr rfl))
  | _ => exact proceeds_ignored (.waiting rfl rfl) rfl

theorem proceeds_ended {gaveUpAfter? : Option Nat} (hstage : s.stage = .ended gaveUpAfter?)
    (hstate : s.monitor.state = .closed) :
  Proceeds c ⟨s, clock, o⟩ ⟨done, lost, []⟩ []
  := by
  apply proceeds_ignored
  · exact .ended hstage hstate
  · cases o <;> rw [hstage] <;> rfl

/-- Whatever is met, the current connection goes on or is over, by the stage and what is met
there. -/
theorem proceeds (h : Stands x.before d.pending told) :
  Proceeds c x d told
  := by
  obtain ⟨s, clock, o⟩ := x
  obtain ⟨done, lost, pending⟩ := d
  cases h with
  | ready hstage hstate => exact proceeds_ready hstage hstate
  | connecting hstage hstate => exact proceeds_connecting hstage hstate
  | sendingLogin hstage hstate => exact proceeds_sendingLogin hstage hstate
  | awaitingLogin hstage hstate => exact proceeds_awaitingLogin hstage hstate
  | answeringBeforeLogin hstage hstate => exact proceeds_answeringBeforeLogin hstage hstate
  | subscribingOrders hstage hstate => exact proceeds_subscribingOrders hstage hstate
  | subscribingAssets hstage hstate => exact proceeds_subscribingAssets hstage hstate
  | opened hstage hstate => exact proceeds_opened hstage hstate
  | acting hstage hstate he => exact proceeds_acting hstage hstate he
  | stoppingTimer hstage hstate => exact proceeds_stoppingTimer hstage hstate
  | closingDone hstage hstate htold => exact proceeds_closingDone hstage hstate htold
  | closingBroken hstage hstate htold => exact proceeds_closingBroken hstage hstate htold
  | waiting hstage hstate => exact proceeds_waiting hstage hstate
  | ended hstage hstate => exact proceeds_ended hstage hstate

end

/-! ## Runs -/

theorem Stands.state_of_ended {s : Supervisor} {pending : List Effect} {told : List Mark}
    (h : Stands s pending told) {gaveUpAfter? : Option Nat}
    (hended : s.stage = .ended gaveUpAfter?) :
  s.monitor.state = .closed ∧ told = []
  := by
  cases h with
  | ended _ hstate => exact ⟨hstate, rfl⟩
  | acting hstage =>
      rw [IsActing, hended] at hstage
      simp at hstage
  | _ hstage => exact nomatch hended.symm.trans hstage

/-- While a connection is open, all is told of it that leads there. -/
theorem Stands.told_of_opened {s : Supervisor} {pending : List Effect} {told : List Mark}
    (h : Stands s pending told) (hopened : s.monitor.state = .opened) :
  told = Mark.untilOpen
  := by
  cases h with
  | ready _ hstate =>
      rw [hopened] at hstate
      simp at hstate
  | opened | acting | stoppingTimer => rfl
  | _ _ hstate => exact nomatch hopened.symm.trans hstate

/-- What was told of the current connection is the beginning of a whole course. -/
theorem Stands.exists_whole {s : Supervisor} {pending : List Effect} {told : List Mark}
    (h : Stands s pending told) :
  ∃ rest, Mark.Whole (told ++ rest)
  := by
  cases h with
  | ready | waiting | ended => exact ⟨_, .refused⟩
  | connecting => exact ⟨[.refused], .refused⟩
  | sendingLogin => exact ⟨_, @Mark.Whole.failed [] ⟨_, rfl⟩⟩
  | awaitingLogin | answeringBeforeLogin =>
      exact ⟨[.closing, .closed], @Mark.Whole.failed [.loginSent] ⟨_, rfl⟩⟩
  | subscribingOrders =>
      exact ⟨[.closing, .closed], @Mark.Whole.failed [.loginSent, .loginGranted] ⟨_, rfl⟩⟩
  | subscribingAssets =>
      exact ⟨[.closing, .closed],
        @Mark.Whole.failed [.loginSent, .loginGranted, .ordersSubscribed] ⟨_, rfl⟩⟩
  | opened | acting | stoppingTimer => exact ⟨_, .opened⟩
  | closingDone _ _ htold => exact ⟨_, htold⟩
  | closingBroken _ _ htold => exact ⟨_, htold⟩

theorem Incident.getLast?_states (c : StreamSettings) (x : Incident) :
  (x.states c).getLast? = some (x.after c).monitor.state
  := by
  unfold Incident.states
  split <;> rfl

/-- What is told of the connections agrees with where a supervisor stands. -/
structure Agrees (s : Supervisor) (h : Chronicle) : Prop where
  path : List.IsChain ConnectionState.LeadsTo h.states
  last : h.states.getLast? = some s.monitor.state
  connections : s.monitor.connections = h.marks.count .attempted
  course : ∃ (past : List (List Mark)) (current : List Mark),
    h.marks = past.flatten ++ current ∧ (∀ told ∈ past, Mark.Whole told) ∧
      Stands s h.deeds.pending current

/-- Every incident keeps it so. -/
theorem Agrees.step {h : Chronicle} {x : Incident} (hagrees : Agrees x.before h)
    (c : StreamSettings) :
  Agrees (x.after c) (h.note c x)
  := by
  obtain ⟨past, current, hmarks, hpast, hstands⟩ := hagrees.course
  obtain ⟨hpath, hcourse⟩ := @proceeds c _ _ _ hstands
  constructor
  · refine hagrees.path.append hpath.tail fun a ha b hb => ?_
    rw [hagrees.last, Option.mem_some_iff] at ha
    exact ha ▸ hpath.rel_head? hb
  · rw [Chronicle.note, List.getLast?_append, x.getLast?_states]
    rfl
  · rw [x.connections_after h.deeds.pending, hagrees.connections]
    exact (List.count_append ..).symm
  · rcases hcourse with hcourse | ⟨hwhole, hcourse⟩
    · refine ⟨past, current ++ x.marks c h.deeds.pending, ?_, hpast, hcourse⟩
      rw [Chronicle.note, hmarks, List.append_assoc]
    · refine ⟨past ++ [current ++ x.marks c h.deeds.pending], [], ?_, ?_, hcourse⟩
      · simp [Chronicle.note, hmarks]
      · simpa [or_imp, forall_and] using ⟨hpast, hwhole⟩

theorem agrees_run (c : StreamSettings) (events : List (Clock × Occurrence)) :
  Agrees (run c {} events) (chronicle c (incidents c {} events))
  := by
  induction events using List.reverseRecOn with
  | nil => exact ⟨.singleton _, rfl, rfl, [], [], rfl, nofun, .ready rfl (.inl rfl)⟩
  | append_singleton events e ih =>
      rw [run_concat, incidents_concat, chronicle_concat]
      exact @Agrees.step _ ⟨run c {} events, e.1, e.2⟩ ih c

/-- The course of a supervisor over any number of connections, whatever occurs.  The state known
from outside moves along the edges only, and is closed at the end.  Connections are counted when
they are attempted, each with a fresh health record.  What is told falls into one whole course
for each connection that is over, and the beginning of one for the current connection; there is
none at the end, and while the stream is open all is told of it that leads there. -/
theorem course_of_run (c : StreamSettings) (events : List (Clock × Occurrence)) :
  (chronicle c (incidents c {} events)).states.IsChain ConnectionState.LeadsTo ∧
  (chronicle c (incidents c {} events)).states.getLast? = some (run c {} events).monitor.state ∧
  (∀ gaveUpAfter?, (run c {} events).stage = .ended gaveUpAfter? →
    (run c {} events).monitor.state = .closed) ∧
  (run c {} events).monitor.connections =
    (chronicle c (incidents c {} events)).marks.count .attempted ∧
  (∀ x ∈ incidents c {} events, ∀ url headers, .connect url headers ∈ x.effects c →
    (x.after c).monitor.health? = some (.begun x.clock.instant)) ∧
  ∃ (past : List (List Mark)) (current : List Mark),
    (chronicle c (incidents c {} events)).marks = past.flatten ++ current ∧
    (∀ told ∈ past, Mark.Whole told) ∧ (∃ rest, Mark.Whole (current ++ rest)) ∧
    ((run c {} events).monitor.state = .opened → current = Mark.untilOpen) ∧
    ∀ gaveUpAfter?, (run c {} events).stage = .ended gaveUpAfter? → current = []
  := by
  obtain ⟨hpath, hlast, hconnections, past, current, hmarks, hpast, hstands⟩ :=
    agrees_run c events
  refine ⟨hpath, hlast, ?_, hconnections, ?_, past, current, hmarks, hpast, hstands.exists_whole,
    hstands.told_of_opened, ?_⟩
  · intro gaveUpAfter? hended
    exact (hstands.state_of_ended hended).1
  · intro x hx url headers hconnect
    exact x.health_of_attempt hconnect
  · intro gaveUpAfter? hended
    exact (hstands.state_of_ended hended).2

/-- A connection could not be made.  The next one opens and is ended by the venue; then a stop
is requested. -/
example :
  let events := [.checked false, .finished (.broken (.connect "refused")), .delayOver,
    .checked false, .finished .done, .finished .done, .frame "{}", .finished .done,
    .finished .done, .hungUp, .finished .done, .finished .done, .stopRequested].map
      fun o : Occurrence => ((⟨⟨0⟩, 0⟩, o) : Clock × Occurrence)
  (chronicle .standard (incidents .standard {} events)).marks =
    [.attempted, .refused] ++ (Mark.untilOpen ++ [.timerEnded, .closing, .closed])
  := by
  decide

end Supervisor

end VenueLink
