import VenueLink.Metric
import VenueLink.Signing
import VenueLink.Stream.Frame
import VenueLink.Stream.Liveness
import VenueLink.Stream.Monitor
import VenueLink.Venue.Site

/-!
# The stream supervisor

One user stream is kept alive over any number of connections.  A connection is made, logged
in and subscribed; while it is open, messages are handed on, probes are answered before the
next frame is looked at, and probes are sent when the timer asks for them.  After a failure
the timer is stopped, the connection closed, and another one tried after a delay.

The supervisor is a machine: at each stage it waits for one of some occurrences, and each
occurrence leads to a stage and to effects.
-/

namespace VenueLink

/-- The settings of a supervisor. -/
structure StreamSettings where
  url : String
  headers : List (String × String)
  liveness : Liveness
  backoff : Backoff
  /-- The time allowed for the answer to the login. -/
  loginTimeout : Span
  /-- The assets whose balances are asked for. -/
  assets : List String
  credentials : Credentials
deriving DecidableEq, Repr

/-- The venue's stream with standard liveness and backoff, ten seconds for the login, no
assets and no credentials. -/
def StreamSettings.standard : StreamSettings where
  url := Venue.streamUrl
  headers := Venue.siteHeaders
  liveness := .standard
  backoff := .standard
  loginTimeout := .ofSecs 10
  assets := []
  credentials := ⟨"", ""⟩

/-- How an action on the connection, or the connection itself, ended. -/
inductive Outcome where
  /-- As it was meant to. -/
  | done
  /-- With a failure. -/
  | broken (e : StreamError)
deriving DecidableEq, Repr

/-- Where the supervisor stands, that is, what it waits for. -/
inductive Stage where
  /-- To learn whether it is asked to stop, before a connection is tried. -/
  | ready
  /-- For the connection to be made. -/
  | connecting
  /-- For the login to be sent. -/
  | sendingLogin
  /-- For a frame that answers the login, until an instant. -/
  | awaitingLogin (deadline : Instant)
  /-- For the answer to a probe to be sent while the login is not answered, until an instant. -/
  | answeringBeforeLogin (deadline : Instant)
  /-- For the order subscription to be sent. -/
  | subscribingOrders
  /-- For the balance subscription to be sent. -/
  | subscribingAssets
  /-- For anything to happen on the open connection. -/
  | opened
  /-- For a probe to be sent. -/
  | sendingProbe
  /-- For the answer to a probe to be sent. -/
  | answering
  /-- For a message to be taken by the consumer. -/
  | handingOn
  /-- For the timer to end, after which the connection is closed. -/
  | stoppingTimer (outcome : Outcome)
  /-- For the connection to be closed. -/
  | closing (outcome : Outcome)
  /-- For the delay before the next connection to pass. -/
  | waiting
  /-- For nothing: it was asked to stop, or gave up after so many attempts. -/
  | ended (gaveUpAfter? : Option Nat)
deriving DecidableEq, Repr

/-- Something that happens. -/
inductive Occurrence where
  /-- It is known whether a stop was requested. -/
  | checked (stopRequested : Bool)
  /-- The action that was begun has a result. -/
  | finished (result : Outcome)
  /-- A frame came in. -/
  | frame (text : String)
  /-- Receiving failed. -/
  | failed (e : StreamError)
  /-- The venue ended the connection. -/
  | hungUp
  /-- The time for the login is over. -/
  | loginOverdue
  /-- A stop is requested. -/
  | stopRequested
  /-- The timer asks for something. -/
  | timer (e : LivenessEvent)
  /-- The timer ended on its own. -/
  | timerGone
  /-- The delay is over. -/
  | delayOver
deriving DecidableEq, Repr

/-- Something that the supervisor does. -/
inductive Effect where
  /-- Make a connection. -/
  | connect (url : String) (headers : List (String × String))
  /-- Send a frame. -/
  | send (request : StreamRequest)
  /-- Hand a message on to the consumer. -/
  | handOn (message : Json)
  /-- Start the timer. -/
  | startTimer
  /-- Stop the timer and wait for its end. -/
  | stopTimer
  /-- Close the connection. -/
  | close
  /-- Wait before the next connection, which is the attempt of a number. -/
  | delay (attempt : Nat) (d : Span)
  /-- Count something. -/
  | count (m : Metric)
deriving BEq, Repr

/-- A supervisor: where it stands, the attempts made in a row, the last request id drawn,
and what is known from outside. -/
structure Supervisor where
  stage : Stage := .ready
  attempts : Nat := 0
  lastId : Nat := 0
  monitor : Monitor := {}
deriving DecidableEq, Repr

namespace Supervisor

/-- Two readings of clocks: one that never goes back, and the date in milliseconds. -/
structure Clock where
  instant : Instant
  dateMs : Int
deriving DecidableEq, Repr

/-- Draw the next request id. -/
def drawId (s : Supervisor) : Nat × Supervisor :=
  (s.lastId + 1, { s with lastId := s.lastId + 1 })

/-- Stand at a stage. -/
def standAt (s : Supervisor) (stage : Stage) : Supervisor := { s with stage }

/-- Change what is known from outside. -/
def watch (s : Supervisor) (f : Monitor → Monitor) : Supervisor :=
  { s with monitor := f s.monitor }

/-- Change the health record of the connection. -/
def mark (s : Supervisor) (f : Health → Health) : Supervisor :=
  s.watch fun m => m.mark f

/-- End for good. -/
def finish (s : Supervisor) (gaveUpAfter? : Option Nat) : Supervisor :=
  (s.watch fun m => { m with state := .closed }).standAt (.ended gaveUpAfter?)

/-- Try a connection. -/
def tryConnection (c : StreamSettings) (now : Instant) (s : Supervisor) :
    Supervisor × List Effect :=
  ((s.watch fun m => m.tried now).standAt .connecting, [.connect c.url c.headers])

/-- After a connection failed: wait for the next attempt, or give up. -/
def afterFailure (c : StreamSettings) (e : StreamError) (s : Supervisor) :
    Supervisor × List Effect :=
  let counted := Effect.count (.interruption e.label)
  match c.backoff.next? s.attempts with
  | none => (s.finish (some s.attempts), [counted])
  | some (d, attempts) =>
    (({ s with attempts } : Supervisor).standAt .waiting,
      [counted, .count .reconnect, .delay attempts d])

/-- Send the login. -/
def sendLogin (c : StreamSettings) (dateMs : Int) (s : Supervisor) : Supervisor × List Effect :=
  let (id, s) := s.drawId
  (s.standAt .sendingLogin,
    [.send (.login id c.credentials.apiKey (c.credentials.signLogin dateMs) dateMs)])

/-- The session is over: close the connection. -/
def close (outcome : Outcome) (s : Supervisor) : Supervisor × List Effect :=
  let s := match outcome with
    | .done => s.watch fun m => { m with state := .closing }
    | .broken e => s.watch fun m => m.interrupt e
  (s.standAt (.closing outcome), [.count (.connected false), .close])

/-- The open connection is over: stop the timer first. -/
def stopTimer (outcome : Outcome) (s : Supervisor) : Supervisor × List Effect :=
  (s.standAt (.stoppingTimer outcome), [.stopTimer])

/-- Answer a probe of the venue, under its id or a new one, then stand at a stage. -/
def answerProbe (now : Instant) (id? : Option Json) (next : Stage) (s : Supervisor) :
    Supervisor × List Effect :=
  let s := s.mark fun h => h.sawServerPing now
  match id? with
  | some id => (s.standAt next, [.send (.pong id)])
  | none => let (n, s) := s.drawId; (s.standAt next, [.send (.pong (.ofNat n))])

/-- A frame came in before the login was answered. -/
def receiveBeforeLogin (now deadline : Instant) (text : String) (s : Supervisor) :
    Supervisor × List Effect :=
  match Inbound.ofText text with
  | .blank => (s, [])
  | .malformed => s.close (.broken (.authRejected Inbound.malformedMessage))
  | .probe id? => s.answerProbe now id? (.answeringBeforeLogin deadline)
  | .ack reply | .event reply =>
    let s := s.mark fun h => h.sawEvent now
    if isLoginGranted reply then
      let (id, s) := s.drawId
      (s.standAt .subscribingOrders, [.send (.subscribeOrders id)])
    else s.close (.broken (.authRejected reply.render))

/-- A frame came in on the open connection. -/
def receiveOpen (now : Instant) (text : String) (s : Supervisor) : Supervisor × List Effect :=
  match Inbound.ofText text with
  | .blank => (s, [])
  | .malformed => (s, [.count (.malformed "stream_frame")])
  | .probe id? => (s.mark fun h => h.sawEvent now).answerProbe now id? .answering
  | .ack _ => (s.mark fun h => h.sawEvent now, [])
  | .event message => ((s.mark fun h => h.sawEvent now).standAt .handingOn, [.handOn message])

/-- The connection is logged in and subscribed. -/
def becomeOpen (s : Supervisor) : Supervisor × List Effect :=
  (({ s with attempts := 0 }.watch fun m => { m with state := .opened }).standAt .opened,
    [.count (.connected true), .startTimer])

/-- What an occurrence leads to.  Occurrences that the stage does not wait for change
nothing. -/
def step (c : StreamSettings) (clock : Clock) (s : Supervisor) (o : Occurrence) :
    Supervisor × List Effect :=
  let now := clock.instant
  match s.stage, o with
  | .ready, .checked true => (s.finish none, [])
  | .ready, .checked false => s.tryConnection c now
  | .connecting, .finished .done => s.sendLogin c clock.dateMs
  | .connecting, .finished (.broken e) => (s.watch fun m => m.interrupt e).afterFailure c e
  | .sendingLogin, .finished .done =>
    (s.standAt (.awaitingLogin (now.after c.loginTimeout)), [])
  | .sendingLogin, .finished (.broken e) => s.close (.broken e)
  | .awaitingLogin deadline, .frame text => s.receiveBeforeLogin now deadline text
  | .awaitingLogin _, .failed e => s.close (.broken e)
  | .awaitingLogin _, .hungUp => s.close (.broken .closed)
  | .awaitingLogin _, .loginOverdue => s.close (.broken .authTimeout)
  | .answeringBeforeLogin deadline, .finished .done =>
    ((s.mark fun h => h.sentPong now).standAt (.awaitingLogin deadline), [])
  | .answeringBeforeLogin _, .finished (.broken e) => s.close (.broken e)
  | .answeringBeforeLogin _, .loginOverdue => s.close (.broken .authTimeout)
  | .subscribingOrders, .finished .done =>
    let (id, s) := s.drawId
    (s.standAt .subscribingAssets, [.send (.subscribeAssets id c.assets)])
  | .subscribingOrders, .finished (.broken e) => s.close (.broken e)
  | .subscribingAssets, .finished .done => s.becomeOpen
  | .subscribingAssets, .finished (.broken e) => s.close (.broken e)
  | .opened, .stopRequested => s.stopTimer .done
  | .opened, .timer .probe =>
    let (id, s) := s.drawId
    (s.standAt .sendingProbe, [.send (.ping id)])
  | .opened, .timer (.silent idle) => s.stopTimer (.broken (.stale idle))
  | .opened, .timerGone =>
    s.stopTimer (.broken (.stale ((s.monitor.health?.map fun h => h.idle now).getD ⟨0⟩)))
  | .opened, .frame text => s.receiveOpen now text
  | .opened, .failed e => s.stopTimer (.broken e)
  | .opened, .hungUp => s.stopTimer (.broken .closed)
  | .sendingProbe, .finished .done => ((s.mark fun h => h.sentPing now).standAt .opened, [])
  | .sendingProbe, .finished (.broken e) => s.stopTimer (.broken e)
  | .answering, .finished .done => ((s.mark fun h => h.sentPong now).standAt .opened, [])
  | .answering, .finished (.broken e) => s.stopTimer (.broken e)
  | .handingOn, .finished .done => (s.standAt .opened, [])
  | .handingOn, .finished (.broken _) => s.stopTimer .done
  | .stoppingTimer outcome, .finished _ => s.close outcome
  | .closing .done, .finished _ => (s.finish none, [])
  | .closing (.broken e), .finished _ => s.afterFailure c e
  | .waiting, .stopRequested => (s.finish none, [])
  | .waiting, .delayOver => (s.standAt .ready, [])
  | _, _ => (s, [])

/-- The sentence for a supervisor that gave up. -/
def gaveUpMessage (attempts : Nat) : String :=
  "user stream gave up after " ++ toString attempts ++ " reconnect attempts"

end Supervisor

end VenueLink
