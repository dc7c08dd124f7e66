import VenueLink.Stream.Supervisor

/-!
# Rehearsing the user stream

A supervisor run against scripted connections on a clock of whole milliseconds that only
moves when something is waited for.  After the script every connection is refused.
-/

namespace VenueLink.Rehearsal

/-- What a scripted venue does on a connection. -/
inductive Cue where
  /-- Send a frame. -/
  | frame (text : String)
  /-- Let receiving fail. -/
  | fail (e : StreamError)
  /-- End the connection. -/
  | hangUp
deriving DecidableEq, Repr

/-- A connection of the script. -/
structure ScriptedConnection where
  /-- The time that connecting takes. -/
  delayMs : Nat := 0
  /-- Why the connection is refused, if it is. -/
  refusal? : Option String := none
  /-- What the venue does, each at a time after the connection was made. -/
  cues : List (Nat × Cue) := []
  /-- Which send fails, counted from zero. -/
  failingSend? : Option Nat := none
deriving DecidableEq, Repr

/-- Something that the supervisor did, as the venue saw it. -/
inductive Sight where
  | connect (url : String) (headers : List (String × String))
  | send (request : StreamRequest) (failed : Bool)
  | close (summary : String)
deriving BEq, Repr

/-- The venue, the consumer and the clock. -/
structure Stage where
  nowMs : Nat := 0
  script : List ScriptedConnection
  /-- When a stop is requested. -/
  stopAtMs? : Option Nat
  /-- When the consumer goes away. -/
  consumerGoneAtMs? : Option Nat := none
  /-- What the venue still does on the current connection, at times of the clock. -/
  cues : List (Nat × Cue) := []
  /-- The sends on the current connection so far. -/
  sends : Nat := 0
  failingSend? : Option Nat := none
  /-- The next tick of the timer, when it runs. -/
  tickAtMs? : Option Nat := none
  /-- Whether the timer ended on its own. -/
  timerGone : Bool := false
  /-- When the delay before the next connection is over. -/
  wakeAtMs : Nat := 0
  /-- The result of the action begun last. -/
  result : Outcome := .done
  sights : List (Nat × ConnectionState × Sight) := []
  messages : List (Nat × Json) := []
  metrics : List Metric := []

namespace Stage

/-- The clock in nanoseconds. -/
def instant (w : Stage) : Instant := ⟨w.nowMs * 1000000⟩

/-- The first whole millisecond at or after an instant. -/
def ceilMs (t : Instant) : Nat := (t.nanos + 999999) / 1000000

/-- Whether a moment that may never come has come. -/
def hasCome (w : Stage) (at? : Option Nat) : Bool :=
  at?.any fun t => t ≤ w.nowMs

/-- Note what the venue saw. -/
def see (w : Stage) (s : Supervisor) (sight : Sight) : Stage :=
  { w with sights := w.sights ++ [(w.nowMs, s.monitor.state, sight)] }

/-- The next connection of the script is made or refused. -/
def connect (w : Stage) : Stage :=
  match w.script with
  | [] => { w with result := .broken (.connect "script exhausted") }
  | next :: script =>
    let now := w.nowMs + next.delayMs
    { w with
      nowMs := now
      script
      cues := next.cues.map fun (t, cue) => (now + t, cue)
      sends := 0
      failingSend? := next.failingSend?
      result := match next.refusal? with
        | some why => .broken (.connect why)
        | none => .done }

/-- Carry out an effect of the supervisor. -/
def perform (c : StreamSettings) (s : Supervisor) (w : Stage) : Effect → Stage
  | .connect url headers => (w.see s (.connect url headers)).connect
  | .send request =>
    let failed := w.failingSend? = some w.sends
    { w.see s (.send request failed) with
      sends := w.sends + 1
      result := if failed then .broken (.send "scripted") else .done }
  | .handOn message =>
    if w.hasCome w.consumerGoneAtMs? then { w with result := .broken (.send "consumer gone") }
    else { w with messages := w.messages ++ [(w.nowMs, message)], result := .done }
  | .startTimer =>
    if c.liveness.canRun then
      { w with
        tickAtMs? := some (ceilMs (w.instant.after c.liveness.pingInterval)), timerGone := false }
    else { w with tickAtMs? := none, timerGone := true }
  | .stopTimer => { w with tickAtMs? := none, timerGone := false, result := .done }
  | .close =>
    let summary := (s.monitor.health?.map fun h => h.summary w.instant).getD ""
    { w.see s (.close summary) with cues := [], result := .done }
  | .delay _ d => { w with wakeAtMs := ceilMs (w.instant.after d) }
  | .count m => { w with metrics := w.metrics ++ [m] }

/-- The next thing that the venue does, if it does anything more. -/
def nextCue? (w : Stage) : Option (Nat × Cue) := w.cues.head?

/-- What a cue is for the supervisor. -/
def occurrenceOf : Cue → Occurrence
  | .frame text => .frame text
  | .fail e => .failed e
  | .hangUp => .hungUp

/-- Let the venue do its next thing. -/
def takeCue (w : Stage) (t : Nat) (cue : Cue) : Occurrence × Stage :=
  (occurrenceOf cue, { w with nowMs := max w.nowMs t, cues := w.cues.drop 1 })

/-- The timer ticks. -/
def takeTick (c : StreamSettings) (s : Supervisor) (w : Stage) (t : Nat) : Occurrence × Stage :=
  let w := { w with nowMs := max w.nowMs t }
  let event := (s.monitor.health?.map fun h => c.liveness.tick h w.instant).getD .probe
  (.timer event, { w with
    tickAtMs? := if Liveness.continues event then some (t + c.liveness.pingInterval.millis) else none })

/-- What an open connection may wait for. -/
inductive Coming where
  | stop
  | cue (c : Cue)
  | tick
deriving DecidableEq, Repr

/-- What an open connection waits for, with the times. -/
def comings (w : Stage) : List (Nat × Coming) :=
  (w.stopAtMs?.map fun t => (t, Coming.stop)).toList
    ++ (w.nextCue?.map fun (t, c) => (t, Coming.cue c)).toList
    ++ (w.tickAtMs?.map fun t => (t, Coming.tick)).toList

/-- The earliest of some coming things, the one named first of those at one time. -/
def earliest? (cs : List (Nat × Coming)) : Option (Nat × Coming) :=
  cs.foldl (fun best c => match best with
    | none => some c
    | some b => if c.1 < b.1 then some c else some b) none

/-- What happens next on an open connection. -/
def nextOpen? (c : StreamSettings) (s : Supervisor) (w : Stage) : Option (Occurrence × Stage) :=
  if w.hasCome w.stopAtMs? then some (.stopRequested, w)
  else if w.timerGone then some (.timerGone, w)
  else (earliest? w.comings).map fun (t, coming) => match coming with
    | .stop => (.stopRequested, { w with nowMs := t })
    | .cue cue => w.takeCue t cue
    | .tick => w.takeTick c s t

/-- What happens next to a supervisor, if anything does. -/
def next? (c : StreamSettings) (s : Supervisor) (w : Stage) : Option (Occurrence × Stage) :=
  match s.stage with
  | .ready => some (.checked (w.hasCome w.stopAtMs?), w)
  | .awaitingLogin deadline =>
    let due := ceilMs deadline
    match w.nextCue? with
    | some (t, cue) =>
      if t ≤ due then some (w.takeCue t cue)
      else some (.loginOverdue, { w with nowMs := max w.nowMs due })
    | none => some (.loginOverdue, { w with nowMs := max w.nowMs due })
  | .opened => w.nextOpen? c s
  | .waiting =>
    if w.stopAtMs?.any fun t => t ≤ w.wakeAtMs then
      some (.stopRequested, { w with nowMs := max w.nowMs (w.stopAtMs?.getD 0) })
    else some (.delayOver, { w with nowMs := max w.nowMs w.wakeAtMs })
  | .ended _ => none
  | _ => some (.finished w.result, w)

end Stage

/-- Run a supervisor until nothing more happens, for at most `fuel` occurrences. -/
def runStream (c : StreamSettings) : Nat → Supervisor → Stage → Supervisor × Stage
  | 0, s, w => (s, w)
  | fuel + 1, s, w =>
    match w.next? c s with
    | none => (s, w)
    | some (o, w) =>
      let (s, effects) := s.step c ⟨w.instant, 0⟩ o
      runStream c fuel s (effects.foldl (Stage.perform c s) w)

/-- What came of a timer: an event, its end, or the end of the rehearsal. -/
inductive TimerSight where
  | event (e : LivenessEvent)
  | ended
  | stopped
deriving DecidableEq, Repr

/-- A timer with a consumer of its events. -/
structure TimerScript where
  liveness : Liveness
  /-- When messages come in. -/
  inboundMs : List Nat
  /-- When the timer is stopped. -/
  stopMs : Nat
  /-- After how many events the consumer goes away. -/
  dropAfter? : Option Nat

namespace TimerScript

/-- The health record at a time: messages up to then were seen. -/
def healthAt (s : TimerScript) (ms : Nat) : Health :=
  (s.inboundMs.filter (· ≤ ms)).foldl (fun h t => h.sawEvent ⟨t * 1000000⟩) (.begun ⟨0⟩)

/-- Let the timer tick from a time on.  The result says what came of it, and whether the
timer ended before it was stopped. -/
def run (s : TimerScript) : Nat → Nat → Nat → List (Nat × TimerSight) × Bool
  | 0, _, _ => ([], false)
  | fuel + 1, tickMs, events =>
    let gone := s.dropAfter?.any fun n => n ≤ events
    if s.stopMs ≤ tickMs then (if gone then [] else [(s.stopMs, .stopped)], false)
    else
      let event := s.liveness.tick (s.healthAt tickMs) ⟨tickMs * 1000000⟩
      if gone then ([], true)
      else
        let ends := s.dropAfter?.all fun n => events + 1 < n
        if Liveness.continues event then
          let (rest, ended) := run s fuel (tickMs + s.liveness.pingInterval.millis) (events + 1)
          ((tickMs, .event event) :: rest, ended)
        else ((tickMs, .event event) :: if ends then [(tickMs, .ended)] else [], true)

/-- Start the timer: its first tick comes after one interval.  Without an interval it ends
at once. -/
def start (s : TimerScript) : List (Nat × TimerSight) × Bool :=
  if s.liveness.canRun then s.run (s.stopMs + 1) s.liveness.pingInterval.millis 0
  else ([(0, .ended)], true)

end TimerScript

end VenueLink.Rehearsal
