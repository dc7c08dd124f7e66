import VenueLink.Service.HealthPage
import VenueLink.Service.Poll
import VenueLink.Service.Stop
import VenueLink.Stream.Address
import VenueLink.Stream.Log
import VenueLink.Venue.Rest

/-!
# The service without a network

Requests and connections fail: those whose address cannot be used for that reason, and the
others because nothing is reached.  What is left of the service are polls at their interval
and attempts to connect at growing delays.
-/

namespace VenueLink

/-- The service without a network. -/
structure OfflineService where
  desk : Desk := {}
  supervisor : Supervisor := {}
  /-- When the delay before the next connection is over. -/
  wakeAt : Instant := ⟨0⟩
  /-- When the next poll is due. -/
  pollAt : Instant := ⟨0⟩
  /-- What the supervisor counted. -/
  counted : List Metric := []
deriving Repr

namespace OfflineService

/-- Why a stream connection fails. -/
def refusal (s : Settings) : String :=
  match StreamAddress.prepare s.streamUrl Venue.siteHeaders with
  | .error fault => fault.message
  | .ok _ => "IO error: Network is unreachable (os error 101)"

/-- What is answered to a request. -/
def reply (s : Settings) (r : VenueRequest) : Reply :=
  match Rest.address s.restBase r.endpoint.path with
  | .error e => .error e
  | .ok url => .error (.connection ("error sending request for url (" ++ url.text ++ ")"))

/-- Poll if a poll is due. -/
def pollIfDue (s : Settings) (now : Instant) (date : Moment) (x : OfflineService) :
    List LogLine × OfflineService :=
  if Service.canPoll s && x.pollAt.nanos ≤ now.nanos then
    let (refreshed, desk) := (Service.poll s.policy).answeredBy date (reply s) x.desk
    (Service.pollLines refreshed desk, { x with desk, pollAt := now.after s.pollInterval })
  else ([], x)

/-- What the supervisor waits for, if it has come. -/
def occurrence? (s : Settings) (now : Instant) (stopping : Bool) (x : OfflineService) :
    Option Occurrence :=
  match x.supervisor.stage with
  | .ready => some (.checked stopping)
  | .connecting => some (.finished (.broken (.connect (refusal s))))
  | .waiting =>
    if stopping then some .stopRequested
    else if x.wakeAt.nanos ≤ now.nanos then some .delayOver
    else none
  | _ => none

/-- An effect of the supervisor with its delay spread by a number. -/
def spread (s : Settings) (offset : Float) : Effect → Effect
  | .delay attempt d => .delay attempt (s.backoff.spread d offset)
  | e => e

/-- What an effect counts, if it counts anything. -/
def metric? : Effect → Option Metric
  | .count m => some m
  | _ => none

/-- When the supervisor is to be woken after an effect. -/
def wakeAfter (now wakeAt : Instant) : Effect → Instant
  | .delay _ d => now.after d
  | _ => wakeAt

/-- The line of a supervisor that gave up. -/
def gaveUpLine? (x : OfflineService) : Option LogLine :=
  match x.supervisor.stage with
  | .ended (some attempts) => some (Service.line .error "User stream supervisor error"
      [("error", Supervisor.gaveUpMessage attempts)])
  | _ => none

/-- Let the supervisor go on until it has to wait, for at most `fuel` occurrences. -/
def supervise (s : Settings) (now : Instant) (stopping : Bool) (offset : Float) :
    Nat → OfflineService → List LogLine × OfflineService
  | 0, x => ([], x)
  | fuel + 1, x =>
    match x.occurrence? s now stopping with
    | none => ([], x)
    | some o =>
      let (supervisor, effects) := x.supervisor.step s.stream ⟨now, 0⟩ o
      let effects := effects.map (spread s offset)
      let x := { x with
        supervisor
        wakeAt := effects.foldl (wakeAfter now) x.wakeAt
        counted := x.counted ++ effects.filterMap metric? }
      let (lines, x') := supervise s now stopping offset fuel x
      (supervisor.lines effects ++ x.gaveUpLine?.toList ++ lines, x')

/-- The occurrences of one instant that are followed at most. -/
def occurrencesAtOnce : Nat := 3000

/-- Do what is due at an instant; delays are spread by a number. -/
def work (s : Settings) (now : Instant) (date : Moment) (offset : Float) (x : OfflineService) :
    List LogLine × OfflineService :=
  let (streamLines, x) := x.supervise s now false offset occurrencesAtOnce
  let (pollLines, x) := x.pollIfDue s now date
  (streamLines ++ pollLines, x)

/-- Cancel the resting orders, one part of the run after the other. -/
def cancelResting (s : Settings) (date : Moment) (x : OfflineService) :
    CancelReport × OfflineService :=
  let orders := x.desk.book.resting
  let (left, run) := (CancelRun.bulkPart s.policy orders).answeredBy date (reply s)
    (.start x.desk orders)
  let run := left.foldl
    (fun run o => ((CancelRun.singlePart s.policy o).answeredBy date (reply s) run).2) run
  let (report, desk) := run.finish
  (report, { x with desk })

/-- Cancel the resting orders and end the supervisor. -/
def stop (s : Settings) (now : Instant) (date : Moment) (x : OfflineService) :
    List LogLine × OfflineService :=
  let (report, x) := x.cancelResting s date
  let (lines, x) := x.supervise s now true 0 occurrencesAtOnce
  (Service.cancelLines report ++ lines, x)

/-- When something is due next, if anything is. -/
def due? (s : Settings) (x : OfflineService) : Option Instant :=
  let wake? := if x.supervisor.stage = .waiting then some x.wakeAt else none
  let poll? := if Service.canPoll s then some x.pollAt else none
  match wake?, poll? with
  | some a, some b => some (if a.nanos ≤ b.nanos then a else b)
  | a?, b? => a?.or b?

/-- What the health page tells at an instant, after some time. -/
def healthPage (version : String) (started now : Instant) (date : Moment) (x : OfflineService) :
    HealthPage where
  version
  uptime := now.since started
  now
  date
  monitor := x.supervisor.monitor
  desk := x.desk
  metrics := x.desk.metrics ++ x.counted

end OfflineService

end VenueLink
