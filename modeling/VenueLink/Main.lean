import Std.Async.Signal
import Std.Async.TCP
import Std.Async.Timer
import Std.Sync.Channel
import VenueLink.Service.Offline
import VenueLink.Settings.EnvFile

/-!
# The service as a program

The program reads the variables and the files of variables, starts the service and lets it
work, with the health page at its port, until a signal stops it.  What is done and told is
decided elsewhere: here are clocks, chance, signals, the port and the output.
-/

open Std.Async

namespace VenueLink.Program

/-- The version that the health page tells. -/
def version : String := "0.1.0"

/-- The moment that it is. -/
def date : IO Moment :=
  return ⟨(← Std.Time.Timestamp.now).toNanosecondsSinceUnixEpoch.val⟩

/-- The reading of the clock that never goes back. -/
def instant : IO Instant :=
  return ⟨← IO.monoNanosNow⟩

/-- A number between minus and plus a jitter. -/
def spreadBy (jitter : Float) : IO Float :=
  return jitter * ((← IO.rand 0 2000000).toFloat / 1000000 - 1)

/-- The variables that are set, those of files included, as far as they matter: those that
the service reads or that a file may name. -/
def environment : IO Environment := do
  let places := EnvFile.places (← IO.currentDir).toString
  let texts ← places.mapM fun place : String => do
    try return some (← IO.FS.readFile place) catch _ => return none
  let names := Service.variableNames ++ (texts.filterMap id).flatMap EnvFile.mentions
  let env ← names.eraseDups.filterMapM fun name =>
    return (← IO.getEnv name).map fun value => (name, value)
  return EnvFile.loadNearest env texts

/-- Write the lines that are let through. -/
def write (filter : LogFilter) (lines : List LogLine) : IO Unit := do
  for l in lines.filter filter.passes do
    IO.println (l.stamped (← date))

/-- What wakes the program. -/
inductive Wake where
  /-- Something may be due. -/
  | due
  | stopped (signal : StopSignal)
  /-- Somebody asks for the health page. -/
  | asked (client : TCP.Socket.Client)
deriving Inhabited

/-- What the program works with. -/
structure Workplace where
  settings : Settings
  filter : LogFilter
  started : Instant
  /-- Where the program is woken. -/
  bell : Std.Channel Wake

/-- Wake the program. -/
def Workplace.ring (w : Workplace) (wake : Wake) : Async Unit := do
  await (← w.bell.send wake)

/-- Wake the program at a signal. -/
def Workplace.heed (w : Workplace) (waiter : Signal.Waiter) (signal : StopSignal) : Async Unit := do
  discard <| await (← waiter.wait)
  w.ring (.stopped signal)

/-- Wake the program whenever somebody asks for the health page. -/
partial def Workplace.receive (w : Workplace) (server : TCP.Socket.Server) : Async Unit := do
  w.ring (.asked (← server.accept))
  w.receive server

/-- Wake the program when something is due. -/
def Workplace.sleep (w : Workplace) (due : Instant) : Async Unit := do
  Std.Async.sleep (.ofNat ((due.since (← instant)).millis + 1))
  w.ring .due

/-- Answer one request for the health page. -/
def serve (page : HealthPage) (client : TCP.Socket.Client) : Async Unit := do
  try
    if let some bytes ← client.recv? 8192 then
      client.send (page.answerText ((String.fromUTF8? bytes).getD "")).toUTF8
    client.shutdown
  catch _ => return ()

/-- Do what is due, and tell when to wake the program again. -/
def Workplace.work (w : Workplace) (service : OfflineService) : Async OfflineService := do
  let offset ← spreadBy w.settings.backoff.jitter
  let (lines, service) := service.work w.settings (← instant) (← date) offset
  write w.filter lines
  if let some due := service.due? w.settings then background (w.sleep due)
  return service

/-- Work whenever something is due, until a signal comes. -/
partial def Workplace.attend (w : Workplace) (service : OfflineService) : Async Unit := do
  match ← await (← w.bell.recv) with
  | .due => w.attend (← w.work service)
  | .asked client =>
    background (serve (service.healthPage version w.started (← instant) (← date)) client)
    w.attend service
  | .stopped signal =>
    write w.filter [Service.line .info signal.message []]
    write w.filter (service.stop w.settings (← instant) (← date)).1
    write w.filter Service.stoppedLines

/-- Put up the health page at a port. -/
def putUp (port : Nat) : IO (Except PortFault TCP.Socket.Server) := do
  try
    let server ← TCP.Socket.Server.mk
    server.bind (.v4 ⟨.ofParts 0 0 0 0, port.toUInt16⟩)
    server.listen 128
    return .ok server
  catch
    | .permissionDenied .. => return .error .forbidden
    | _ => return .error .taken

/-- Let a service with some settings work until a signal comes. -/
def run (filter : LogFilter) (settings : Settings) : Async Unit := do
  let w : Workplace := { settings, filter, started := ← instant, bell := ← Std.Channel.new }
  background (w.heed (← Signal.Waiter.mk .sigint true) .interrupt)
  background (w.heed (← Signal.Waiter.mk .sigterm true) .terminate)
  let server ← putUp settings.healthPort
  write filter [Service.line .info "Biconomy connector ready" [],
    HealthPage.line settings.healthPort (server.map fun _ => ())]
  if let .ok server := server then background (w.receive server)
  w.attend (← w.work {})

end VenueLink.Program

open VenueLink in
/-- Run the service; a service that cannot be started tells why. -/
def main : IO UInt32 := do
  let vars := Lookup.ofList (← Program.environment)
  let filter := LogFilter.read vars
  let startup := Service.start vars
  Program.write filter startup.lines
  match startup.settings with
  | .error complaint =>
    IO.eprintln complaint
    return 1
  | .ok settings =>
    (Program.run filter settings).block
    return 0
