import VenueLink.Log.Filter
import VenueLink.Service.HealthPage
import VenueLink.Service.Offline
import VenueLink.Service.Stop
import VenueLink.Settings.EnvFile

/-!
# Rehearsing the service

A whole run of the service without a network, from the files of variables to the signal that
stops it, on a clock that moves from one thing that is due to the next.  Delays are not
spread.
-/

namespace VenueLink.Rehearsal

/-- The conditions of a run. -/
structure ServiceScript where
  env : Environment
  /-- The texts of the files of variables, from the working directory outwards. -/
  envFiles : List (Option String) := []
  /-- Whether the health port is taken. -/
  portTaken : Bool := false
  signal : StopSignal := .terminate
  /-- When the signal comes. -/
  signalAt : Instant := ⟨1000000000⟩

/-- What can be seen of a run. -/
structure ServiceReport where
  exitCode : Nat
  /-- What is written when the service cannot be started. -/
  complaint : String := ""
  /-- Whether a part of the service broke down. -/
  brokeDown : Bool := false
  lines : List LogLine

namespace ServiceScript

/-- The line about the health page. -/
def healthLine (x : ServiceScript) (s : Settings) : LogLine :=
  HealthPage.line s.healthPort (if x.portTaken then .error .taken else .ok ())

/-- Work up to the signal, for at most `fuel` instants, and end. -/
def workLines (x : ServiceScript) (s : Settings) :
    Nat → Instant → OfflineService → List LogLine
  | 0, _, _ => []
  | fuel + 1, now, service =>
    let (lines, service) := service.work s now ⟨now.nanos⟩ 0
    lines ++ match (service.due? s).filter fun t => t.nanos < x.signalAt.nanos with
      | some t => workLines x s fuel t service
      | none => (service.stop s x.signalAt ⟨x.signalAt.nanos⟩).1

/-- The instants that are followed at most. -/
def instants : Nat := 1000

/-- The lines of a run that was started. -/
def runLines (x : ServiceScript) (s : Settings) : List LogLine :=
  [Service.line .info "Biconomy connector ready" [], healthLine x s]
    ++ workLines x s instants ⟨0⟩ {}
    ++ Service.line .info x.signal.message [] :: Service.stoppedLines

/-- A run of the service. -/
def run (x : ServiceScript) : ServiceReport :=
  let vars := Lookup.ofList (EnvFile.loadNearest x.env x.envFiles)
  let filter := LogFilter.read vars
  let startup := Service.start vars
  match startup.settings with
  | .error complaint =>
    { exitCode := 1, complaint, lines := startup.lines.filter filter.passes }
  | .ok s =>
    { exitCode := 0
      brokeDown := !Service.canPoll s
      lines := (startup.lines ++ runLines x s).filter filter.passes }

end ServiceScript

end VenueLink.Rehearsal
