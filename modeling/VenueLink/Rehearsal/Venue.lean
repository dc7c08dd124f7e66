import VenueLink.Json.Parser
import VenueLink.Routine

/-!
# A scripted venue

Rules say how requests are answered and how long that takes.  The first rule that fits a
request answers it; a request that no rule fits fails.  Work against the scripted venue
takes no time but what its answers take.
-/

namespace VenueLink.Rehearsal

/-- How a rule answers. -/
inductive ScriptedReply where
  /-- The request fails. -/
  | fail (e : VenueError)
  /-- The members of a bulk cancel get a result, apart from some. -/
  | acknowledge (exceptions : List String) (flag : Json)
  /-- The response is given. -/
  | respond (v : Json)

/-- A rule of the script. -/
structure VenueRule where
  endpoint : Endpoint
  /-- Parameters that a request needs for the rule to fit. -/
  condition : List (String × String) := []
  /-- How often the rule may still be used, without limit when absent. -/
  usesLeft? : Option Nat := none
  delayMs : Nat := 0
  reply : ScriptedReply

/-- The scripted venue and the clock. -/
structure Scene where
  rules : List VenueRule
  /-- The milliseconds passed. -/
  nowMs : Nat := 0
  /-- The requests made so far. -/
  requests : List VenueRequest := []

namespace VenueRule

/-- Whether a rule fits a request. -/
def fits (rule : VenueRule) (r : VenueRequest) : Bool :=
  rule.endpoint = r.endpoint && rule.usesLeft?.all (0 < ·)
    && rule.condition.all fun (name, value) => r.params.get? name = some value

/-- A rule after it was used. -/
def used (rule : VenueRule) : VenueRule :=
  { rule with usesLeft? := rule.usesLeft?.map (· - 1) }

/-- The first rule that fits a request, with the rules as they are after its use. -/
def take? (r : VenueRequest) : List VenueRule → Option (VenueRule × List VenueRule)
  | [] => none
  | rule :: rest =>
    if rule.fits r then some (rule, rule.used :: rest)
    else (take? r rest).map fun (found, rest) => (found, rule :: rest)

end VenueRule

/-- The ids of the members of a bulk cancel. -/
def bulkIds (r : VenueRequest) : List String :=
  match (r.params.get? "orders_json").bind Json.parse? with
  | some (.arr members) => members.filterMap fun m => (m.get? "order_id").bind Json.str?
  | _ => []

/-- The answer of a rule to a request. -/
def ScriptedReply.answer (r : VenueRequest) : ScriptedReply → Reply
  | .fail e => .error e
  | .respond v => .ok v
  | .acknowledge exceptions flag =>
    let ids := (bulkIds r).filter fun id => !exceptions.contains id
    .ok (.object [("code", .ofNat 0), ("result", .arr (ids.map fun id =>
      .object [("order_id", .str id), ("result", flag)]))])

namespace Scene

/-- A request is made: the answer, and how long it takes. -/
def request (w : Scene) (r : VenueRequest) : Reply × Nat × Scene :=
  let w := { w with requests := w.requests ++ [r] }
  match VenueRule.take? r w.rules with
  | some (rule, rules) => (rule.reply.answer r, rule.delayMs, { w with rules })
  | none =>
    (.error (.http 404 ("no scripted response for " ++ r.endpoint.path)), 0, w)

end Scene

variable {σ α : Type}

/-- Play a routine alone, up to a deadline.  There is no result when the deadline cuts it. -/
def play (clock : Moment) (deadline? : Option Nat) :
    Routine σ α → σ → Scene → Option α × σ × Scene
  | .done a, s, w => (some a, s, w)
  | .look k, s, w => play clock deadline? (k s) s w
  | .change f k, s, w => play clock deadline? k (f s) w
  | .clock k, s, w => play clock deadline? (k clock) s w
  | .ask r k, s, w =>
    let (reply, delay, w) := w.request r
    let wakeMs := w.nowMs + delay
    match deadline?.filter (· < wakeMs) with
    | some deadline => (none, s, { w with nowMs := deadline })
    | none => play clock deadline? (k reply) s { w with nowMs := wakeMs }

/-- A routine that waits for an answer until a time. -/
structure Sleeper (σ : Type) where
  wakeMs : Nat
  next : Routine σ Unit

/-- Play a routine until it has to wait for an answer. -/
def playToSleep (clock : Moment) : Routine σ Unit → σ → Scene → Option (Sleeper σ) × σ × Scene
  | .done _, s, w => (none, s, w)
  | .look k, s, w => playToSleep clock (k s) s w
  | .change f k, s, w => playToSleep clock k (f s) w
  | .clock k, s, w => playToSleep clock (k clock) s w
  | .ask r k, s, w =>
    let (reply, delay, w) := w.request r
    if delay = 0 then playToSleep clock (k reply) s w
    else (some ⟨w.nowMs + delay, k reply⟩, s, w)

/-- Start routines in the order of a list, each up to where it has to wait. -/
def startAll (clock : Moment) : List (Routine σ Unit) → σ → Scene → List (Sleeper σ) × σ × Scene
  | [], s, w => ([], s, w)
  | m :: rest, s, w =>
    let (sleeper?, s, w) := playToSleep clock m s w
    let (sleepers, s, w) := startAll clock rest s w
    (sleeper?.toList ++ sleepers, s, w)

/-- Take the sleeper that wakes first, the one that fell asleep first among equals. -/
def takeEarliest? : List (Sleeper σ) → Option (Sleeper σ × List (Sleeper σ))
  | [] => none
  | s :: rest =>
    match takeEarliest? rest with
    | none => some (s, [])
    | some (t, others) =>
      if t.wakeMs < s.wakeMs then some (t, s :: others) else some (s, t :: others)

/-- Wake sleepers in the order of their times, for at most `fuel` times, up to a deadline. -/
def wakeAll (clock : Moment) (deadline? : Option Nat) :
    Nat → List (Sleeper σ) → σ → Scene → σ × Scene
  | 0, _, s, w => (s, w)
  | fuel + 1, sleepers, s, w =>
    match takeEarliest? sleepers with
    | none => (s, w)
    | some (sleeper, others) =>
      match deadline?.filter (· < sleeper.wakeMs) with
      | some deadline => (s, { w with nowMs := deadline })
      | none =>
        let (again?, s, w) := playToSleep clock sleeper.next s { w with nowMs := sleeper.wakeMs }
        wakeAll clock deadline? fuel (others ++ again?.toList) s w

/-- Play routines side by side, up to a deadline. -/
def playTogether (clock : Moment) (deadline? : Option Nat) (fuel : Nat)
    (ms : List (Routine σ Unit)) (s : σ) (w : Scene) : σ × Scene :=
  let (sleepers, s, w) := startAll clock ms s w
  wakeAll clock deadline? fuel sleepers s w

end VenueLink.Rehearsal
