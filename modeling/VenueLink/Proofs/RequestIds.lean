import VenueLink.Proofs.ProbeAnswers

/-!
# Request ids over all connections

A supervisor originates its logins, subscriptions and probes, and the answers to probes that have
no id.  Each of these draws the next request id when it is begun, on whatever connection that is
and also when it cannot be sent.  So over a whole run their ids count up from one.  An answer to a
probe that has an id draws none.
-/

namespace VenueLink.Supervisor

/-! ## Counters -/

/-- The ids that a counter of 64 bits gives one after the other.  They begin with one, and after
the largest number of 64 bits comes zero. -/
def counterIds (n : Nat) : List UInt64 := (List.range' 1 n).map UInt64.ofNat

/-- Up to the end of the counter the ids that it gives are numbers counted up. -/
theorem map_toNat_counterIds {n : Nat} (h : n < UInt64.size) :
  (counterIds n).map UInt64.toNat = List.range' 1 n
  := by
  rw [counterIds, List.map_map]
  conv_rhs => rw [← List.map_id (List.range' 1 n)]
  apply List.map_congr_left
  intro k hk
  rw [List.mem_range'_1] at hk
  apply UInt64.toNat_ofNat_of_lt'
  omega

theorem pairwise_counterIds {n : Nat} (h : n < UInt64.size) :
  (counterIds n).Pairwise (· < ·)
  := by
  have hrange : ((counterIds n).map UInt64.toNat).Pairwise (· < ·) := by
    rw [map_toNat_counterIds h]
    exact List.pairwise_lt_range'
  exact (List.pairwise_map.mp hrange).imp UInt64.lt_iff_toNat_lt.mpr

/-! ## Requests of one incident -/

namespace Incident

variable {c : StreamSettings} {x : Incident}

/-- The requests that are originated in an incident: those that are sent, unless they answer a
probe under its own id. -/
def originated (c : StreamSettings) (x : Incident) : List StreamRequest :=
  match x.probe? with
  | some (some _) => []
  | _ => (x.begun c).filterMap Effect.request?

/-- An incident originates nothing and leaves the last id, or one request under the next id. -/
theorem originated_cases (c : StreamSettings) (x : Incident) :
  x.originated c = [] ∧ (x.after c).lastId = x.before.lastId
    ∨ ∃ r, x.originated c = [r] ∧ r.id = x.nextId
      ∧ (x.after c).lastId = x.before.lastId + 1
  := by
  have hbegins := x.begins c
  unfold originated
  generalize x.begun c = begun at hbegins ⊢
  cases hbegins with
  | nothing hprobe _ hid => exact .inl ⟨by simp [hprobe], hid⟩
  | other hprobe _ hid _ hrequest => exact .inl ⟨by simp [hprobe, hrequest], hid⟩
  | request hprobe _ hid _ hr => exact .inr ⟨_, by simp [hprobe, Effect.request?], hr, hid⟩
  | answer hprobe _ hid => exact .inl ⟨by simp [hprobe], hid⟩
  | newAnswer hprobe _ hid =>
      exact .inr ⟨.pong x.nextId, by simp [hprobe, Effect.request?], rfl, hid⟩
  | message hprobe _ hid => exact .inl ⟨by simp [hprobe, Effect.request?], hid⟩

/-- A request that is sent is originated, or it answers a probe under its own id. -/
theorem mem_originated_or {r : StreamRequest} (h : .send r ∈ x.begun c) :
  r ∈ x.originated c ∨ ∃ id, x.probe? = some (some id) ∧ r = .pong id
  := by
  have hsent : r ∈ (x.begun c).filterMap Effect.request? := List.mem_filterMap.mpr ⟨_, h, rfl⟩
  have hbegins := x.begins c
  unfold originated
  generalize x.begun c = begun at hbegins h hsent
  cases hbegins with
  | answer hprobe =>
      obtain ⟨rfl⟩ := List.mem_singleton.mp h
      exact .inr ⟨_, hprobe, rfl⟩
  | nothing hprobe | other hprobe | request hprobe | newAnswer hprobe | message hprobe =>
      rw [hprobe]
      exact .inl hsent

end Incident

/-! ## Requests of a run -/

/-- The requests that are originated in some incidents, in the order in which they are sent. -/
def originated (c : StreamSettings) (log : List Incident) : List StreamRequest :=
  log.flatMap fun x => x.originated c

/-- The ids of the requests that are originated in a run count up from the last id before it to
the last one after it. -/
theorem id_originated (c : StreamSettings) (s : Supervisor)
    (events : List (Clock × Occurrence)) :
  (originated c (s.incidents c events)).map StreamRequest.id
      = (List.range' (s.lastId + 1) (originated c (s.incidents c events)).length).map Json.ofNat
    ∧ (s.run c events).lastId = s.lastId + (originated c (s.incidents c events)).length
  := by
  induction events generalizing s with
  | nil => exact ⟨rfl, rfl⟩
  | cons e events ih =>
      obtain ⟨hids, hlast⟩ := ih (s.step c e.1 e.2).1
      have hlog : originated c (s.incidents c (e :: events))
          = Incident.originated c ⟨s, e.1, e.2⟩
            ++ originated c ((s.step c e.1 e.2).1.incidents c events) := rfl
      have hrun : s.run c (e :: events) = (s.step c e.1 e.2).1.run c events := rfl
      rw [hlog, hrun]
      rcases Incident.originated_cases c ⟨s, e.1, e.2⟩ with
        ⟨hnone, hid⟩ | ⟨r, hone, hr, hid⟩
      · replace hid : (s.step c e.1 e.2).1.lastId = s.lastId := hid
        rw [hid] at hids hlast
        rw [hnone]
        exact ⟨hids, hlast⟩
      · replace hid : (s.step c e.1 e.2).1.lastId = s.lastId + 1 := hid
        rw [hid] at hids hlast
        rw [hone, List.singleton_append, List.length_cons]
        constructor
        · rw [List.map_cons, hids, hr, List.range'_succ]
          rfl
        · omega

/-- Over a whole run, on any number of connections and while fewer ids are drawn than a counter
of 64 bits has, the requests that are originated have the ids of that counter in the order in
which they are sent.  These increase, so that no id is used twice.  Any other request that is
sent answers a probe under its own id. -/
theorem increasing_ids_of_run (c : StreamSettings) (events : List (Clock × Occurrence))
    (hfew : (originated c (incidents c {} events)).length < UInt64.size - 1) :
  (originated c (incidents c {} events)).map StreamRequest.id
      = (counterIds (originated c (incidents c {} events)).length).map
          (fun k => Json.ofNat k.toNat)
    ∧ (counterIds (originated c (incidents c {} events)).length).Pairwise (· < ·)
    ∧ ((originated c (incidents c {} events)).map StreamRequest.id).Nodup
    ∧ ∀ x ∈ incidents c {} events, ∀ r, .send r ∈ x.begun c →
        r ∈ originated c (incidents c {} events)
          ∨ ∃ id, x.probe? = some (some id) ∧ r = .pong id
  := by
  have hend : (originated c (incidents c {} events)).length < UInt64.size := by omega
  have hids : (originated c (incidents c {} events)).map StreamRequest.id
      = (List.range' 1 (originated c (incidents c {} events)).length).map Json.ofNat :=
    (id_originated c {} events).1
  refine ⟨?_, pairwise_counterIds hend, ?_, ?_⟩
  · rw [hids, ← map_toNat_counterIds hend, List.map_map]
    rfl
  · rw [hids, List.Nodup, List.pairwise_map]
    exact List.Pairwise.imp (fun hne h => hne (Json.ofNat_inj.mp h)) List.nodup_range'
  · intro x hx r hr
    apply (Incident.mem_originated_or hr).imp_left
    intro h
    exact List.mem_flatMap.mpr ⟨x, hx, h⟩

/-- The first connection is broken while a probe without an id is answered.  On the second one a
probe is answered under its id, and one is sent. -/
def reconnectingEvents : List (Clock × Occurrence) :=
  [.checked false, .finished .done, .finished .done,
    .frame "\x7b\"id\":1,\"result\":\"success\"\x7d", .finished .done, .finished .done,
    .frame "\x7b\"method\":\"server.ping\",\"id\":null\x7d", .finished (.broken .closed),
    .finished .done, .finished .done, .delayOver,
    .checked false, .finished .done, .finished .done,
    .frame "\x7b\"id\":5,\"result\":\"success\"\x7d", .finished .done, .finished .done,
    .frame "\x7b\"method\":\"server.ping\",\"params\":[],\"id\":1\x7d", .finished .done,
    .timer .probe, .finished .done].map fun o : Occurrence => (⟨⟨0⟩, 0⟩, o)

theorem increasing_ids_of_reconnectingEvents :
  (originated .standard (incidents .standard {} reconnectingEvents)).length < UInt64.size - 1
    ∧ (originated .standard (incidents .standard {} reconnectingEvents)).map StreamRequest.id
        = [1, 2, 3, 4, 5, 6, 7, 8].map Json.ofNat
  := by
  have hlength : (originated .standard (incidents .standard {} reconnectingEvents)).length = 8 := by
    decide +kernel
  have hfew : (originated .standard (incidents .standard {} reconnectingEvents)).length
      < UInt64.size - 1 := by
    rw [hlength]
    decide
  use hfew
  rw [(increasing_ids_of_run .standard reconnectingEvents hfew).1, hlength]
  rfl

end VenueLink.Supervisor
