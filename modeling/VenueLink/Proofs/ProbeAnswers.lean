import VenueLink.Proofs.Deeds

/-!
# Answers to the probes of the venue

The venue may probe at any time after the login was sent.  Each probe that is taken up is
answered once, in the order in which they come and before anything else is taken up: under its
own id if it has one, and under a new one otherwise.  Nothing else is answered like this.
-/

namespace VenueLink

/-- The answer to a probe, when one is sent. -/
def Effect.pong? (e : Effect) : Option StreamRequest :=
  e.request?.filter fun r => r.method = "server.pong"

@[simp] theorem Effect.pong?_send_pong (id : Json) :
  (Effect.send (.pong id)).pong? = some (.pong id)
  := by
  simp [pong?, request?, StreamRequest.method]

theorem Effect.pong?_send {r : StreamRequest} (h : ∀ id, r ≠ .pong id) :
  (Effect.send r).pong? = none
  := by
  cases r with
  | pong id => exact absurd rfl (h id)
  | _ => rfl

theorem Json.ofNat_inj {m n : Nat} :
  ofNat m = ofNat n ↔ m = n
  := by
  simp only [ofNat, num.injEq, Number.int.injEq]
  omega

namespace Supervisor

namespace Incident

/-- The answer due to a probe that is taken up: under its id, or under a new one if it has
none. -/
def answer? (x : Incident) : Option StreamRequest :=
  x.probe?.map fun id? => .pong (id?.getD x.nextId)

variable {c : StreamSettings} {x : Incident} {r : StreamRequest}

/-- The answer that is due is the only one that is begun. -/
theorem pong?_begun (c : StreamSettings) (x : Incident) :
  (x.begun c).filterMap Effect.pong? = x.answer?.toList
  := by
  have hbegins := x.begins c
  generalize x.begun c = begun at hbegins ⊢
  cases hbegins with
  | nothing hprobe => simp [answer?, hprobe]
  | other hprobe _ _ _ hrequest => simp [answer?, hprobe, Effect.pong?, hrequest]
  | request hprobe _ _ _ _ hpong => simp [answer?, hprobe, Effect.pong?_send hpong]
  | answer hprobe => simp [answer?, hprobe]
  | newAnswer hprobe => simp [answer?, hprobe]
  | message hprobe => simp [answer?, hprobe, Effect.pong?, Effect.request?]

/-- A request has the id of the probe that it answers, or the next one, which is drawn. -/
theorem id_of_begun (h : .send r ∈ x.begun c) :
  x.probe? = some (some r.id) ∨ r.id = x.nextId ∧ (x.after c).lastId = x.before.lastId + 1
  := by
  have hbegins := x.begins c
  generalize x.begun c = begun at hbegins h
  cases hbegins with
  | nothing => simp at h
  | other _ _ _ _ hrequest =>
      obtain rfl := List.mem_singleton.mp h
      exact nomatch hrequest
  | request _ _ hid _ hr =>
      obtain ⟨rfl⟩ := List.mem_singleton.mp h
      exact .inr ⟨hr, hid⟩
  | answer hprobe =>
      obtain ⟨rfl⟩ := List.mem_singleton.mp h
      exact .inl hprobe
  | newAnswer _ _ hid =>
      obtain ⟨rfl⟩ := List.mem_singleton.mp h
      exact .inr ⟨rfl, hid⟩
  | message => simp at h

end Incident

variable {c : StreamSettings} {s : Supervisor} {events : List (Clock × Occurrence)}

/-- The next request id is that of no request before, unless that answers a probe which had
this id. -/
theorem nextId_fresh {x y : Incident} {r : StreamRequest} (hx : x.before = s.run c events)
    (hy : y ∈ s.incidents c events) (hr : .send r ∈ y.begun c) (hid : r.id = x.nextId) :
  y.probe? = some (some r.id)
  := by
  apply (Incident.id_of_begun hr).resolve_right
  rintro ⟨hid', hdrawn⟩
  have hle : (y.after c).lastId ≤ x.before.lastId := hx ▸ lastId_after_le_run hy
  have heq := Json.ofNat_inj.mp (hid'.symm.trans hid)
  omega

/-- Whatever the venue sends and whatever else occurs, while no answer to a probe is lost: the
answers begun are those due to the probes taken up, each once and in their order.  When a frame
is taken up next, all of them are sent.  A new id is that of no request before, unless that
answers a probe which had this id. -/
theorem answers_of_probes (c : StreamSettings) (s : Supervisor)
    (events : List (Clock × Occurrence))
    (hsent : ∀ e ∈ (deeds c (s.incidents c events)).lost, e.pong? = none) :
  ((deeds c (s.incidents c events)).done ++
      (deeds c (s.incidents c events)).pending).filterMap Effect.pong? =
    (s.incidents c events).filterMap Incident.answer? ∧
  ∀ x : Incident, x.before = s.run c events →
    (x.frame?.isSome = true →
      (deeds c (s.incidents c events)).done.filterMap Effect.pong? =
        (s.incidents c events).filterMap Incident.answer?) ∧
    ∀ y ∈ s.incidents c events, ∀ r, .send r ∈ y.begun c → r.id = x.nextId →
      y.probe? = some (some r.id)
  := by
  have hanswers := filterMap_deeds (Incident.pong?_begun c) hsent
  use hanswers
  intro x hx
  constructor
  · intro hframe
    have hidle := Incident.idle_of_isSome_frame? hframe
    rw [hx] at hidle
    simpa [pending_eq_nil hidle] using hanswers
  · intro y hy r hr hid
    exact nextId_fresh hx hy hr hid

/-- The venue probes before it answers the login and, without an id, on the open connection.
Between the probes the timer ticks, and blank and broken frames come in. -/
def probingEvents : List (Clock × Occurrence) :=
  [.checked false, .finished .done, .finished .done,
    .frame "\x7b\"method\":\"server.ping\",\"params\":[],\"id\":\"probe-1\"\x7d", .finished .done,
    .frame "\x7b\"id\":1,\"result\":\"success\"\x7d", .finished .done, .finished .done,
    .timer .probe, .finished .done,
    .frame " ", .frame "[1", .frame "\x7b\"method\":\"server.ping\",\"id\":null\x7d",
    .finished .done].map fun o : Occurrence => (⟨⟨0⟩, 0⟩, o)

theorem answers_of_probes_probingEvents :
  (deeds .standard (incidents .standard {} probingEvents)).lost.isEmpty = true ∧
    (((deeds .standard (incidents .standard {} probingEvents)).done ++
        (deeds .standard (incidents .standard {} probingEvents)).pending).filterMap
          Effect.pong?).map StreamRequest.text =
      ["\x7b\"id\":\"probe-1\",\"method\":\"server.pong\",\"params\":[]\x7d",
        "\x7b\"id\":5,\"method\":\"server.pong\",\"params\":[]\x7d"]
  := by
  have hlost : (deeds .standard (incidents .standard {} probingEvents)).lost.isEmpty = true := by
    decide +kernel
  use hlost
  rw [(answers_of_probes .standard {} probingEvents _).1]
  · decide +kernel
  · rw [List.isEmpty_iff.mp hlost]
    exact nofun

end Supervisor

end VenueLink
