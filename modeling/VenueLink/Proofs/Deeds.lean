import Mathlib.Data.List.Induction
import VenueLink.Proofs.Incidents

/-!
# What becomes of what a supervisor begins

What a supervisor begins in an incident has a result in a later one, unless it is given up
before.  So all that was begun in a run is done, lost or pending.  Of a kind of which nothing is
lost, it is done in the order in which it was begun, and before anything is met for which the
supervisor has to be free.
-/

namespace VenueLink.Supervisor

variable {c : StreamSettings} {s : Supervisor}

/-! ## Runs -/

/-- What occurrences lead to, one after the other. -/
def run (c : StreamSettings) (s : Supervisor) (events : List (Clock × Occurrence)) :
    Supervisor :=
  events.foldl (fun s e => (s.step c e.1 e.2).1) s

/-- The incidents of a run. -/
def incidents (c : StreamSettings) : Supervisor → List (Clock × Occurrence) → List Incident
  | _, [] => []
  | s, e :: events => ⟨s, e.1, e.2⟩ :: incidents c (s.step c e.1 e.2).1 events

theorem run_concat (events : List (Clock × Occurrence)) (e : Clock × Occurrence) :
  s.run c (events ++ [e]) = ((s.run c events).step c e.1 e.2).1
  := by
  simp [run]

theorem incidents_append (events events' : List (Clock × Occurrence)) :
  s.incidents c (events ++ events') = s.incidents c events ++ (s.run c events).incidents c events'
  := by
  induction events generalizing s with
  | nil => rfl
  | cons e events ih => exact congrArg (List.cons _) ih

theorem incidents_concat (events : List (Clock × Occurrence)) (e : Clock × Occurrence) :
  s.incidents c (events ++ [e]) = s.incidents c events ++ [⟨s.run c events, e.1, e.2⟩]
  := incidents_append events [e]

theorem lastId_le_run (events : List (Clock × Occurrence)) :
  s.lastId ≤ (s.run c events).lastId
  := by
  induction events generalizing s with
  | nil => exact Nat.le_refl _
  | cons e events ih => exact Nat.le_trans (Incident.lastId_le_after c ⟨s, e.1, e.2⟩) ih

/-- No request id is drawn twice: those of an earlier incident are not above the last one. -/
theorem lastId_after_le_run {events : List (Clock × Occurrence)} {x : Incident}
    (h : x ∈ s.incidents c events) :
  (x.after c).lastId ≤ (s.run c events).lastId
  := by
  induction events generalizing s with
  | nil => simp [incidents] at h
  | cons e events ih =>
      rcases List.mem_cons.mp h with rfl | h
      · exact lastId_le_run events
      · exact ih h

/-! ## What was begun -/

/-- What was begun, by what came of it. -/
structure Deeds where
  /-- It ended as it was meant to. -/
  done : List Effect := []
  /-- It failed, or something else was begun before it had a result. -/
  lost : List Effect := []
  /-- It has no result yet. -/
  pending : List Effect := []

namespace Deeds

/-- A result is that of what is pending; so is what ends when something else is begun. -/
def note (d : Deeds) (o : Occurrence) (begun : List Effect) : Deeds :=
  match o, begun with
  | .finished .done, _ => ⟨d.done ++ d.pending, d.lost, begun⟩
  | .finished (.broken _), _ => ⟨d.done, d.lost ++ d.pending, begun⟩
  | _, [] => d
  | _, _ => ⟨d.done, d.lost ++ d.pending, begun⟩

variable {α : Type} {f : Effect → Option α} {d : Deeds} {o : Occurrence} {begun : List Effect}

theorem lost_subset_note (d : Deeds) (o : Occurrence) (begun : List Effect) :
  d.lost ⊆ (d.note o begun).lost
  := by
  unfold note
  split <;> simp

/-- Where nothing was pending, or its result came, only what is begun now is pending. -/
theorem pending_note (h : d.pending = [] ∨ ∃ r, o = .finished r) :
  (d.note o begun).pending = begun
  := by
  rcases h with h | ⟨r, rfl⟩
  · unfold note
    split <;> simp_all
  · cases r <;> rfl

/-- Of a kind of which nothing is lost, the deeds are those before and those begun now. -/
theorem filterMap_note (h : ∀ e ∈ (d.note o begun).lost, f e = none) :
  ((d.note o begun).done ++ (d.note o begun).pending).filterMap f =
    (d.done ++ d.pending).filterMap f ++ begun.filterMap f
  := by
  have hpending (hlost : d.pending ⊆ (d.note o begun).lost) : d.pending.filterMap f = [] :=
    List.filterMap_eq_nil_iff.mpr fun e he => h e (hlost he)
  unfold note at hpending ⊢
  split
  · simp
  · simp [hpending]
  · simp
  · simp [hpending]

end Deeds

/-- What was begun in some incidents. -/
def deeds (c : StreamSettings) (log : List Incident) : Deeds :=
  log.foldl (fun d x => d.note x.occurrence (x.begun c)) {}

theorem deeds_concat (log : List Incident) (x : Incident) :
  deeds c (log ++ [x]) = (deeds c log).note x.occurrence (x.begun c)
  := by
  simp [deeds]

/-- Of a kind of which nothing is lost, what is begun by each incident is done or pending, in
that order. -/
theorem filterMap_deeds {α : Type} {f : Effect → Option α} {g : Incident → Option α}
    {log : List Incident} (hbegun : ∀ x, (x.begun c).filterMap f = (g x).toList)
    (h : ∀ e ∈ (deeds c log).lost, f e = none) :
  ((deeds c log).done ++ (deeds c log).pending).filterMap f = log.filterMap g
  := by
  induction log using List.reverseRecOn with
  | nil => rfl
  | append_singleton log x ih =>
      rw [deeds_concat] at h ⊢
      have hlog := ih fun e he => h e (Deeds.lost_subset_note _ _ _ he)
      rw [Deeds.filterMap_note h, hlog, hbegun, List.filterMap_append]
      cases hx : g x <;> simp [hx]

/-- Nothing is pending where no result is waited for. -/
theorem pending_eq_nil {events : List (Clock × Occurrence)}
    (h : (s.run c events).stage.isIdle = true) :
  (deeds c (s.incidents c events)).pending = []
  := by
  induction events using List.reverseRecOn with
  | nil => rfl
  | append_singleton events e ih =>
      rw [run_concat] at h
      rw [incidents_concat, deeds_concat]
      obtain ⟨hbegun, hwhy⟩ :=
        Incident.begun_of_idle_after (x := ⟨s.run c events, e.1, e.2⟩) h
      rw [hbegun]
      apply Deeds.pending_note
      exact hwhy.imp_left ih

end VenueLink.Supervisor
