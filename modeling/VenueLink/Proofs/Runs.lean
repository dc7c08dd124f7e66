import VenueLink.Proofs.Routine

/-!
# Runs of routines

A run of a routine is told by its events: what the clock showed, and the questions with their
answers.  While a question was open others may have worked on the state, so an exchange
remembers both the state that the routine left and the state that it found.
-/

namespace VenueLink

/-- A question and its answer. -/
structure Exchange (σ : Type) where
  /-- The state when the question was asked. -/
  left : σ
  request : VenueRequest
  reply : Reply
  /-- The state when the answer came. -/
  found : σ

/-- What the answer of an exchange comes to. -/
def Exchange.outcome {σ : Type} (x : Exchange σ) : Reply := x.request.outcome x.reply

/-- What a routine meets with on its way. -/
inductive Event (σ : Type) where
  /-- The clock shows a time. -/
  | clock (t : Moment)
  /-- A question is asked and answered. -/
  | exchange (x : Exchange σ)

/-- The exchange that an event is. -/
def Event.exchange? {σ : Type} : Event σ → Option (Exchange σ)
  | clock _ => none
  | exchange x => some x

namespace Routine

variable {σ α β : Type}

/-! ## Exchanges -/

/-- The exchanges among some events. -/
def exchanges (es : List (Event σ)) : List (Exchange σ) := es.filterMap Event.exchange?

@[simp]
theorem exchanges_nil :
  exchanges ([] : List (Event σ)) = []
  := rfl

@[simp]
theorem exchanges_clock (t : Moment) (es : List (Event σ)) :
  exchanges (.clock t :: es) = exchanges es
  := rfl

@[simp]
theorem exchanges_exchange (x : Exchange σ) (es : List (Event σ)) :
  exchanges (.exchange x :: es) = x :: exchanges es
  := rfl

@[simp]
theorem exchanges_append (es es' : List (Event σ)) :
  exchanges (es ++ es') = exchanges es ++ exchanges es'
  := List.filterMap_append

/-- The requests among some events. -/
def requests (es : List (Event σ)) : List VenueRequest := (exchanges es).map (·.request)

/-- The requests among some events, with the answers to them. -/
def replies (es : List (Event σ)) : List (VenueRequest × Reply) :=
  (exchanges es).map fun x => (x.request, x.reply)

/-- The state in which the last stretch past some events began. -/
def resumed (s : σ) (es : List (Event σ)) : σ := (exchanges es).foldl (fun _ x => x.found) s

/-! ## Runs -/

/-- From a state a routine can come past some events to a pause, and leave another state
there. -/
def Runs : Routine σ α → σ → List (Event σ) → Pause σ α → σ → Prop
  | done a, s, es, q, s' => es = [] ∧ q = .finished a ∧ s' = s
  | look k, s, es, q, s' => (k s).Runs s es q s'
  | change f m, s, es, q, s' => m.Runs (f s) es q s'
  | clock k, s, es, q, s' => ∃ t rest, es = .clock t :: rest ∧ (k t).Runs s rest q s'
  | ask r k, s, es, q, s' => (es = [] ∧ q = .asking r k ∧ s' = s)
    ∨ ∃ reply found rest, es = .exchange ⟨s, r, reply, found⟩ :: rest
      ∧ (k reply).Runs found rest q s'

variable {s s' s₁ s₂ : σ} {es es' : List (Event σ)} {q : Pause σ α}

/-- A stretch is a run without exchanges. -/
theorem Reaches.runs {m : Routine σ α} (h : m.Reaches s q s') :
  ∃ es, m.Runs s es q s' ∧ exchanges es = []
  := by
  induction m generalizing s with
  | done a => exact ⟨[], ⟨rfl, h⟩, rfl⟩
  | look k ih => apply ih _ h
  | change f m ih => apply ih h
  | clock k ih =>
      obtain ⟨t, h⟩ := h
      obtain ⟨es, hruns, hnone⟩ := ih t h
      exact ⟨.clock t :: es, ⟨t, es, rfl, hruns⟩, hnone⟩
  | ask r k ih => exact ⟨[], .inl ⟨rfl, h⟩, rfl⟩

/-- From a question a run goes on with the answer. -/
theorem Runs.answered {m : Routine σ α} {r : VenueRequest} {k : Reply → Routine σ α}
    {reply : Reply} (h : m.Runs s es (.asking r k) s₁) (h' : (k reply).Runs s₂ es' q s') :
  m.Runs s (es ++ .exchange ⟨s₁, r, reply, s₂⟩ :: es') q s'
  := by
  induction m generalizing s es with
  | done a => cases h.2.1
  | look k' ih => apply ih _ h
  | change f m ih => apply ih h
  | clock k' ih =>
      obtain ⟨t, rest, rfl, h⟩ := h
      exact ⟨t, _, rfl, ih t h⟩
  | ask r' k' ih =>
      right
      rcases h with ⟨rfl, hq, rfl⟩ | ⟨reply', found, rest, rfl, h⟩
      · cases hq
        exact ⟨reply, s₂, es', rfl, h'⟩
      · exact ⟨reply', found, _, rfl, ih reply' h⟩

/-! ## The steps of a routine -/

/-- One routine after another is run by running the first to its end and then the second. -/
@[simp]
theorem runs_bind {b : β} (m : Routine σ α) (f : α → Routine σ β) :
  (m >>= f).Runs s es (.finished b) s'
    ↔ ∃ a s₁ before after, es = before ++ after ∧ m.Runs s before (.finished a) s₁
      ∧ (f a).Runs s₁ after (.finished b) s'
  := by
  change (m.andThen f).Runs s es (.finished b) s' ↔ _
  induction m generalizing s es with
  | done a =>
      constructor
      · intro h
        exact ⟨a, s, [], es, rfl, ⟨rfl, rfl, rfl⟩, h⟩
      · rintro ⟨a', s₁, before, after, rfl, ⟨rfl, ha, rfl⟩, h⟩
        cases ha
        exact h
  | look k ih => apply ih
  | change g m ih => apply ih
  | clock k ih =>
      simp only [andThen, Runs, ih]
      constructor
      · rintro ⟨t, rest, rfl, a, s₁, before, after, rfl, h, h'⟩
        exact ⟨a, s₁, .clock t :: before, after, rfl, ⟨t, before, rfl, h⟩, h'⟩
      · rintro ⟨a, s₁, before, after, rfl, ⟨t, rest, rfl, h⟩, h'⟩
        exact ⟨t, _, rfl, a, s₁, rest, after, rfl, h, h'⟩
  | ask r k ih =>
      simp only [andThen, Runs, ih]
      constructor
      · rintro (⟨-, hq, -⟩ | ⟨reply, found, rest, rfl, a, s₁, before, after, rfl, h, h'⟩)
        · cases hq
        · exact ⟨a, s₁, _ :: before, after, rfl, .inr ⟨reply, found, before, rfl, h⟩, h'⟩
      · rintro ⟨a, s₁, before, after, rfl, ⟨-, hq, -⟩ | ⟨reply, found, rest, rfl, h⟩, h'⟩
        · cases hq
        · exact .inr ⟨reply, found, _, rfl, a, s₁, rest, after, rfl, h, h'⟩

@[simp]
theorem runs_pure {b : α} (a : α) :
  (pure a : Routine σ α).Runs s es (.finished b) s' ↔ es = [] ∧ b = a ∧ s' = s
  := by
  change es = [] ∧ (.finished b : Pause σ α) = .finished a ∧ s' = s ↔ _
  rw [Pause.finished.injEq]

@[simp]
theorem runs_map {b : β} (f : α → β) (m : Routine σ α) :
  (f <$> m).Runs s es (.finished b) s' ↔ ∃ a, m.Runs s es (.finished a) s' ∧ b = f a
  := by
  rw [map_eq_pure_bind, runs_bind]
  constructor
  · rintro ⟨a, s₁, before, after, rfl, h, h'⟩
    obtain ⟨rfl, rfl, rfl⟩ := (runs_pure _).mp h'
    rw [List.append_nil]
    exact ⟨a, h, rfl⟩
  · rintro ⟨a, h, rfl⟩
    exact ⟨a, s', es, [], (List.append_nil es).symm, h, (runs_pure _).mpr ⟨rfl, rfl, rfl⟩⟩

@[simp]
theorem runs_state {b : σ} :
  state.Runs s es (.finished b) s' ↔ es = [] ∧ b = s ∧ s' = s
  := runs_pure s

@[simp]
theorem runs_now {t : Moment} :
  (now : Routine σ Moment).Runs s es (.finished t) s' ↔ es = [.clock t] ∧ s' = s
  := by
  constructor
  · rintro ⟨t', rest, rfl, rfl, hq, rfl⟩
    cases hq
    exact ⟨rfl, rfl⟩
  · rintro ⟨rfl, rfl⟩
    exact ⟨t, [], rfl, rfl, rfl, rfl⟩

@[simp]
theorem runs_update {b : β} (f : σ → β × σ) :
  (update f).Runs s es (.finished b) s' ↔ es = [] ∧ b = (f s).1 ∧ s' = (f s).2
  := runs_pure (s := (f s).2) (f s).1

@[simp]
theorem runs_modify {u : Unit} (f : σ → σ) :
  (modify f).Runs s es (.finished u) s' ↔ es = [] ∧ s' = f s
  := by
  change es = [] ∧ (.finished u : Pause σ Unit) = .finished () ∧ s' = f s ↔ _
  simp

@[simp]
theorem runs_fetch {reply : Reply} (r : VenueRequest) :
  (fetch r).Runs s es (.finished reply) s'
    ↔ ∃ x : Exchange σ, es = [.exchange x] ∧ x.left = s ∧ x.request = r ∧ x.found = s'
      ∧ reply = x.outcome
  := by
  rw [fetch_eq]
  constructor
  · rintro (⟨-, hq, -⟩ | ⟨reply', found, rest, rfl, rfl, hq, rfl⟩)
    · cases hq
    · cases hq
      exact ⟨_, rfl, rfl, rfl, rfl, rfl⟩
  · rintro ⟨⟨left, request, reply', found⟩, rfl, rfl, rfl, rfl, rfl⟩
    exact .inr ⟨reply', found, [], rfl, rfl, rfl, rfl⟩

/-! ## What runs bring about -/

variable {x : Origin σ}

/-- A run brings about what each of its stretches does, if others bring it about as well. -/
theorem Keeps.of_runs {R : σ → σ → Prop} (htrans : ∀ {a b c}, R a b → R b c → R a c)
    {m : Routine σ α}
    (hm : m.Keeps (fun x _ s => R x.state s) (fun x _ s => R x.state s) x s)
    (h : m.Runs s es q s') (hothers : ∀ y ∈ exchanges es, R y.left y.found) :
  (∀ y ∈ exchanges es, R x.state y.left ∧ R y.left s') ∧ R x.state s'
  := by
  induction m generalizing x s es with
  | done a =>
      obtain ⟨rfl, -, rfl⟩ := h
      exact ⟨nofun, hm⟩
  | look k ih => apply ih _ hm h hothers
  | change f m ih => apply ih hm h hothers
  | clock k ih =>
      obtain ⟨t, rest, rfl, h⟩ := h
      apply ih t (hm t) h hothers
  | ask r k ih =>
      obtain ⟨hleft, hnext⟩ := hm
      rcases h with ⟨rfl, -, rfl⟩ | ⟨reply, found, rest, rfl, h⟩
      · exact ⟨nofun, hleft⟩
      · rw [exchanges_exchange, List.forall_mem_cons] at hothers ⊢
        obtain ⟨hrest, hs'⟩ := ih reply (hnext reply found) h hothers.2
        have hfound := htrans hleft hothers.1
        use ⟨⟨hleft, htrans hothers.1 hs'⟩, ?_⟩, htrans hfound hs'
        intro y hy
        exact ⟨htrans hfound (hrest y hy).1, (hrest y hy).2⟩

/-- A run asks only what each of its stretches may end with. -/
theorem Keeps.request_of_runs {P : VenueRequest → Prop} {goal : Origin σ → α → σ → Prop}
    {m : Routine σ α} (hm : m.Keeps (fun _ r _ => P r) goal x s) (h : m.Runs s es q s')
    {y : Exchange σ} (hy : y ∈ exchanges es) :
  P y.request
  := by
  induction m generalizing x s es with
  | done a =>
      obtain ⟨rfl, -, -⟩ := h
      exact absurd hy List.not_mem_nil
  | look k ih => apply ih _ hm h hy
  | change f m ih => apply ih hm h hy
  | clock k ih =>
      obtain ⟨t, rest, rfl, h⟩ := h
      apply ih t (hm t) h hy
  | ask r k ih =>
      rcases h with ⟨rfl, -, -⟩ | ⟨reply, found, rest, rfl, h⟩
      · exact absurd hy List.not_mem_nil
      · rcases List.mem_cons.mp hy with rfl | hy
        · exact hm.1
        · apply ih reply (hm.2 reply found) h hy

/-- What a stretch brings about that leads to a pause. -/
def Pause.Brings (pause : Origin σ → VenueRequest → σ → Prop) (goal : Origin σ → α → σ → Prop)
    (x : Origin σ) : Pause σ α → σ → Prop
  | finished a, s => goal x a s
  | asking r _, s => pause x r s

/-- The last stretch of a run brings about what it is to.  It began with the run or with one of
the answers. -/
theorem Keeps.last_of_runs {pause : Origin σ → VenueRequest → σ → Prop}
    {goal : Origin σ → α → σ → Prop} {m : Routine σ α} (hm : m.Keeps pause goal x s)
    (h : m.Runs s es q s') :
  ∃ z, (z = x ∨ ∃ y ∈ exchanges es, z.state = y.found) ∧ q.Brings pause goal z s'
  := by
  induction m generalizing x s es with
  | done a =>
      obtain ⟨rfl, rfl, rfl⟩ := h
      exact ⟨x, .inl rfl, hm⟩
  | look k ih => apply ih _ hm h
  | change f m ih => apply ih hm h
  | clock k ih =>
      obtain ⟨t, rest, rfl, h⟩ := h
      apply ih t (hm t) h
  | ask r k ih =>
      obtain ⟨hpause, hnext⟩ := hm
      rcases h with ⟨rfl, rfl, rfl⟩ | ⟨reply, found, rest, rfl, h⟩
      · exact ⟨x, .inl rfl, hpause⟩
      · obtain ⟨z, hz, hlast⟩ := ih reply (hnext reply found) h
        refine ⟨z, .inr ?_, hlast⟩
        rw [exchanges_exchange]
        rcases hz with rfl | ⟨y, hy, hz⟩
        · exact ⟨_, List.mem_cons_self, rfl⟩
        · exact ⟨y, List.mem_cons_of_mem _ hy, hz⟩

/-! ## The stretches of a run -/

/-- Where the stretches of a run began and where they ended.  Between two of them lies an
exchange. -/
def stretches (s : σ) : List (Exchange σ) → σ → List (σ × σ)
  | [], s' => [(s, s')]
  | x :: rest, s' => (s, x.left) :: stretches x.found rest s'

/-- A stretch began with the run or with an answer. -/
theorem begun_of_mem_stretches {xs : List (Exchange σ)} {y : σ × σ} (hy : y ∈ stretches s xs s') :
  y.1 = s ∨ ∃ x ∈ xs, y.1 = x.found
  := by
  induction xs generalizing s with
  | nil =>
      obtain rfl := List.mem_singleton.mp hy
      exact .inl rfl
  | cons x rest ih =>
      rcases List.mem_cons.mp hy with rfl | hy
      · exact .inl rfl
      · right
        rcases ih hy with hy | ⟨x', hx', hy⟩
        · exact ⟨x, List.mem_cons_self, hy⟩
        · exact ⟨x', List.mem_cons_of_mem x hx', hy⟩

theorem mem_stretches_resumed (s s' : σ) (es : List (Event σ)) :
  (resumed s es, s') ∈ stretches s (exchanges es) s'
  := by
  rw [resumed]
  induction exchanges es generalizing s with
  | nil => exact List.mem_singleton_self _
  | cons x rest ih => exact List.mem_cons_of_mem _ (ih x.found)

/-- Each stretch of a finished run brings about what it is to, the last one the goal. -/
theorem Keeps.stretch_of_runs {P : σ → σ → Prop} {G : σ → α → σ → Prop} {m : Routine σ α} {a : α}
    (hm : m.Keeps (fun x _ s => P x.state s) (fun x a s => G x.state a s) x s)
    (h : m.Runs s es (.finished a) s') {y : σ × σ}
    (hy : y ∈ stretches x.state (exchanges es) s') :
  P y.1 y.2 ∨ y.2 = s' ∧ G y.1 a s'
  := by
  induction m generalizing x s es with
  | done b =>
      obtain ⟨rfl, hq, rfl⟩ := h
      cases hq
      obtain rfl := List.mem_singleton.mp hy
      exact .inr ⟨rfl, hm⟩
  | look k ih => apply ih _ hm h hy
  | change f m ih => apply ih hm h hy
  | clock k ih =>
      obtain ⟨t, rest, rfl, h⟩ := h
      apply ih t (hm t) h hy
  | ask r k ih =>
      rcases h with ⟨-, hq, -⟩ | ⟨reply, found, rest, rfl, h⟩
      · cases hq
      · rcases List.mem_cons.mp hy with rfl | hy
        · exact .inl hm.1
        · apply ih reply (hm.2 reply found) h hy

/-! ## Runs that are played -/

/-- The run of a routine under a clock that stands still, with a venue that answers the same
to the same request, while others do with the state what goes with the request. -/
def played (t : Moment) (venue : VenueRequest → Reply) (others : VenueRequest → σ → σ) :
    Routine σ α → σ → List (Event σ) × α × σ
  | done a, s => ([], a, s)
  | look k, s => played t venue others (k s) s
  | change f m, s => played t venue others m (f s)
  | clock k, s =>
    let (es, result) := played t venue others (k t) s
    (.clock t :: es, result)
  | ask r k, s =>
    let (es, result) := played t venue others (k (venue r)) (others r s)
    (.exchange ⟨s, r, venue r, others r s⟩ :: es, result)

theorem runs_played (t : Moment) (venue : VenueRequest → Reply)
    (others : VenueRequest → σ → σ) (m : Routine σ α) (s : σ) :
  m.Runs s (m.played t venue others s).1 (.finished (m.played t venue others s).2.1)
    (m.played t venue others s).2.2
  := by
  induction m generalizing s with
  | done a => exact ⟨rfl, rfl, rfl⟩
  | look k ih => apply ih
  | change f m ih => apply ih
  | clock k ih => exact ⟨t, _, rfl, ih t s⟩
  | ask r k ih => exact .inr ⟨venue r, others r s, _, rfl, ih (venue r) (others r s)⟩

/-- In a run that is played the venue answers, and then the others do their part. -/
theorem of_mem_played {t : Moment} {venue : VenueRequest → Reply}
    {others : VenueRequest → σ → σ} {m : Routine σ α} {s : σ} {x : Exchange σ}
    (hx : x ∈ exchanges (m.played t venue others s).1) :
  x.reply = venue x.request ∧ x.found = others x.request x.left
  := by
  induction m generalizing s with
  | done a => exact absurd hx List.not_mem_nil
  | look k ih => apply ih _ hx
  | change f m ih => apply ih hx
  | clock k ih => apply ih t hx
  | ask r k ih =>
      rcases List.mem_cons.mp hx with rfl | hx
      · exact ⟨rfl, rfl⟩
      · apply ih (venue r) hx

end Routine

end VenueLink
