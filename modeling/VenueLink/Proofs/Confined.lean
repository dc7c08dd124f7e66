import VenueLink.Proofs.Routine

/-!
# Routines confined to a part of the state

A routine is confined to a part of a state when all that it does depends on that part alone
and spares the rest.  What others do to the rest makes no difference to it, and what it does
makes none to those who are confined to the rest.
-/

namespace VenueLink.Routine

variable {σ α β : Type}

/-! ## Stretches under a clock that stands still -/

/-- A pause of one routine before another: the second one goes on where the first has ended. -/
def Pause.before (t : Moment) (f : α → Routine σ β) : Pause σ α → σ → Pause σ β × σ
  | finished a, s => (f a).advance t s
  | asking r k, s => (asking r fun reply => k reply >>= f, s)

theorem advance_bind (t : Moment) (m : Routine σ α) (f : α → Routine σ β) (s : σ) :
  (m >>= f).advance t s = (m.advance t s).1.before t f (m.advance t s).2
  := by
  change (m.andThen f).advance t s = _
  induction m generalizing s with
  | done a => rfl
  | look k ih => apply ih
  | change g m ih => apply ih
  | clock k ih => apply ih
  | ask r k ih => rfl

/-- The outcome of a routine that has come to a pause, when nothing else happens. -/
def Pause.answeredBy (t : Moment) (venue : VenueRequest → Reply) : Pause σ α → σ → α × σ
  | finished a, s => (a, s)
  | asking r k, s => (k (venue r)).answeredBy t venue s

/-- A routine is answered stretch by stretch. -/
theorem answeredBy_eq (t : Moment) (venue : VenueRequest → Reply) (m : Routine σ α) (s : σ) :
  m.answeredBy t venue s = (m.advance t s).1.answeredBy t venue (m.advance t s).2
  := by
  induction m generalizing s with
  | done a => rfl
  | look k ih => apply ih
  | change g m ih => apply ih
  | clock k ih => apply ih
  | ask r k ih => rfl

theorem answeredBy_bind (t : Moment) (venue : VenueRequest → Reply) (m : Routine σ α)
    (f : α → Routine σ β) (s : σ) :
  (m >>= f).answeredBy t venue s
    = (f (m.answeredBy t venue s).1).answeredBy t venue (m.answeredBy t venue s).2
  := by
  change (m.andThen f).answeredBy t venue s = _
  induction m generalizing s with
  | done a => rfl
  | look k ih => apply ih
  | change g m ih => apply ih
  | clock k ih => apply ih
  | ask r k ih => apply ih

/-! ## Parts of a state -/

/-- A part of a state. -/
structure Part (σ : Type) where
  /-- Two states have the part, and it is the same in both. -/
  Same : σ → σ → Prop
  /-- The rest is the same in two states. -/
  Spares : σ → σ → Prop
  symm : ∀ {s s'}, Same s s' → Same s' s
  trans : ∀ {s₁ s₂ s₃}, Same s₁ s₂ → Same s₂ s₃ → Same s₁ s₃
  spares_refl : ∀ s, Spares s s
  spares_trans : ∀ {s₁ s₂ s₃}, Spares s₁ s₂ → Spares s₂ s₃ → Spares s₁ s₃

namespace Part

variable {P : Part σ}

theorem same_left {s s' : σ} (h : P.Same s s') :
  P.Same s s
  := P.trans h (P.symm h)

/-- A change with a result minds a part of the state: the result and the part depend on the
part alone, and the rest is spared. -/
structure Minds (P : Part σ) (f : σ → α × σ) : Prop where
  result : ∀ {s s'}, P.Same s s' → (f s).1 = (f s').1
  same : ∀ {s s'}, P.Same s s' → P.Same (f s).2 (f s').2
  spares : ∀ {s}, P.Same s s → P.Spares s (f s).2

theorem minds_unchanged (P : Part σ) {f : σ → α} (hf : ∀ s s', P.Same s s' → f s = f s') :
  P.Minds fun s => (f s, s)
  := ⟨fun h => hf _ _ h, fun h => h, fun _ => P.spares_refl _⟩

/-- What follows on a change minds the part if it does so for each result. -/
theorem Minds.followed {f : σ → α × σ} {g : α → σ → β × σ} (hf : P.Minds f)
    (hg : ∀ s, P.Same s s → P.Minds (g (f s).1)) :
  P.Minds fun s => g (f s).1 (f s).2
  := by
  constructor
  · intro s s' h
    rw [← hf.result h]
    apply (hg s (same_left h)).result (hf.same h)
  · intro s s' h
    rw [← hf.result h]
    apply (hg s (same_left h)).same (hf.same h)
  · intro s h
    exact P.spares_trans (hf.spares h) ((hg s h).spares (hf.same h))

end Part

/-! ## Confined routines -/

/-- A routine is confined to a part of the state: each of its stretches minds the part. -/
inductive Confined (P : Part σ) (t : Moment) : Routine σ α → Prop where
  | mk {m : Routine σ α} (stretch : P.Minds (m.advance t))
    (next : ∀ s r k, P.Same s s → (m.advance t s).1 = .asking r k →
      ∀ reply, Confined P t (k reply)) :
    Confined P t m

variable {P : Part σ} {t : Moment}

theorem Confined.stretch {m : Routine σ α} (h : Confined P t m) :
  P.Minds (m.advance t)
  := h.rec fun stretch _ _ => stretch

theorem Confined.next {m : Routine σ α} (h : Confined P t m) {s : σ} {r : VenueRequest}
    {k : Reply → Routine σ α} (hs : P.Same s s) (hasks : (m.advance t s).1 = .asking r k)
    (reply : Reply) :
  Confined P t (k reply)
  := by
  obtain ⟨-, next⟩ := h
  apply next s r k hs hasks

/-- A routine that ends at once is confined if it minds the part. -/
theorem confined_of_finished {m : Routine σ α} {f : σ → α × σ} (hf : P.Minds f)
    (hm : ∀ s, m.advance t s = (.finished (f s).1, (f s).2)) :
  Confined P t m
  := by
  constructor
  · rw [funext hm]
    exact ⟨fun h => congrArg Pause.finished (hf.result h), hf.same, hf.spares⟩
  · intro s r k _ h
    rw [hm] at h
    cases h

theorem confined_update {f : σ → α × σ} (hf : P.Minds f) :
  Confined P t (update f)
  := confined_of_finished hf fun _ => rfl

theorem confined_modify {f : σ → σ} (hf : P.Minds fun s => ((), f s)) :
  Confined P t (modify f)
  := confined_of_finished hf fun _ => rfl

theorem confined_pure (a : α) :
  Confined P t (pure a : Routine σ α)
  := confined_of_finished (P.minds_unchanged fun _ _ _ => rfl) fun _ => rfl

theorem confined_now :
  Confined P t (now : Routine σ Moment)
  := confined_of_finished (P.minds_unchanged fun _ _ _ => rfl) fun _ => rfl

theorem confined_fetch (r : VenueRequest) :
  Confined P t (fetch r : Routine σ Reply)
  := by
  rw [fetch_eq]
  constructor
  · apply P.minds_unchanged fun _ _ _ => rfl
  · intro s r' k _ h reply
    cases h
    apply confined_pure

/-- A look at the state is confined if only the part makes a difference to what follows. -/
theorem confined_look {k : σ → Routine σ α} (hsame : ∀ s s', P.Same s s' → k s = k s')
    (hk : ∀ s, P.Same s s → Confined P t (k s)) :
  Confined P t (state >>= k)
  := by
  constructor
  · apply (P.minds_unchanged hsame).followed
    intro s h
    apply (hk s h).stretch
  · intro s r k' h
    apply (hk s h).next h

theorem confined_bind {m : Routine σ α} {f : α → Routine σ β} (hm : Confined P t m)
    (hf : ∀ a, Confined P t (f a)) :
  Confined P t (m >>= f)
  := by
  induction hm with
  | @mk m stretch next ih =>
      constructor
      · rw [funext (advance_bind t m f)]
        apply stretch.followed
        intro s h
        cases (m.advance t s).1 with
        | finished a => apply (hf a).stretch
        | asking r k => apply P.minds_unchanged fun _ _ _ => rfl
      · intro s r k h hasks reply
        rw [advance_bind] at hasks
        cases hpause : (m.advance t s).1 with
        | finished a =>
            rw [hpause] at hasks
            apply (hf a).next (stretch.same h) hasks reply
        | asking r' k' =>
            rw [hpause] at hasks
            cases hasks
            apply ih s r k' h hpause

/-- When nothing else happens, all that a confined routine does minds its part. -/
theorem Confined.answeredBy {m : Routine σ α} (h : Confined P t m)
    (venue : VenueRequest → Reply) :
  P.Minds (m.answeredBy t venue)
  := by
  induction h with
  | @mk m stretch next ih =>
      rw [funext (answeredBy_eq t venue m)]
      apply stretch.followed
      intro s h
      cases hpause : (m.advance t s).1 with
      | finished a => apply P.minds_unchanged fun _ _ _ => rfl
      | asking r k => apply ih s r k h hpause

end VenueLink.Routine
