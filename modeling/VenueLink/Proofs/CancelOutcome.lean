import VenueLink.Proofs.CancelParts
import VenueLink.Proofs.CancelStep

/-!
# The outcomes of a cancel run

Wherever a run is cut short, its report has one outcome for each of its orders: the one that
was settled first, or a failure when none was.  An acknowledged order is settled at once, so
the cut does not make it fail.  What an order is in the end is decided when its outcome is
settled: a run that reports it canceled has proposed that to the book, and the book has the
last word.
-/

namespace VenueLink

namespace CancelPoint

variable {p : Policy} {orders : List Order} {others : Desk → Desk → Prop} {d : Desk}
  {c c₀ c₁ c₂ : CancelPoint} {answers answers₁ answers₂ : List CancelAnswer} {id : ClientId}
  {outcome : CancelOutcome}

/-! ## Along a course -/

/-- What others do at the desk leaves a run sound. -/
theorem Sound.withDesk (h : c.Sound orders) (d : Desk) :
  Sound orders { c with run.desk := d }
  := ⟨h.parts, h.stage⟩

theorem Course.sound (h : Course p others c₁ answers c) (hc : c₁.Sound orders) :
  c.Sound orders
  := by
  induction h with
  | nil => exact hc
  | others h hd ih => exact ih.withDesk _
  | step h h' ih => exact (h'.advance ih).2.1

theorem Course.stays (h : Course p others c₁ answers c) (hc : c₁.Sound orders)
    (hout : c₁.run.progress.report.get? id = some outcome) :
  c.run.progress.report.get? id = some outcome
  := by
  induction h with
  | nil => exact hout
  | others h hd ih => exact ih
  | step h h' ih => exact (h'.advance (h.sound hc)).1.stays _ _ ih

theorem Course.inTime (h : Course p others c₁ answers c) (hc : c₁.Sound orders)
    (hout : c.run.progress.report.get? id = some (.failed CancelRun.timeoutReason)) :
  c₁.run.progress.report.get? id = some (.failed CancelRun.timeoutReason)
  := by
  induction h with
  | nil => exact hout
  | others h hd ih => exact ih hout
  | step h h' ih =>
      apply ih
      apply (h'.advance (h.sound hc)).1.inTime _ hout

/-- No order has an outcome when a run begins. -/
theorem get?_of_begins (h : Begins p orders d c) (id : ClientId) :
  c.run.progress.report.get? id = none
  := by
  obtain ⟨h⟩ := h
  rfl

/-- Whatever order an answer acknowledges is settled from then on. -/
theorem Course.settled (h : Course p others c₁ answers c) (hc : c₁.Sound orders)
    {a : CancelAnswer} (ha : a ∈ answers) (hid : a.Acknowledges id) :
  c.run.Settled orders id
  := by
  induction h with
  | nil => exact absurd ha List.not_mem_nil
  | others h hd ih => exact ih ha
  | step h h' ih =>
      obtain ⟨hadvance, -, hsettled⟩ := h'.advance (h.sound hc)
      rcases List.mem_append.mp ha with ha | ha
      · obtain ⟨outcome, hout, hone⟩ := ih ha
        exact ⟨outcome, hadvance.stays id outcome hout, hone⟩
      · exact hsettled a ha id hid

/-- A course leads the book on by operations if others do. -/
theorem Course.leads (h : Course p others c₁ answers c) (hc : c₁.Sound orders)
    (hothers : ∀ d d', others d d' → d.Leads d') :
  c₁.run.desk.Leads c.run.desk
  := by
  induction h with
  | nil => apply Desk.Leads.refl
  | others h hd ih => exact ih.trans (hothers _ _ hd)
  | step h h' ih => exact ih.trans (h'.advance (h.sound hc)).1.leads

/-- A run leads the book of its desk on, and is sound wherever it stands. -/
theorem Comes.leads (h : Comes p Desk.Leads orders d answers c) :
  d.Leads c.run.desk ∧ c.Sound orders
  := by
  obtain ⟨c₀, hbegins, hcourse⟩ := h
  obtain ⟨hleads, hsound⟩ := sound_of_begins hbegins
  exact ⟨hleads.trans (hcourse.leads hsound fun _ _ h => h), hcourse.sound hsound⟩

/-- An order that gets an outcome on the way gets it by one of the steps. -/
theorem Course.exists_step (h : Course p others c₁ answers c) (hc : c₁.Sound orders)
    (hnone : c₁.run.progress.report.get? id = none)
    (hout : c.run.progress.report.get? id = some outcome) :
  ∃ c₂ c₃ before now after, Course p others c₁ before c₂ ∧ Step p c₂ now c₃
    ∧ Course p others c₃ after c ∧ c₂.run.progress.report.get? id = none
    ∧ c₃.run.progress.report.get? id = some outcome
  := by
  induction h with
  | nil =>
      rw [hnone] at hout
      cases hout
  | others h hd ih =>
      obtain ⟨c₂, c₃, before, now, after, hbefore, hnow, hafter, hnone', hout'⟩ := ih hout
      exact ⟨c₂, c₃, before, now, after, hbefore, hnow, hafter.others hd, hnone', hout'⟩
  | @step c' c'' answers answers' h h' ih =>
      cases hprev : c'.run.progress.report.get? id with
      | none => exact ⟨c', c'', answers, answers', [], h, h', .nil c'', hprev, hout⟩
      | some outcome' =>
          have := (h'.advance (h.sound hc)).1.stays id outcome' hprev
          rw [hout] at this
          cases this
          obtain ⟨c₂, c₃, before, now, after, hbefore, hnow, hafter, hnone', hout'⟩ :=
            ih hprev
          exact ⟨c₂, c₃, before, now, after ++ answers', hbefore, hnow, hafter.step h', hnone',
            hout'⟩

/-! ## Reports -/

theorem get?_report (c : CancelPoint) (id : ClientId) :
  c.report.get? id = if id ∈ c.run.progress.pending then some (.failed CancelRun.timeoutReason)
    else c.run.progress.report.get? id
  := CancelProgress.get?_finish c.run.progress CancelRun.timeoutReason id

theorem get?_report_of_some (hc : c.Sound orders)
    (h : c.run.progress.report.get? id = some outcome) :
  c.report.get? id = some outcome
  := by
  rw [get?_report, if_neg, h]
  intro hp
  rw [hc.parts.not_both id hp] at h
  cases h

theorem get?_of_report (h : c.report.get? id = some outcome)
    (hne : outcome ≠ .failed CancelRun.timeoutReason) :
  c.run.progress.report.get? id = some outcome
  := by
  rw [get?_report] at h
  split at h
  case isTrue => exact absurd (Option.some.inj h).symm hne
  case isFalse => exact h

/-! ## One outcome for each order -/

/-- Wherever a run stands when it ends, by itself or cut short, its report has exactly one
outcome for each order.  What was settled on the way is what is reported, and what was not
settled is timed out.  Whatever order an answer acknowledged was settled, so it is not timed
out, and it is canceled if it was given only once. -/
theorem report_of_comes (h₁ : Comes p others orders d answers₁ c₁)
    (h : Course p others c₁ answers c) :
  c.report.keys.Nodup ∧ (∀ id, id ∈ c.report.keys ↔ id ∈ orders.map (·.clientId))
    ∧ (∀ id outcome, c₁.run.progress.report.get? id = some outcome →
      c.report.get? id = some outcome)
    ∧ (∀ id ∈ orders.map (·.clientId), c.run.progress.report.get? id = none →
      c.report.get? id = some (.failed CancelRun.timeoutReason))
    ∧ ∀ a ∈ answers₁ ++ answers, ∀ id, a.Acknowledges id →
      ∃ outcome, c.run.progress.report.get? id = some outcome
        ∧ c.report.get? id = some outcome ∧ outcome ≠ .failed CancelRun.timeoutReason
        ∧ ((orders.map (·.clientId)).count id = 1 → outcome = .canceled)
  := by
  obtain ⟨c₀, hbegins, h₀⟩ := h₁
  have hsound₀ := (sound_of_begins hbegins).2
  have hsound₁ := h₀.sound hsound₀
  have hsound := h.sound hsound₁
  have hall := h₀.append h
  refine ⟨?_, ?_, ?_, ?_, ?_⟩
  · apply CancelReport.Sorted.nodup_keys
    apply CancelProgress.sorted_finish hsound.parts.sorted
  · apply CancelProgress.mem_keys_finish hsound.parts
  · intro id outcome hout
    apply get?_report_of_some hsound
    apply h.stays hsound₁ hout
  · intro id hid hnone
    rw [get?_report, if_pos]
    apply ((hsound.parts.mem_iff id).mp hid).resolve_right
    rw [hnone]
    apply Bool.false_ne_true
  · intro a ha id hack
    obtain ⟨outcome, hout, hone⟩ := hall.settled hsound₀ ha hack
    refine ⟨outcome, hout, get?_report_of_some hsound hout, ?_, hone⟩
    rintro rfl
    have hstart := hall.inTime hsound₀ hout
    rw [get?_of_begins hbegins] at hstart
    cases hstart

/-- A resting order in a bulk request, under its confirmed venue id. -/
def sampleMember (id venueId : String) : BulkMember :=
  ⟨.sample id (.confirmed ⟨venueId⟩), ⟨venueId⟩⟩

/-- Two such orders. -/
def sampleOrders : List Order :=
  [(sampleMember "c1" "v1").order, (sampleMember "c2" "v2").order]

/-- A desk that watches the two orders. -/
def sampleDesk : Desk := { book := { orders := sampleOrders } }

/-- The venue does not know an order. -/
def notFoundReply : Reply := .error (.http 404 "order not found")

theorem isMissingOrder_of_notFoundReply (e : VenueError) (h : notFoundReply = .error e) :
  e.isMissingOrder = true
  := by
  cases h
  decide

/-- When the bulk request for the two orders fails, the cancel of the first one can be granted
before that of the second one is sent. -/
theorem comes_sampleOrders (others : Desk → Desk → Prop) :
  ∃ answers c, Comes {} others sampleOrders sampleDesk answers c
    ∧ (∃ a ∈ answers, a.Acknowledges ⟨"c1"⟩)
    ∧ c.run.progress.report.get? ⟨"c2"⟩ = none
    ∧ (c.run.finish.2.book.find? ⟨"c1"⟩).map (·.state) = some .canceled
  := by
  have hbulk := @comes_of_failedBulk {} sampleDesk others
    [sampleMember "c1" "v1", sampleMember "c2" "v2"] (by decide) (by decide) (by decide)
    (.http 500 "busy")
  have hsend := hbulk.step (@Step.send {} _ [] [(sampleMember "c2" "v2").order] []
    (sampleMember "c1" "v1").order ⟨"v1"⟩ rfl rfl rfl)
  have hgrant := hsend.step (@Step.grant {} _ _ (sampleMember "c1" "v1").order ⟨"v1"⟩ [] []
    notFoundReply ⟨0⟩ isMissingOrder_of_notFoundReply)
  refine ⟨_, _, hgrant, ⟨_, List.mem_append_right _ (List.mem_singleton_self _), rfl, rfl,
    isMissingOrder_of_notFoundReply⟩, ?_, ?_⟩
  · decide
  · decide

/-- The first of the two orders is then reported canceled, and the second one timed out. -/
theorem report_of_comes_sampleOrders :
  ∃ answers c, Comes {} (fun _ _ => False) sampleOrders sampleDesk answers c
    ∧ c.report.keys.Nodup ∧ c.report.get? ⟨"c1"⟩ = some .canceled
    ∧ c.report.get? ⟨"c2"⟩ = some (.failed CancelRun.timeoutReason)
  := by
  obtain ⟨answers, c, h, ⟨a, ha, hack⟩, hnone, -⟩ := comes_sampleOrders fun _ _ => False
  obtain ⟨hnodup, -, -, htimeout, hacked⟩ := report_of_comes h (.nil c)
  use answers, c, h, hnodup
  constructor
  · obtain ⟨outcome, -, hout, -, hone⟩ := hacked a (List.mem_append_left _ ha) _ hack
    rw [hout, hone (by decide)]
  · exact htimeout _ (by decide) hnone

/-- An order that was given twice can be acknowledged when it has failed already. -/
theorem failed_though_acknowledged :
  ∃ answers c o, Comes {} (fun _ _ => False) [o, o] sampleDesk answers c
    ∧ (∃ a ∈ answers, a.Acknowledges o.clientId) ∧ c.report.get? o.clientId ≠ some .canceled
  := by
  have hbulk := @comes_of_failedBulk {} sampleDesk (fun _ _ => False)
    [sampleMember "c1" "v1", sampleMember "c1" "v1"] (by decide) (by decide) (by decide)
    (.http 500 "busy")
  have hsend := hbulk.step (@Step.send {} _ [] [(sampleMember "c1" "v1").order] []
    (sampleMember "c1" "v1").order ⟨"v1"⟩ rfl rfl rfl)
  have hsend' := hsend.step (@Step.send {} _ [] [] _ (sampleMember "c1" "v1").order ⟨"v1"⟩
    rfl rfl rfl)
  have hrefuse := hsend'.step (@Step.refuse {} _ [] (sampleMember "c1" "v1").order ⟨"v1"⟩ [] [_]
    (.error (.http 500 "busy")) (.http 500 "busy") rfl (by decide))
  have hgrant := hrefuse.step (@Step.grant {} _ [] (sampleMember "c1" "v1").order ⟨"v1"⟩ [] []
    notFoundReply ⟨0⟩ isMissingOrder_of_notFoundReply)
  refine ⟨_, _, (sampleMember "c1" "v1").order, hgrant, ⟨_, List.mem_append_right _
    (List.mem_singleton_self _), rfl, rfl, isMissingOrder_of_notFoundReply⟩, ?_⟩
  decide

/-! ## Reports and the book -/

/-- An order that a run reports canceled was settled by one of its steps, and in the end it is
what the book made of the order as it was then: it is canceled just when it had not been
filled and had not failed before that step.  While the run waits, others may perform any
operations on the book, as messages of the user stream do. -/
theorem canceled_iff_of_reported (hbook : d.book.Keyed) (horders : ∀ o ∈ orders, o ∈ d.book.orders)
    (h : Comes p Desk.Leads orders d answers c) (hcanceled : c.report.get? id = some .canceled) :
  ∃ c₁ c₂ before now after o₁ o, Comes p Desk.Leads orders d before c₁ ∧ Step p c₁ now c₂
    ∧ Course p Desk.Leads c₂ after c
    ∧ c₁.run.progress.report.get? id = none
    ∧ c₂.run.progress.report.get? id = some .canceled
    ∧ c₁.run.desk.book.find? id = some o₁ ∧ c.run.finish.2.book.find? id = some o
    ∧ o.state = o₁.state.after .canceled
    ∧ (o.state = .canceled ↔ o₁.state ≠ .filled ∧ o₁.state ≠ .failed)
  := by
  obtain ⟨c₀, hbegins, h⟩ := h
  obtain ⟨hleads₀, hsound₀⟩ := sound_of_begins hbegins
  have hout := get?_of_report hcanceled (by intro heq; cases heq)
  obtain ⟨c₁, c₂, before, now, after, hbefore, hnow, hafter, hnone, hsome⟩ :=
    h.exists_step hsound₀ (get?_of_begins hbegins id) hout
  have hsound₁ := hbefore.sound hsound₀
  obtain ⟨hadvance, hsound₂, -⟩ := hnow.advance hsound₁
  have hleads₁ := hleads₀.trans (hbefore.leads hsound₀ fun _ _ h => h)
  have hkeyed₁ := Book.Leads.keyed hleads₁ hbook
  -- The order is one of the run, so the book had it from the beginning.
  have hid : id ∈ orders.map (·.clientId) := by
    apply (hsound₂.parts.mem_iff id).mpr
    right
    rw [hsome]
    rfl
  obtain ⟨o₀, ho₀, rfl⟩ := List.mem_map.mp hid
  obtain ⟨o₁, ho₁, -⟩ := hleads₁.succeeds hbook _ o₀ (Book.find?_of_mem hbook (horders o₀ ho₀))
  obtain ⟨o₂, ho₂, hstate₂⟩ := hadvance.ends _ hnone hsome hkeyed₁ o₁ ho₁
  obtain ⟨o, ho, hbecomes⟩ := Book.Leads.succeeds (hafter.leads hsound₂ fun _ _ h => h)
    (hadvance.leads.keyed hkeyed₁) _ o₂ ho₂
  have hstate : o.state = o₁.state.after .canceled := by
    rw [← hstate₂]
    apply hbecomes.state
    rw [hstate₂]
    apply OrderState.isTerminal_after_canceled
  refine ⟨c₁, c₂, before, now, after, o₁, o, ⟨c₀, hbegins, hbefore⟩, hnow, hafter, hnone, hsome,
    ho₁, ho, hstate, ?_⟩
  rw [hstate]
  apply OrderState.after_canceled_eq_iff

/-- The first of the two orders is settled by a step that finds it neither filled nor failed, and
it is canceled in the end. -/
theorem canceled_iff_of_reported_sampleOrders :
  ∃ answers c c₁ c₂ before now after, ∃ o₁ o : Order,
    Comes {} Desk.Leads sampleOrders sampleDesk answers c
    ∧ c.report.get? ⟨"c1"⟩ = some .canceled
    ∧ Comes {} Desk.Leads sampleOrders sampleDesk before c₁ ∧ Step {} c₁ now c₂
    ∧ Course {} Desk.Leads c₂ after c
    ∧ c₁.run.progress.report.get? ⟨"c1"⟩ = none
    ∧ c₂.run.progress.report.get? ⟨"c1"⟩ = some .canceled
    ∧ c₁.run.desk.book.find? ⟨"c1"⟩ = some o₁ ∧ c.run.finish.2.book.find? ⟨"c1"⟩ = some o
    ∧ o.state = .canceled
    ∧ (o.state = .canceled ↔ o₁.state ≠ .filled ∧ o₁.state ≠ .failed)
  := by
  obtain ⟨answers, c, h, ⟨a, ha, hack⟩, -, hcanceled⟩ := comes_sampleOrders Desk.Leads
  have hreport : c.report.get? ⟨"c1"⟩ = some .canceled := by
    obtain ⟨c₀, hbegins, hcourse⟩ := h
    have hsound := (sound_of_begins hbegins).2
    obtain ⟨outcome, hout, hone⟩ := hcourse.settled hsound ha hack
    rw [get?_report_of_some (hcourse.sound hsound) hout, hone (by decide)]
  obtain ⟨c₁, c₂, before, now, after, o₁, o, hbefore, hnow, hafter, hnone, hsome, ho₁, ho, -,
    hstate⟩ := canceled_iff_of_reported (by decide) (by decide) h hreport
  rw [ho, Option.map_some, Option.some.injEq] at hcanceled
  exact ⟨answers, c, c₁, c₂, before, now, after, o₁, o, h, hreport, hbefore, hnow, hafter, hnone,
    hsome, ho₁, ho, hcanceled, hstate⟩

/-- A venue that lists an order as filled and then acknowledges its cancel. -/
def contradictingVenue (r : VenueRequest) : Reply :=
  .ok (.object [("result", .arr (match r.endpoint with
    | .finished =>
      [.object [("client_id", .str "c1"), ("id", .str "v1"), ("status", .str "filled")]]
    | .cancelBatch => [.object [("order_id", .str "v1"), ("result", .bool true)]]
    | _ => []))])

/-- A run can report an order canceled that was found to be filled on the way to its venue
id. -/
theorem reported_though_filled :
  ∃ d o answers c, d.book.Keyed ∧ d.book.resting = [o]
    ∧ Comes {} Desk.Leads [o] d answers c ∧ c.report.get? o.clientId = some .canceled
    ∧ (c.run.finish.2.book.find? o.clientId).map (·.state) = some .filled
  := by
  obtain ⟨answers, h⟩ := (follows_bulkPart {} Desk.Leads [.sample "c1" .unknown]
    { book := { orders := [.sample "c1" .unknown] } }).answeredBy ⟨0⟩ contradictingVenue
  exact ⟨_, _, answers, _, by decide, rfl, h, by decide +kernel, by decide +kernel⟩

end CancelPoint

end VenueLink
