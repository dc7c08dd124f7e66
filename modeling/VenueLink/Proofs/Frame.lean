import Mathlib.Tactic.Common
import VenueLink.Stream.Frame

/-!
# What a frame of the venue holds

A frame that is data holds a probe, the answer to a request, or a message; and what it is taken
for is what it holds.
-/

namespace VenueLink

namespace Json

/-- A value with which the venue probes. -/
def IsProbe (message : Json) : Prop :=
  message.get? "method" = some (.str StreamRequest.pingMethod)

theorem isProbe_iff (message : Json) :
  message.IsProbe ↔ (message.get? "method").bind str? = some StreamRequest.pingMethod
  := by
  unfold IsProbe
  cases message.get? "method" with
  | none => simp
  | some method => cases method <;> simp [str?]

instance : DecidablePred IsProbe :=
  fun message => decidable_of_iff _ message.isProbe_iff.symm

/-- A value with which the venue answers a request: it has a result and no method. -/
def IsAnswer (message : Json) : Prop :=
  (message.get? "method").isNone = true ∧ (message.get? "result").isSome = true

instance : DecidablePred IsAnswer :=
  fun _ => inferInstanceAs (Decidable (_ ∧ _))

/-- The id of a probe, unless it is null. -/
def probeId? (message : Json) : Option Json :=
  (message.get? "id").filter fun id => !id.isNull

end Json

/-- The probe that a frame holds, by its id. -/
def probeOf? (text : String) : Option (Option Json) :=
  ((Json.parse? (Text.trim text)).filter fun message => message.IsProbe).map Json.probeId?

/-- The message that a frame holds: a value that is neither a probe nor an answer. -/
def messageOf? (text : String) : Option Json :=
  (Json.parse? (Text.trim text)).filter fun message => ¬message.IsProbe ∧ ¬message.IsAnswer

namespace Inbound

/-- A value received is a probe, an answer or a message. -/
theorem ofJson_eq (message : Json) :
  ofJson message =
    if message.IsProbe then .probe message.probeId?
    else if message.IsAnswer then .ack message
    else .event message
  := by
  simp only [Json.isProbe_iff, Json.IsAnswer, Json.probeId?, Json.get?, ofJson]
  cases message with
  | obj members =>
      obtain hmethod | ⟨method, hmethod⟩ :=
        (Json.Members.get? "method" members).eq_none_or_eq_some
      all_goals simp [Json.members?, hmethod]
  | _ => simp [Json.members?]

theorem ofJson_of_isProbe {message : Json} (h : message.IsProbe) :
  ofJson message = .probe message.probeId?
  := by
  rw [ofJson_eq, if_pos h]

theorem ofJson_of_not_isProbe {message : Json} (h : ¬ message.IsProbe) :
  ofJson message = .ack message ∨ ofJson message = .event message
  := by
  rw [ofJson_eq, if_neg h]
  split <;> simp

/-- A value received is neither blank nor malformed. -/
theorem ofJson_ne (message : Json) :
  ofJson message ≠ .blank ∧ ofJson message ≠ .malformed
  := by
  rw [ofJson_eq]
  repeat' split
  all_goals simp

theorem ofText_eq_ofJson {text : String} {message : Json}
    (h : Json.parse? (Text.trim text) = some message) :
  ofText text = ofJson message
  := by
  have hempty : Json.parse? "" = none := by rfl
  unfold ofText
  by_cases hblank : (Text.trim text).isEmpty = true
  · rw [String.isEmpty_iff.mp hblank, hempty] at h
    contradiction
  · simp [hblank, h]

theorem ofText_of_parse?_eq_none {text : String} (h : Json.parse? (Text.trim text) = none) :
  ofText text = .blank ∨ ofText text = .malformed
  := by
  unfold ofText
  by_cases hblank : (Text.trim text).isEmpty = true <;> simp [hblank, h]

/-- A frame holds data just when it is neither blank nor malformed. -/
theorem isSome_parse?_iff (text : String) :
  (Json.parse? (Text.trim text)).isSome = true ↔
    ofText text ≠ .blank ∧ ofText text ≠ .malformed
  := by
  cases hparse : Json.parse? (Text.trim text) with
  | none => rcases ofText_of_parse?_eq_none hparse with htext | htext <;> simp [htext]
  | some message =>
      rw [ofText_eq_ofJson hparse]
      simp [ofJson_ne]

/-- A frame that is neither blank nor malformed holds a value. -/
theorem exists_parse {text : String} (hblank : ofText text ≠ .blank)
    (hmalformed : ofText text ≠ .malformed) :
  ∃ message, Json.parse? (Text.trim text) = some message ∧ ofText text = ofJson message
  := by
  have hsome := (isSome_parse?_iff text).mpr ⟨hblank, hmalformed⟩
  obtain ⟨message, hmessage⟩ := Option.isSome_iff_exists.mp hsome
  exact ⟨message, hmessage, ofText_eq_ofJson hmessage⟩

/-- The probe that a frame holds is the one it is taken for. -/
theorem probeOf?_eq (text : String) :
  probeOf? text = match ofText text with
    | .probe id? => some id?
    | _ => none
  := by
  unfold probeOf?
  cases hparse : Json.parse? (Text.trim text) with
  | none => rcases ofText_of_parse?_eq_none hparse with htext | htext <;> simp [htext]
  | some message =>
      rw [ofText_eq_ofJson hparse, ofJson_eq]
      by_cases hprobe : message.IsProbe
      · simp [hprobe]
      · by_cases hanswer : message.IsAnswer <;> simp [hprobe, hanswer]

/-- The message that a frame holds is the one it is taken for. -/
theorem messageOf?_eq (text : String) :
  messageOf? text = match ofText text with
    | .event message => some message
    | _ => none
  := by
  unfold messageOf?
  cases hparse : Json.parse? (Text.trim text) with
  | none => rcases ofText_of_parse?_eq_none hparse with htext | htext <;> simp [htext]
  | some message =>
      rw [ofText_eq_ofJson hparse, ofJson_eq]
      by_cases hprobe : message.IsProbe
      · simp [hprobe]
      · by_cases hanswer : message.IsAnswer <;> simp [hprobe, hanswer]

end Inbound

end VenueLink
