import Mathlib.Data.List.Infix
import VenueLink.Venue.Error

/-!
# Failures that tell of a missing order

Whether a failed request says that there is no such order is read off the sentence for the
failure.  The words that the sentence puts around the texts of others never make up the telling
phrase or a part of it, so the sentence tells it just when one of these texts does, whoever wrote
the text: the venue, or a transport that never reached the venue.
-/

namespace VenueLink

/-! ## Phrases in texts -/

/-- A text keeps a phrase off: the phrase does not stand in it, and can neither begin in it nor
end in it nor go across it. -/
def KeepsOff (between phrase : List Char) : Prop :=
  ¬phrase <:+: between ∧ ¬between <:+: phrase
    ∧ (∀ l ∈ phrase.inits, l ≠ [] → ¬l <:+ between)
    ∧ ∀ l ∈ phrase.tails, l ≠ [] → ¬l <+: between

instance (between phrase : List Char) : Decidable (KeepsOff between phrase) :=
  inferInstanceAs (Decidable (_ ∧ _))

/-- A phrase stands on one side of a text that keeps it off, or on the other. -/
theorem KeepsOff.infix_iff {between phrase : List Char} (h : KeepsOff between phrase)
    (before after : List Char) :
  phrase <:+: before ++ (between ++ after) ↔ phrase <:+: before ∨ phrase <:+: after
  := by
  obtain ⟨hinside, hacross, hbegins, hends⟩ := h
  constructor
  · intro hinfix
    rcases List.infix_append_iff_ne_nil.mp hinfix with
      hbefore | hrest | ⟨l, l', -, hne, rfl, -, hrest⟩
    · exact .inl hbefore
    · rcases List.infix_append_iff_ne_nil.mp hrest with
        hbetween | hafter | ⟨l, l', hne, -, rfl, hbetween, -⟩
      · exact absurd hbetween hinside
      · exact .inr hafter
      · exact absurd hbetween (hbegins l ((List.mem_inits _ _).mpr (List.prefix_append l l')) hne)
    · -- The end of the phrase comes to its end in the text between, or goes past it.
      rcases List.prefix_or_prefix_of_prefix hrest (List.prefix_append between after) with
        hbetween | hpast
      · exact absurd hbetween (hends l' ((List.mem_tails _ _).mpr (List.suffix_append l l')) hne)
      · exact absurd (hpast.isInfix.trans List.infix_append_right) hacross
  · rintro (hbefore | hafter)
    · exact hbefore.trans List.infix_append_left
    · exact hafter.trans (List.infix_append_right.trans List.infix_append_right)

namespace Text

theorem toList_lower (s : String) :
  (lower s).toList = s.toList.flatMap lowerChar
  := String.toList_ofList

theorem toList_lower_append (s s' : String) :
  (lower (s ++ s')).toList = (lower s).toList ++ (lower s').toList
  := by
  simp only [toList_lower, String.toList_append, List.flatMap_append]

/-- The phrases that say that there is no such order. -/
def missingPhrases : List String := ["order not found", "does not exist"]

/-- A text says, in any letter case, that there is no such order. -/
def TellsMissing (text : String) : Prop :=
  ∃ phrase ∈ missingPhrases, phrase.toList <:+: (lower text).toList

instance (text : String) : Decidable (TellsMissing text) :=
  inferInstanceAs (Decidable (∃ phrase ∈ missingPhrases, _))

variable {between : String}

/-- A text between two others that keeps the phrases off adds nothing to what they tell. -/
theorem tellsMissing_append
    (h : ∀ phrase ∈ missingPhrases, KeepsOff (lower between).toList phrase.toList)
    (before after : String) :
  TellsMissing (before ++ between ++ after) ↔ TellsMissing before ∨ TellsMissing after
  := by
  simp only [TellsMissing, toList_lower_append, List.append_assoc]
  constructor
  · rintro ⟨phrase, hphrase, hinfix⟩
    rcases ((h phrase hphrase).infix_iff _ _).mp hinfix with hbefore | hafter
    · exact .inl ⟨phrase, hphrase, hbefore⟩
    · exact .inr ⟨phrase, hphrase, hafter⟩
  · rintro (⟨phrase, hphrase, hbefore⟩ | ⟨phrase, hphrase, hafter⟩)
    · exact ⟨phrase, hphrase, ((h phrase hphrase).infix_iff _ _).mpr (.inl hbefore)⟩
    · exact ⟨phrase, hphrase, ((h phrase hphrase).infix_iff _ _).mpr (.inr hafter)⟩

/-- A text in front that keeps the phrases off adds nothing to what the rest tells. -/
theorem tellsMissing_front
    (h : ∀ phrase ∈ missingPhrases, KeepsOff (lower between).toList phrase.toList)
    (after : String) :
  TellsMissing (between ++ after) ↔ TellsMissing after
  := by
  have hnothing : ¬TellsMissing "" := by decide
  rw [← String.empty_append (s := between), tellsMissing_append h, or_iff_right hnothing]

/-- The lower case of a digit is the digit. -/
theorem lowerChar_of_isDigit :
  ∀ n < 0x3a, 0x30 ≤ n → lowerChar (Char.ofNat n) = [Char.ofNat n]
  := by
  decide

/-- A number tells nothing. -/
theorem not_tellsMissing_toString (n : Nat) :
  ¬TellsMissing (toString n)
  := by
  rintro ⟨phrase, hphrase, hinfix⟩
  have hletters : ∀ phrase ∈ missingPhrases, 'n' ∈ phrase.toList := by decide
  have hmem := hinfix.subset (hletters phrase hphrase)
  rw [toList_lower, Nat.toString_eq_repr, Nat.toList_repr, List.mem_flatMap] at hmem
  obtain ⟨c, hc, hlower⟩ := hmem
  have hdigit := Nat.isDigit_of_mem_toDigits (by decide) (by decide) hc
  rw [Char.isDigit_iff_toNat] at hdigit
  have hsame := lowerChar_of_isDigit c.toNat (Nat.lt_succ_of_le hdigit.2) hdigit.1
  rw [Char.ofNat_toNat] at hsame
  rw [hsame, List.mem_singleton] at hlower
  subst hlower
  revert hdigit
  decide

end Text

/-! ## Failures -/

namespace VenueError

theorem occursIn_iff (part text : List Char) :
  occursIn part text = true ↔ part <:+: text
  := by
  induction text with
  | nil => simp [occursIn]
  | cons c rest ih =>
      rw [occursIn, Bool.or_eq_true, List.isPrefixOf_iff_prefix, ih, List.infix_cons_iff]

/-- The texts of others in a failure. -/
def texts : VenueError → List String
  | connection m => [m]
  | http _ body => [body]
  | rejected context code m => [context, code, m]
  | invalidResponse m => [m]
  | rateLimited => []

/-- A text of others in a failure says that there is no such order. -/
def TellsMissing (e : VenueError) : Prop := ∃ text ∈ e.texts, Text.TellsMissing text

instance (e : VenueError) : Decidable e.TellsMissing :=
  inferInstanceAs (Decidable (∃ text ∈ e.texts, _))

/-- The sentence for a failure says that there is no such order just when a text of others in it
does. -/
theorem isMissingOrder_iff (e : VenueError) :
  e.isMissingOrder = true ↔ e.TellsMissing
  := by
  have hsentence : e.isMissingOrder = true ↔ Text.TellsMissing e.message := by
    simp [isMissingOrder, Text.TellsMissing, Text.missingPhrases, occursIn_iff]
  rw [hsentence]
  cases e with
  | connection m =>
      change Text.TellsMissing ("venue connection error: " ++ m) ↔ _
      rw [Text.tellsMissing_front]
      · simp [TellsMissing, texts]
      · decide +kernel
  | http status body =>
      change Text.TellsMissing ("venue returned HTTP " ++ toString status ++ ": " ++ body) ↔ _
      rw [Text.tellsMissing_append, Text.tellsMissing_front,
        or_iff_right (Text.not_tellsMissing_toString status)]
      · simp [TellsMissing, texts]
      · decide +kernel
      · decide +kernel
  | rejected context code m =>
      change Text.TellsMissing (context ++ " failed (" ++ code ++ "): " ++ m) ↔ _
      rw [Text.tellsMissing_append, Text.tellsMissing_append]
      · simp [TellsMissing, texts, or_assoc]
      · decide +kernel
      · decide +kernel
  | invalidResponse m =>
      change Text.TellsMissing ("invalid venue response: " ++ m) ↔ _
      rw [Text.tellsMissing_front]
      · simp [TellsMissing, texts]
      · decide +kernel
  | rateLimited =>
      have hnothing : ¬Text.TellsMissing rateLimited.message := by decide
      simp [hnothing, TellsMissing, texts]

end VenueError

end VenueLink
