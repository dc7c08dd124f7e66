import VenueLink.Proofs.LetterCase

/-!
# Pairs written and read

A pair that was read has an asset on either side, and it is read again from its text.  From its
market symbol it is read again just when neither asset has an underscore.  Pairs that the venue
names have none, since underscores are read as hyphens; a pair in a text with a hyphen may have
some.
-/

namespace VenueLink

/-! ## Separators and upper case -/

namespace Text

variable {c d : Char} {cs ds : List Char}

set_option maxRecDepth 10000 in
/-- Neither separator of pairs is led to. -/
theorem separators_not_reached :
  '-'.toNat ∉ reached ∧ '_'.toNat ∉ reached
  := by
  decide

/-- What the table does not lead to was in a text if it is in its upper case. -/
theorem mem_of_mem_flatMap_upperChar (hd : d.toNat ∉ reached) (h : d ∈ cs.flatMap upperChar) :
  d ∈ cs
  := by
  obtain ⟨c, hc, hmem⟩ := List.mem_flatMap.mp h
  rcases upperChar_eq_or_reached c with hsame | ⟨-, hreached⟩
  · rw [hsame, List.mem_singleton] at hmem
    rwa [hmem]
  · exact absurd (hreached d hmem) hd

theorem mem_of_mem_trimChars (h : c ∈ trimChars cs) :
  c ∈ cs
  := (List.dropWhile_sublist _).mem ((List.rdropWhile_prefix _ _).mem h)

theorem IsTrimmed.append (hcs : IsTrimmed cs) (hds : IsTrimmed ds) (hne : cs ≠ [])
    (hne' : ds ≠ []) :
  IsTrimmed (cs ++ c :: ds)
  := by
  intro h
  constructor
  · rw [List.head_append_of_ne_nil hne]
    exact (hcs hne).1
  · rw [List.getLast_append_of_ne_nil _ (List.cons_ne_nil c ds), List.getLast_cons hne']
    exact (hds hne').2

end Text

namespace Pair

variable {before after : List Char} {separator : Char} {text : String} {p : Pair}

/-! ## The last separator -/

theorem splitLast?_of_not_mem (h : separator ∉ after) :
  splitLast? separator after = none
  := by
  induction after with
  | nil => rfl
  | cons c rest ih =>
      rw [List.mem_cons, not_or] at h
      simp [splitLast?, ih h.2, Ne.symm h.1]

theorem not_mem_of_splitLast? {cs : List Char} (h : splitLast? separator cs = none) :
  separator ∉ cs
  := by
  fun_induction splitLast? separator cs with
  | case1 => exact List.not_mem_nil
  | case2 => exact nomatch h
  | case3 => exact nomatch h
  | case4 c rest hrest hne ih =>
      rw [List.mem_cons, not_or]
      exact ⟨Ne.symm hne, ih hrest⟩

/-- A text is split at a separator after which there is none. -/
theorem splitLast?_append (h : separator ∉ after) :
  splitLast? separator (before ++ separator :: after) = some (before, after)
  := by
  induction before with
  | nil => simp [splitLast?, splitLast?_of_not_mem h]
  | cons c rest ih => rw [List.cons_append, splitLast?, ih]

/-- The parts of a text that was split stand around a separator, and there is none after it. -/
theorem eq_append_of_splitLast? {cs : List Char}
    (h : splitLast? separator cs = some (before, after)) :
  cs = before ++ separator :: after ∧ separator ∉ after
  := by
  induction cs generalizing before with
  | nil => exact nomatch h
  | cons c rest ih =>
      rw [splitLast?] at h
      cases hrest : splitLast? separator rest with
      | some parts =>
          rw [hrest] at h
          obtain ⟨rfl, rfl⟩ := h
          obtain ⟨hparts, hafter⟩ := ih hrest
          exact ⟨congrArg (c :: ·) hparts, hafter⟩
      | none =>
          rw [hrest] at h
          obtain ⟨rfl, hparts⟩ := Option.ite_none_right_eq_some.mp h
          obtain ⟨rfl, rfl⟩ := Prod.mk.inj (Option.some.inj hparts)
          exact ⟨rfl, not_mem_of_splitLast? hrest⟩

/-! ## Pairs that were read -/

/-- Two assets with names as they are kept, of which neither is empty and the second one has no
hyphen. -/
structure Proper (p : Pair) : Prop where
  base_ne : p.base ≠ ""
  quote_ne : p.quote ≠ ""
  assetName_base : assetName p.base = p.base
  assetName_quote : assetName p.quote = p.quote
  hyphen_not_mem : '-' ∉ p.quote.toList

theorem ne_empty_of_not_isAllBlank {s : String} (h : Text.isAllBlank s = false) :
  s ≠ ""
  := by
  rintro rfl
  exact nomatch h

theorem not_mem_assetName {d : Char} {s : String} (hd : d.toNat ∉ Text.reached)
    (h : d ∉ s.toList) :
  d ∉ (assetName s).toList
  := by
  rw [toList_assetName]
  intro hmem
  exact h (Text.mem_of_mem_trimChars (Text.mem_of_mem_flatMap_upperChar hd hmem))

/-- A pair that was read has its assets from two texts around a hyphen. -/
theorem exists_of_parse? (h : parse? text = some p) :
  ∃ base quote : List Char, Text.trimChars text.toList = base ++ '-' :: quote ∧ base ≠ []
    ∧ quote ≠ [] ∧ '-' ∉ quote ∧ p = ofAssets (String.ofList base) (String.ofList quote)
  := by
  unfold parse? at h
  split at h
  case h_2 => exact nomatch h
  case h_1 base quote hsplit =>
    obtain ⟨hne, h⟩ := Option.ite_none_left_eq_some.mp h
    simp only [Bool.or_eq_true, List.isEmpty_iff, not_or] at hne
    obtain ⟨htext, hquote⟩ := eq_append_of_splitLast? hsplit
    exact ⟨base, quote, htext, hne.1, hne.2, hquote, (Option.some.inj h).symm⟩

theorem proper_of_parse? (h : parse? text = some p) :
  p.Proper
  := by
  obtain ⟨base, quote, htext, hbase, hquote, hhyphen, rfl⟩ := exists_of_parse? h
  have htrim := Text.isTrimmed_trimChars text.toList
  rw [htext] at htrim
  obtain ⟨hhead, hlast⟩ := htrim (List.append_ne_nil_of_left_ne_nil hbase _)
  constructor
  · apply ne_empty_of_not_isAllBlank
    apply isAllBlank_assetName
    rw [Text.isAllBlank, String.toList_ofList, List.all_eq_false]
    rw [List.head_append_of_ne_nil hbase] at hhead
    exact ⟨_, List.head_mem hbase, Bool.eq_false_iff.mp hhead⟩
  · apply ne_empty_of_not_isAllBlank
    apply isAllBlank_assetName
    rw [Text.isAllBlank, String.toList_ofList, List.all_eq_false]
    rw [List.getLast_append_of_ne_nil _ (List.cons_ne_nil '-' quote),
      List.getLast_cons hquote] at hlast
    exact ⟨_, List.getLast_mem hquote, Bool.eq_false_iff.mp hlast⟩
  · apply assetName_assetName
  · apply assetName_assetName
  · apply not_mem_assetName Text.separators_not_reached.1
    rwa [String.toList_ofList]

/-- A pair is read again from its text. -/
theorem Proper.parse?_display (h : p.Proper) :
  parse? p.display = some p
  := by
  have hbase : p.base.toList ≠ [] := by
    rw [ne_eq, String.toList_eq_nil_iff]
    exact h.base_ne
  have hquote : p.quote.toList ≠ [] := by
    rw [ne_eq, String.toList_eq_nil_iff]
    exact h.quote_ne
  have htext : p.display.toList = p.base.toList ++ '-' :: p.quote.toList := by
    simp [display]
  have htrim : Text.IsTrimmed (p.base.toList ++ '-' :: p.quote.toList) := by
    apply Text.IsTrimmed.append _ _ hbase hquote
    · rw [← h.assetName_base]
      apply isTrimmed_assetName
    · rw [← h.assetName_quote]
      apply isTrimmed_assetName
  unfold parse?
  rw [htext, Text.trimChars_of_isTrimmed htrim, splitLast?_append h.hyphen_not_mem]
  simp [hbase, hquote, ofAssets, h.assetName_base, h.assetName_quote]

/-! ## Symbols of the venue -/

theorem hyphenated_symbol (hbase : '_' ∉ p.base.toList) (hquote : '_' ∉ p.quote.toList) :
  hyphenated p.symbol = p.display
  := by
  have hkept : ∀ cs : List Char, '_' ∉ cs → cs.map (fun c => if c = '_' then '-' else c) = cs := by
    intro cs h
    conv_rhs => rw [← List.map_id cs]
    apply List.map_congr_left
    intro c hc
    exact if_neg (ne_of_mem_of_not_mem hc h)
  apply String.toList_injective
  simp [hyphenated, symbol, display, hkept _ hbase, hkept _ hquote]

theorem underscore_not_mem_hyphenated (s : String) :
  '_' ∉ (hyphenated s).toList
  := by
  rw [hyphenated, String.toList_ofList, List.mem_map]
  rintro ⟨c, -, hc⟩
  split at hc
  · exact absurd hc (by decide)
  · contradiction

/-- Neither asset of a pair that the venue names has an underscore. -/
theorem underscore_not_mem_of_ofSymbol? (h : ofSymbol? text = some p) :
  '_' ∉ p.base.toList ∧ '_' ∉ p.quote.toList
  := by
  obtain ⟨base, quote, htext, -, -, -, rfl⟩ := exists_of_parse? h
  have hnone : '_' ∉ base ++ '-' :: quote := by
    rw [← htext]
    intro hmem
    exact underscore_not_mem_hyphenated text (Text.mem_of_mem_trimChars hmem)
  rw [List.mem_append, List.mem_cons, not_or, not_or] at hnone
  constructor
  · apply not_mem_assetName Text.separators_not_reached.2
    rw [String.toList_ofList]
    exact hnone.1
  · apply not_mem_assetName Text.separators_not_reached.2
    rw [String.toList_ofList]
    exact hnone.2.2

/-- A pair is read again from its symbol just when neither asset has an underscore. -/
theorem Proper.ofSymbol?_symbol_iff (h : p.Proper) :
  ofSymbol? p.symbol = some p ↔ '_' ∉ p.base.toList ∧ '_' ∉ p.quote.toList
  := by
  constructor
  · exact underscore_not_mem_of_ofSymbol?
  · rintro ⟨hbase, hquote⟩
    rw [ofSymbol?, hyphenated_symbol hbase hquote, h.parse?_display]

/-- Neither asset of a pair that was read is empty, and the pair is read again from its text.  From
its symbol it is read again just when neither asset has an underscore, and so it is when the venue
named it. -/
theorem reads_back (h : parse? text = some p ∨ ofSymbol? text = some p) :
  p.base ≠ "" ∧ p.quote ≠ ""
    ∧ parse? p.display = some p
    ∧ (ofSymbol? p.symbol = some p ↔ '_' ∉ p.base.toList ∧ '_' ∉ p.quote.toList)
    ∧ (ofSymbol? text = some p → ofSymbol? p.symbol = some p)
  := by
  have hproper : p.Proper := by
    rcases h with hparse | hsymbol
    · exact proper_of_parse? hparse
    · exact proper_of_parse? hsymbol
  refine ⟨hproper.base_ne, hproper.quote_ne, hproper.parse?_display,
    hproper.ofSymbol?_symbol_iff, ?_⟩
  intro hsymbol
  exact hproper.ofSymbol?_symbol_iff.mpr (underscore_not_mem_of_ofSymbol? hsymbol)

theorem reads_back_hyphenatedBase :
  parse? " usd-c-straße " = some ⟨"USD-C", "STRASSE"⟩
    ∧ parse? "USD-C-STRASSE" = some ⟨"USD-C", "STRASSE"⟩
    ∧ ofSymbol? "USD-C_STRASSE" = some ⟨"USD-C", "STRASSE"⟩
  := by
  have hparse : parse? " usd-c-straße " = some ⟨"USD-C", "STRASSE"⟩ := by decide +kernel
  obtain ⟨-, -, hdisplay, hsymbol, -⟩ := reads_back (.inl hparse)
  exact ⟨hparse, hdisplay, hsymbol.mpr (by decide)⟩

/-- Of a pair with an underscore in an asset the symbol names another pair. -/
theorem not_reads_back_of_underscore :
  ∃ p : Pair, parse? "a_b-c" = some p ∧ p.symbol = "A_B_C"
    ∧ ofSymbol? p.symbol = some ⟨"A-B", "C"⟩ ∧ ofSymbol? p.symbol ≠ some p
  := by
  use ⟨"A_B", "C"⟩
  decide +kernel

end Pair

end VenueLink
