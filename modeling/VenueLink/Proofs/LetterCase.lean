import VenueLink.Pair
import Mathlib.Data.List.DropRight

/-!
# Upper case, once and again

Text in upper case stays as it is when it is put in upper case again, and so do asset names.
A character changes when the table of upper case has it in a run or with a sequence; what it
changes into is in neither, and is not blank unless the character was.  To compare the table with
itself its code points are taken as the bits of one number.
-/

namespace VenueLink.Text

/-! ## Code points as bits -/

/-- The number with the given bits. -/
def bits (ns : List Nat) : Nat := ns.foldr (fun n m => 1 <<< n ||| m) 0

theorem testBit_bits (ns : List Nat) (n : Nat) :
  (bits ns).testBit n = true ↔ n ∈ ns
  := by
  induction ns with
  | nil => simp [bits]
  | cons m rest ih =>
      change (1 <<< m ||| bits rest).testBit n = true ↔ _
      rw [Nat.testBit_or, Bool.or_eq_true, ih, Nat.one_shiftLeft, Nat.testBit_two_pow,
        decide_eq_true_eq, List.mem_cons, eq_comm]

/-- Lists whose bits differ have no member in common. -/
theorem not_mem_of_bits {ms ns : List Nat} (h : bits ms &&& bits ns = 0) {n : Nat} (hn : n ∈ ms) :
  n ∉ ns
  := by
  intro hn'
  have hbit : (bits ms &&& bits ns).testBit n = true := by
    rw [Nat.testBit_and, (testBit_bits ms n).mpr hn, (testBit_bits ns n).mpr hn']
    rfl
  rw [h, Nat.zero_testBit] at hbit
  cases hbit

/-! ## What the table changes, and into what -/

/-- The code points of a run. -/
def runCodes (run : Nat × Nat × Nat × Int) : List Nat :=
  List.range' run.1 ((run.2.1 - run.1) / run.2.2.1 + 1) run.2.2.1

theorem mem_runCodes {run : Nat × Nat × Nat × Int} {n : Nat} (hfirst : run.1 ≤ n)
    (hlast : n ≤ run.2.1) (hstride : (n - run.1) % run.2.2.1 = 0) :
  n ∈ runCodes run
  := by
  apply List.mem_range'.mpr
  refine ⟨(n - run.1) / run.2.2.1, ?_, ?_⟩
  · apply Nat.lt_succ_of_le
    apply Nat.div_le_div_right
    omega
  · rw [Nat.mul_div_cancel' (Nat.dvd_of_mod_eq_zero hstride)]
    omega

/-- The code points that the table changes. -/
def changed : List Nat :=
  upperSequences.toList.map (·.1) ++ upperRuns.toList.flatMap runCodes

/-- The code points that the table leads to, and the one that stands for what is no
character. -/
def reached : List Nat :=
  0 :: upperSequences.toList.flatMap (·.2)
    ++ upperRuns.toList.flatMap fun run =>
      (runCodes run).map fun (n : Nat) => (n + run.2.2.2).toNat

/-- The blank code points. -/
def blanks : List Nat :=
  List.range' 0x09 5 ++ [0x20, 0x85, 0xa0, 0x1680] ++ List.range' 0x2000 11
    ++ [0x2028, 0x2029, 0x202f, 0x205f, 0x3000]

set_option maxRecDepth 10000 in
/-- Nothing that the table leads to is changed by it or blank. -/
theorem reached_apart :
  bits reached &&& bits (changed ++ blanks) = 0
  := by
  decide

theorem not_mem_of_mem_reached {n : Nat} (h : n ∈ reached) :
  n ∉ changed ∧ n ∉ blanks
  := by
  rw [← not_or, ← List.mem_append]
  apply not_mem_of_bits reached_apart h

/-- The search ends at the end or where the test holds. -/
theorem firstIndex_eq_or (test : Nat → Bool) {lo hi : Nat} (h : lo ≤ hi) :
  firstIndex test lo hi = hi ∨ test (firstIndex test lo hi) = true
  := by
  fun_induction firstIndex test lo hi with
  | case1 lo hi hlt mid htest ih =>
      rcases ih (by omega) with heq | hfound
      · rw [heq]
        exact .inr htest
      · exact .inr hfound
  | case2 lo hi hlt mid htest ih => apply ih (by omega)
  | case3 lo hi hlt => exact .inl (by omega)

/-- The search in a table ends at an entry that is not below the code point, or past the
entries. -/
theorem search_mem_or {α : Type} (table : Array α) (last : α → Nat) (n : Nat) (a b : α) :
  let entry := table.getD (firstIndex (fun k => n ≤ last (table.getD k a)) 0 table.size) b
  entry ∈ table.toList ∧ n ≤ last entry ∨ entry = b
  := by
  intro entry
  have hsearch := firstIndex_eq_or (fun k => n ≤ last (table.getD k a)) (Nat.zero_le table.size)
  unfold entry
  generalize firstIndex _ _ _ = i at hsearch ⊢
  by_cases h : i < table.size
  · left
    have hentry : ∀ d, table.getD i d = table[i] := fun d => by simp [Array.getD, h]
    rw [hentry] at hsearch ⊢
    exact ⟨Array.mem_toList_iff.mpr (Array.getElem_mem h),
      of_decide_eq_true (hsearch.resolve_left (Nat.ne_of_lt h))⟩
  · right
    simp [Array.getD, h]

/-- The basic letters are the ones that the first run of the table moves. -/
theorem toUpper_ofNat :
  ∀ n < 0x80, (Char.ofNat n).toUpper
    = if 0x61 ≤ n ∧ n ≤ 0x7a then Char.ofNat ((n : Int) + -32).toNat else Char.ofNat n
  := by
  decide

/-- Beyond the basic alphabet the upper case is what the entries say at which the two searches
end. -/
theorem upperChar_eq {c : Char} (h : ¬ c.toNat < 0x80) :
  ∃ (entry : Nat × List Nat) (run : Nat × Nat × Nat × Int), upperChar c
      = (if entry.1 = c.toNat then entry.2.map Char.ofNat
        else if run.1 ≤ c.toNat && (c.toNat - run.1) % run.2.2.1 = 0 then
          [Char.ofNat (c.toNat + run.2.2.2).toNat]
        else [c])
    ∧ (entry ∈ upperSequences.toList ∨ entry = (0, []))
    ∧ (run ∈ upperRuns.toList ∧ c.toNat ≤ run.2.1 ∨ run = (c.toNat + 1, 0, 1, 0))
  := by
  refine ⟨_, _, ?_, (search_mem_or upperSequences (·.1) c.toNat (0, []) (0, [])).imp_left And.left,
    search_mem_or upperRuns (·.2.1) c.toNat (0, 0, 1, 0) (c.toNat + 1, 0, 1, 0)⟩
  rw [upperChar, if_neg h]

/-- A character stays as it is, or a sequence or a run of the table tells its upper case. -/
theorem upperChar_cases (c : Char) :
  upperChar c = [c]
    ∨ (∃ entry ∈ upperSequences.toList, entry.1 = c.toNat
      ∧ upperChar c = entry.2.map Char.ofNat)
    ∨ ∃ run ∈ upperRuns.toList, c.toNat ∈ runCodes run
      ∧ upperChar c = [Char.ofNat (c.toNat + run.2.2.2).toNat]
  := by
  by_cases hbasic : c.toNat < 0x80
  · have hupper := toUpper_ofNat c.toNat hbasic
    rw [Char.ofNat_toNat] at hupper
    rw [upperChar, if_pos hbasic, hupper]
    split
    next hsmall =>
      right; right
      exact ⟨(0x61, 0x7a, 1, -32), List.mem_cons_self,
        mem_runCodes hsmall.1 hsmall.2 (Nat.mod_one _), rfl⟩
    next => exact .inl rfl
  · obtain ⟨entry, run, hupper, hentry, hrun⟩ := upperChar_eq hbasic
    rw [hupper]
    split
    next hcode =>
      right; left
      rcases hentry with hmem | rfl
      · exact ⟨entry, hmem, hcode, rfl⟩
      · omega
    next =>
      split
      next htest =>
        right; right
        rw [Bool.and_eq_true, decide_eq_true_eq, decide_eq_true_eq] at htest
        rcases hrun with ⟨hmem, hlast⟩ | rfl
        · exact ⟨run, hmem, mem_runCodes htest.1 hlast htest.2, rfl⟩
        · omega
      next => exact .inl rfl

/-- A character that the table does not change stays as it is. -/
theorem upperChar_of_not_mem_changed {c : Char} (h : c.toNat ∉ changed) :
  upperChar c = [c]
  := by
  rcases upperChar_cases c with hsame | ⟨entry, hmem, hcode, -⟩ | ⟨run, hmem, hrun, -⟩
  · exact hsame
  · apply absurd _ h
    exact List.mem_append_left _ (List.mem_map.mpr ⟨entry, hmem, hcode⟩)
  · apply absurd _ h
    exact List.mem_append_right _ (List.mem_flatMap.mpr ⟨run, hmem, hrun⟩)

/-- What the table leads to is led to as a character as well. -/
theorem reached_ofNat {n : Nat} (h : n ∈ reached) :
  (Char.ofNat n).toNat ∈ reached
  := by
  by_cases hvalid : n.isValidChar
  · rwa [show (Char.ofNat n).toNat = n by rw [Char.ofNat, dif_pos hvalid]; rfl]
  · rw [show Char.ofNat n = Char.ofNat 0 by rw [Char.ofNat, dif_neg hvalid]; rfl]
    exact List.mem_cons_self

set_option maxRecDepth 10000 in
theorem sequence_ne_nil :
  ∀ entry ∈ upperSequences.toList, entry.2 ≠ []
  := by
  decide

/-- A character stays as it is, or it becomes what the table leads to. -/
theorem upperChar_eq_or_reached (c : Char) :
  upperChar c = [c] ∨ upperChar c ≠ [] ∧ ∀ d ∈ upperChar c, d.toNat ∈ reached
  := by
  rcases upperChar_cases c with hsame | ⟨entry, hmem, -, hupper⟩ | ⟨run, hmem, hrun, hupper⟩
  · exact .inl hsame
  · right
    rw [hupper]
    use mt List.map_eq_nil_iff.mp (sequence_ne_nil entry hmem)
    intro d hd
    obtain ⟨n, hn, rfl⟩ := List.mem_map.mp hd
    apply reached_ofNat
    apply List.mem_append_left
    exact List.mem_cons_of_mem _ (List.mem_flatMap.mpr ⟨entry, hmem, hn⟩)
  · right
    rw [hupper]
    use List.cons_ne_nil _ _
    intro d hd
    obtain rfl := List.mem_singleton.mp hd
    apply reached_ofNat
    apply List.mem_append_right
    exact List.mem_flatMap.mpr ⟨run, hmem, List.mem_map.mpr ⟨c.toNat, hrun, rfl⟩⟩

/-! ## Texts in upper case -/

variable {c d : Char}

theorem upperChar_ne_nil (c : Char) :
  upperChar c ≠ []
  := by
  rcases upperChar_eq_or_reached c with hsame | ⟨hne, -⟩
  · rw [hsame]
    exact List.cons_ne_nil _ _
  · exact hne

/-- What a character becomes in upper case stays as it is. -/
theorem upperChar_of_mem (h : d ∈ upperChar c) :
  upperChar d = [d]
  := by
  rcases upperChar_eq_or_reached c with hsame | ⟨-, hreached⟩
  · rw [hsame, List.mem_singleton] at h
    rwa [h]
  · apply upperChar_of_not_mem_changed
    apply (not_mem_of_mem_reached (hreached d h)).1

theorem mem_blanks_of_isBlank (h : isBlank c = true) :
  c.toNat ∈ blanks
  := by
  simp only [isBlank, Bool.or_eq_true, Bool.and_eq_true, decide_eq_true_eq, beq_iff_eq] at h
  simp only [blanks, List.mem_append, List.mem_range'_1, List.mem_cons, List.not_mem_nil, or_false]
  omega

/-- What is not blank is not blank in upper case. -/
theorem isBlank_of_mem_upperChar (h : d ∈ upperChar c) (hc : isBlank c = false) :
  isBlank d = false
  := by
  rcases upperChar_eq_or_reached c with hsame | ⟨-, hreached⟩
  · rw [hsame, List.mem_singleton] at h
    rwa [h]
  · rw [← Bool.not_eq_true]
    intro hblank
    apply (not_mem_of_mem_reached (hreached d h)).2 (mem_blanks_of_isBlank hblank)

theorem toList_upper (s : String) :
  (upper s).toList = s.toList.flatMap upperChar
  := String.toList_ofList

/-- A text in upper case stays as it is in upper case. -/
theorem upper_upper (s : String) :
  upper (upper s) = upper s
  := by
  apply String.toList_injective
  rw [toList_upper, toList_upper, List.flatMap_assoc]
  congr 1
  funext c
  calc (upperChar c).flatMap upperChar
    _ = (upperChar c).flatMap fun d => [d] := List.flatMap_congr fun d hd => upperChar_of_mem hd
    _ = upperChar c := List.flatMap_singleton' _

/-! ## Texts without blanks at their ends -/

/-- Neither end of a text is blank. -/
def IsTrimmed (cs : List Char) : Prop :=
  ∀ h : cs ≠ [], isBlank (cs.head h) = false ∧ isBlank (cs.getLast h) = false

theorem isTrimmed_trimChars (cs : List Char) :
  IsTrimmed (trimChars cs)
  := by
  change IsTrimmed ((cs.dropWhile isBlank).rdropWhile isBlank)
  intro h
  constructor
  · rw [(List.rdropWhile_prefix _ _).head h]
    apply List.head_dropWhile_not
  · rw [← Bool.not_eq_true]
    apply List.rdropWhile_last_not

theorem trimChars_of_isTrimmed {cs : List Char} (h : IsTrimmed cs) :
  trimChars cs = cs
  := by
  have hfront : cs.dropWhile isBlank = cs := by
    rw [List.dropWhile_eq_self_iff]
    intro hne
    rw [Bool.not_eq_true, List.getElem_zero]
    apply (h (List.ne_nil_of_length_pos hne)).1
  have hback : cs.rdropWhile isBlank = cs := by
    rw [List.rdropWhile_eq_self_iff]
    intro hne
    rw [Bool.not_eq_true]
    apply (h hne).2
  change (cs.dropWhile isBlank).rdropWhile isBlank = cs
  rw [hfront, hback]

theorem trim_of_isTrimmed {s : String} (h : IsTrimmed s.toList) :
  trim s = s
  := by
  rw [trim, trimChars_of_isTrimmed h, String.ofList_toList]

theorem isTrimmed_of_forall {cs : List Char} (h : ∀ c ∈ cs, isBlank c = false) :
  IsTrimmed cs
  := fun hne => ⟨h _ (List.head_mem hne), h _ (List.getLast_mem hne)⟩

/-- Nothing is left of a text just when it is blank. -/
theorem trimChars_eq_nil_iff {cs : List Char} :
  trimChars cs = [] ↔ ∀ c ∈ cs, isBlank c = true
  := by
  change (cs.dropWhile isBlank).rdropWhile isBlank = [] ↔ _
  rw [List.rdropWhile_eq_nil_iff]
  constructor
  · intro h
    rw [← List.dropWhile_eq_nil_iff]
    by_contra hne
    have hhead := List.head_dropWhile_not isBlank hne
    rw [h _ (List.head_mem hne)] at hhead
    cases hhead
  · intro h
    rw [List.dropWhile_eq_nil_iff.mpr h]
    exact nofun

/-- Upper case leaves no blank at the ends where there is none. -/
theorem IsTrimmed.upper {cs : List Char} (h : IsTrimmed cs) :
  IsTrimmed (cs.flatMap upperChar)
  := by
  intro hne
  have hcs : cs ≠ [] := by
    rintro rfl
    exact hne rfl
  obtain ⟨hhead, hlast⟩ := h hcs
  constructor
  · apply isBlank_of_mem_upperChar _ hhead
    cases cs with
    | nil => exact absurd rfl hcs
    | cons c rest =>
        simp only [List.flatMap_cons, List.head_append_of_ne_nil (upperChar_ne_nil c)]
        apply List.head_mem
  · apply isBlank_of_mem_upperChar _ hlast
    obtain ⟨rest, c, rfl⟩ := (List.eq_nil_or_concat' cs).resolve_left hcs
    have hupper : (rest ++ [c]).flatMap upperChar = rest.flatMap upperChar ++ upperChar c := by
      rw [List.flatMap_append, List.flatMap_singleton]
    simp only [hupper, List.getLast_append_of_ne_nil _ (upperChar_ne_nil c),
      List.getLast_concat]
    apply List.getLast_mem

end VenueLink.Text

namespace VenueLink.Pair

theorem toList_assetName (s : String) :
  (assetName s).toList = (Text.trimChars s.toList).flatMap Text.upperChar
  := by
  rw [assetName, Text.toList_upper, Text.trim, String.toList_ofList]

theorem isTrimmed_assetName (s : String) :
  Text.IsTrimmed (assetName s).toList
  := by
  rw [toList_assetName]
  exact (Text.isTrimmed_trimChars s.toList).upper

/-- An asset name as it is kept is kept as it is. -/
theorem assetName_assetName (s : String) :
  assetName (assetName s) = assetName s
  := by
  rw [assetName, Text.trim_of_isTrimmed (isTrimmed_assetName s), assetName, Text.upper_upper]

/-- A name that is not blank is not blank as it is kept. -/
theorem isAllBlank_assetName {s : String} (h : Text.isAllBlank s = false) :
  Text.isAllBlank (assetName s) = false
  := by
  have hne : (assetName s).toList ≠ [] := by
    rw [toList_assetName, ne_eq, List.flatMap_eq_nil_iff]
    intro hnil
    have htrim : Text.trimChars s.toList = [] := by
      rw [List.eq_nil_iff_forall_not_mem]
      intro c hc
      exact Text.upperChar_ne_nil c (hnil c hc)
    rw [Text.trimChars_eq_nil_iff, ← List.all_eq_true] at htrim
    rw [Text.isAllBlank, htrim] at h
    cases h
  rw [Text.isAllBlank, List.all_eq_false]
  refine ⟨_, List.head_mem hne, ?_⟩
  rw [(isTrimmed_assetName s hne).1]
  exact Bool.false_ne_true

end VenueLink.Pair
