import VenueLink.Json.Parser
import VenueLink.Json.Printer
import Mathlib.Tactic.Common

/-!
# The text of data values

What is written is read back: the compact text of a value without numbers denotes the value,
as long as its members are sorted by key and its depth is allowed.  Every call of a reader
consumes a character or is followed by one that does, so twice the length of a text bounds
the calls.
-/

namespace VenueLink.Json

/-! ## Strings -/

theorem hex4?_lowerHex {n : Nat} (h : n < 256) :
  hex4? '0' '0' (Text.lowerHex (n / 16)) (Text.lowerHex (n % 16)) = some n
  := by
  have hzero : Text.hexValue? '0' = some 0 := by decide
  have hhigh := Text.hexValue?_lowerHex (n / 16) (by omega)
  have hlow := Text.hexValue?_lowerHex (n % 16) (by omega)
  simp only [hex4?, hzero, hhigh, hlow, Option.bind_eq_bind, Option.bind_some, Option.pure_def]
  congr 1
  omega

/-- A character that is escaped where it has to be is read back. -/
theorem readString?_escapeChar (c : Char) (rest : List Char) :
  readString? (escapeChar c ++ rest) = (readString? rest).map fun (s, tail) => (c :: s, tail)
  := by
  unfold escapeChar
  split
  case isTrue h => simp [h, readString?, simpleEscape?]
  split
  case isTrue h => simp [h, readString?, simpleEscape?]
  split
  case isTrue h => simp [h, readString?, simpleEscape?]
  split
  case isTrue h => simp [h, readString?, simpleEscape?]
  split
  case isTrue h => simp [h, readString?, simpleEscape?]
  split
  case isTrue h => simp [h, readString?, simpleEscape?]
  split
  case isTrue h => simp [h, readString?, simpleEscape?]
  split
  case isTrue h =>
    have hhex := @hex4?_lowerHex c.toNat (by omega)
    simp only [List.cons_append, List.nil_append, readString?, hhex]
    rw [if_neg (by omega), if_neg (by omega), Char.ofNat_toNat]
  case isFalse hquote hbackslash _ _ _ _ _ hcontrol =>
    have hplain : ¬(c = '\\' ∨ c.toNat < 0x20) := by simp only [hbackslash, hcontrol, or_self,
      not_false_eq_true]
    rw [List.singleton_append, readString?, if_neg hplain]
    · exact hquote
    · exact fun _ _ _ _ _ h => absurd h hbackslash
    · exact fun _ _ h => absurd h hbackslash

/-- A text in quotes is read back. -/
theorem readString?_flatMap_escapeChar (cs rest : List Char) :
  readString? (cs.flatMap escapeChar ++ '"' :: rest) = some (cs, rest)
  := by
  induction cs with
  | nil => rw [List.flatMap_nil, List.nil_append, readString?]
  | cons c cs ih =>
      rw [List.flatMap_cons, List.append_assoc, readString?_escapeChar, ih]
      rfl

/-! ## Members -/

namespace Members

theorem insert_of_lt {members : Members} {key : String} (value : Json)
    (h : ∀ m ∈ members, m.1 < key) :
  members.insert key value = members ++ [(key, value)]
  := by
  fun_induction insert key value members with
  | case1 => rfl
  | case2 v rest => exact absurd (h _ List.mem_cons_self) (String.lt_irrefl key)
  | case3 k v rest hne hlt =>
      exact absurd (String.lt_trans hlt (h _ List.mem_cons_self)) (String.lt_irrefl key)
  | case4 k v rest hne hlt ih =>
      rw [ih fun m hm => h m (List.mem_cons_of_mem _ hm)]
      rfl

/-- Members that are sorted by key stay as they are. -/
theorem ofList_of_pairwise {pairs : Members} (h : pairs.Pairwise fun a b => a.1 < b.1) :
  ofList pairs = pairs
  := by
  have hall : ∀ sorted : Members, (sorted ++ pairs).Pairwise (fun a b => a.1 < b.1) →
      pairs.foldl (fun members pair => members.insert pair.1 pair.2) sorted
        = sorted ++ pairs := by
    clear h
    induction pairs with
    | nil =>
        intro sorted _
        exact (List.append_nil sorted).symm
    | cons pair rest ih =>
        intro sorted h
        have hlt : ∀ m ∈ sorted, m.1 < pair.1 := fun m hm =>
          (List.pairwise_append.mp h).2.2 m hm pair List.mem_cons_self
        have hsorted : sorted ++ pair :: rest = sorted ++ [pair] ++ rest := by simp
        rw [hsorted] at h ⊢
        rw [List.foldl_cons, insert_of_lt pair.2 hlt]
        exact ih _ h
  exact hall [] h

end Members

/-! ## Values -/

/-- A value is plain if it has no numbers, its members are sorted by key, and at most so many
of its arrays and objects are inside each other. -/
inductive Plain : Nat → Json → Prop where
  | null {depth : Nat} : Plain depth .null
  | bool {depth : Nat} (b : Bool) : Plain depth (.bool b)
  | str {depth : Nat} (s : String) : Plain depth (.str s)
  | arr {depth : Nat} {items : List Json} (h : ∀ v ∈ items, Plain depth v) :
    Plain (depth + 1) (.arr items)
  | obj {depth : Nat} {members : Members} (hkeys : members.Pairwise fun a b => a.1 < b.1)
    (h : ∀ m ∈ members, Plain depth m.2) :
    Plain (depth + 1) (.obj members)

/-- A value is read back from its text, whatever follows. -/
def Reads (depth : Nat) (v : Json) : Prop :=
  ∀ fuel rest, 2 * v.chars.length ≤ fuel →
    readValue? fuel depth (v.chars ++ rest) = some (v, rest)

variable {depth fuel : Nat} {v : Json}

theorem skipSpace_of_not_isSpace {c : Char} (rest : List Char) (h : isSpace c = false) :
  skipSpace (c :: rest) = c :: rest
  := by
  rw [skipSpace, List.dropWhile_cons_of_neg]
  rw [h]
  exact Bool.false_ne_true

/-- The text of a plain value begins with a character of its own. -/
theorem Plain.chars_eq_cons (h : Plain depth v) :
  ∃ c rest, v.chars = c :: rest ∧ isSpace c = false ∧ c ≠ ']'
  := by
  cases h with
  | null => exact ⟨_, _, rfl, by decide, by decide⟩
  | bool b =>
      cases b with
      | false => exact ⟨_, _, rfl, by decide, by decide⟩
      | true => exact ⟨_, _, rfl, by decide, by decide⟩
  | str s => exact ⟨_, _, rfl, by decide, by decide⟩
  | @arr depth items h =>
      cases items with
      | nil => exact ⟨_, _, rfl, by decide, by decide⟩
      | cons item rest => exact ⟨_, _, by rw [chars]; rfl, by decide, by decide⟩
  | @obj depth members hkeys h =>
      cases members with
      | nil => exact ⟨_, _, rfl, by decide, by decide⟩
      | cons m rest => exact ⟨_, _, by rw [chars]; rfl, by decide, by decide⟩

/-- Items that are read back are read back one after the other. -/
theorem readItems?_chars {item : Json} {items : List Json}
    (h : ∀ v ∈ item :: items, Reads depth v) (rest : List Char)
    (hfuel : 2 * (item.chars ++ itemChars items).length + 1 ≤ fuel) :
  readItems? fuel depth (item.chars ++ itemChars items ++ rest) = some (item :: items, rest)
  := by
  induction items generalizing item fuel with
  | nil =>
      obtain ⟨fuel, rfl⟩ : ∃ n, fuel = n + 1 := ⟨fuel - 1, by omega⟩
      rw [List.length_append] at hfuel
      rw [readItems?, List.append_assoc, h item List.mem_cons_self fuel _ (by omega)]
      rfl
  | cons next items ih =>
      obtain ⟨fuel, rfl⟩ : ∃ n, fuel = n + 1 := ⟨fuel - 1, by omega⟩
      rw [List.length_append, itemChars, List.length_append, List.length_cons] at hfuel
      have hrest : readItems? fuel depth (next.chars ++ itemChars items ++ rest)
          = some (next :: items, rest) := by
        apply ih fun v hv => h v (List.mem_cons_of_mem item hv)
        rw [List.length_append]
        omega
      rw [readItems?, List.append_assoc, h item List.mem_cons_self fuel _ (by omega), itemChars]
      simp only [List.cons_append, skipSpace_of_not_isSpace _ (show isSpace ',' = false by decide)]
      rw [hrest]
      rfl

theorem quote_append (s : String) (rest : List Char) :
  quote s ++ rest = '"' :: (s.toList.flatMap escapeChar ++ '"' :: rest)
  := by
  simp [quote]

/-- A member is followed by the end of its object or by more members. -/
def readAfterMember? (fuel depth : Nat) (m : String × Json) (rest : List Char) :
    Option (Members × List Char) :=
  match skipSpace rest with
  | '}' :: tail => some ([m], tail)
  | ',' :: rest => (readMembers? fuel depth rest).map fun (pairs, tail) => (m :: pairs, tail)
  | _ => none

/-- A member whose value is read back is read back, and then what follows it. -/
theorem readMembers?_cons {m : String × Json} (h : Reads depth m.2) (rest : List Char)
    (hfuel : 2 * m.2.chars.length ≤ fuel) :
  readMembers? (fuel + 1) depth (quote m.1 ++ ':' :: m.2.chars ++ rest)
    = readAfterMember? fuel depth m rest
  := by
  obtain ⟨key, value⟩ := m
  have hquote : isSpace '"' = false := by decide
  have hcolon : isSpace ':' = false := by decide
  rw [List.append_assoc, quote_append, readMembers?]
  simp only [List.cons_append, skipSpace_of_not_isSpace _ hquote,
    readString?_flatMap_escapeChar, skipSpace_of_not_isSpace _ hcolon, h fuel rest hfuel,
    String.ofList_toList]
  rfl

/-- Members whose values are read back are read back one after the other. -/
theorem readMembers?_chars {m : String × Json} {members : Members}
    (h : ∀ m' ∈ m :: members, Reads depth m'.2) (rest : List Char)
    (hfuel : 2 * (quote m.1 ++ ':' :: m.2.chars ++ memberChars members).length ≤ fuel) :
  readMembers? fuel depth (quote m.1 ++ ':' :: m.2.chars ++ memberChars members ++ rest)
    = some (m :: members, rest)
  := by
  induction members generalizing m fuel with
  | nil =>
      obtain ⟨fuel, rfl⟩ : ∃ n, fuel = n + 1 := ⟨fuel - 1, by simp at hfuel; omega⟩
      rw [List.append_assoc, readMembers?_cons (h m List.mem_cons_self)]
      · rfl
      · simp at hfuel
        omega
  | cons next members ih =>
      obtain ⟨fuel, rfl⟩ : ∃ n, fuel = n + 1 := ⟨fuel - 1, by simp at hfuel; omega⟩
      have hrest : readMembers? fuel depth
          (quote next.1 ++ ':' :: next.2.chars ++ memberChars members ++ rest)
          = some (next :: members, rest) := by
        apply ih fun m' hm' => h m' (List.mem_cons_of_mem m hm')
        simp [memberChars] at hfuel ⊢
        omega
      rw [List.append_assoc, readMembers?_cons (h m List.mem_cons_self)]
      · rw [memberChars, readAfterMember?]
        simp only [List.cons_append,
          skipSpace_of_not_isSpace _ (show isSpace ',' = false by decide)]
        rw [hrest]
        rfl
      · simp at hfuel
        omega

theorem reads_of_succ (hne : v.chars ≠ [])
    (h : ∀ fuel rest, 2 * v.chars.length ≤ fuel + 1 →
      readValue? (fuel + 1) depth (v.chars ++ rest) = some (v, rest)) :
  Reads depth v
  := by
  intro fuel rest hfuel
  cases fuel with
  | zero =>
      have := List.length_pos_iff.mpr hne
      omega
  | succ fuel => exact h fuel rest hfuel

theorem readValue?_arr {c : Char} (rest : List Char) (hspace : isSpace c = false)
    (hclose : c ≠ ']') :
  readValue? (fuel + 1) (depth + 1) ('[' :: c :: rest)
    = (readItems? fuel depth (c :: rest)).map fun (items, tail) => (.arr items, tail)
  := by
  rw [readValue?, skipSpace_of_not_isSpace _ (by decide)]
  simp only [Nat.add_one_ne_zero, if_false, skipSpace_of_not_isSpace _ hspace]
  split
  case h_1 heq => exact absurd (List.cons.inj heq).1 hclose
  case h_2 => rfl

theorem readValue?_obj (rest : List Char) :
  readValue? (fuel + 1) (depth + 1) ('{' :: '"' :: rest)
    = (readMembers? fuel depth ('"' :: rest)).map fun (pairs, tail) => (object pairs, tail)
  := by
  rw [readValue?, skipSpace_of_not_isSpace _ (by decide)]
  simp only [Nat.add_one_ne_zero, if_false,
    skipSpace_of_not_isSpace rest (show isSpace '"' = false by decide)]
  rfl

/-- An array is read back if its items are. -/
theorem reads_arr {items : List Json} (hplain : ∀ v ∈ items, Plain depth v)
    (h : ∀ v ∈ items, Reads depth v) :
  Reads (depth + 1) (.arr items)
  := by
  apply reads_of_succ (by cases items <;> simp [chars])
  intro fuel rest hfuel
  cases items with
  | nil => rfl
  | cons item items =>
      -- The reader tells an empty array by the character after the bracket.
      obtain ⟨c, cs, hchars, hspace, hclose⟩ := (hplain item List.mem_cons_self).chars_eq_cons
      have hitems : readItems? fuel depth (item.chars ++ itemChars items ++ rest)
          = some (item :: items, rest) := by
        apply readItems?_chars h
        simp [chars] at hfuel ⊢
        omega
      rw [hchars] at hitems
      rw [chars, hchars]
      simp only [List.cons_append] at hitems ⊢
      rw [readValue?_arr _ hspace hclose, hitems]
      rfl

/-- An object is read back if the values of its members are. -/
theorem reads_obj {members : Members} (hkeys : members.Pairwise fun a b => a.1 < b.1)
    (h : ∀ m ∈ members, Reads depth m.2) :
  Reads (depth + 1) (.obj members)
  := by
  apply reads_of_succ (by cases members <;> simp [chars])
  intro fuel rest hfuel
  cases members with
  | nil => rfl
  | cons m members =>
      have hmembers : readMembers? fuel depth
          (quote m.1 ++ ':' :: m.2.chars ++ memberChars members ++ rest)
          = some (m :: members, rest) := by
        apply readMembers?_chars h
        simp [chars] at hfuel ⊢
        omega
      obtain ⟨key, value⟩ := m
      rw [chars]
      simp only [List.cons_append, List.append_assoc, quote_append] at hmembers ⊢
      rw [readValue?_obj, hmembers]
      change some (Json.obj (Members.ofList ((key, value) :: members)), rest) = _
      rw [Members.ofList_of_pairwise hkeys]

/-- A plain value is read back from its text. -/
theorem Plain.reads (h : Plain depth v) :
  Reads depth v
  := by
  induction h with
  | null => exact reads_of_succ (by simp [chars]) fun _ _ _ => rfl
  | bool b =>
      cases b with
      | false => exact reads_of_succ (by simp [chars]) fun _ _ _ => rfl
      | true => exact reads_of_succ (by simp [chars]) fun _ _ _ => rfl
  | str s =>
      apply reads_of_succ (by simp [chars, quote])
      intro fuel rest _
      rw [chars, quote_append]
      change (readString? _).map _ = _
      rw [readString?_flatMap_escapeChar]
      simp
  | arr h ih => exact reads_arr h ih
  | obj hkeys h ih => exact reads_obj hkeys ih

/-- The text of a plain value denotes the value. -/
theorem parse?_render (h : Plain maxDepth v) :
  parse? v.render = some v
  := by
  have hread := h.reads (2 * v.chars.length + 2) [] (by omega)
  rw [List.append_nil] at hread
  rw [parse?, render, String.toList_ofList, hread]
  rfl

end VenueLink.Json
