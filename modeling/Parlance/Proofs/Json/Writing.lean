import Mathlib
import Parlance.Json.Writer
import Parlance.Proofs.Json.Reading

/-!
# Reading what was written

The compact text of a value is read as the value, wherever in a JSON text it stands. Of a number
that is no integer this is assumed: not every double is read as it is written.

Results:
1. `readString_escaped`: every string is read from its literal.
2. `legible_integer`, `legible_array`, `legible_object`: so is an integer of 64 bits, and a list or
   an object of values that are.
3. `legible_of_readable`: so is every value that is not nested too deep.
-/

namespace Parlance.Json

/-! ## Definitions -/

/-- A text as it may stand behind a value: none, or one that goes on behind an item or a member. -/
def Ends (rest : List Char) : Prop :=
  ∀ c ∈ rest.head?, c = ',' ∨ c = ']' ∨ c = '\x7d'

/-- The compact text of the value is read as the value where `room` brackets may be opened. -/
def Legible (room : Nat) (j : Json) : Prop :=
  ∀ rest, Ends rest → readValue room (j.compact.toList ++ rest) = .ok (j, rest)

/-- A value that is nested at most `room` deep, with integers of 64 bits and with no other number
that is not read as it is written. -/
inductive Readable : (room : Nat) → Json → Prop
  | null {room : Nat} : Readable room .null
  | bool {room : Nat} (b : Bool) : Readable room (.bool b)
  | integer {room : Nat} {n : Int} : -2 ^ 63 ≤ n → n < 2 ^ 64 → Readable room (.integer n)
  | real {room : Nat} {x : Finite} : Legible room (.real x) → Readable room (.real x)
  | string {room : Nat} (s : String) : Readable room (.string s)
  | array {room : Nat} {items : List Json} : (∀ item ∈ items, Readable room item) →
      Readable (room + 1) (.array items)
  | object {room : Nat} {members : List (String × Json)} : (∀ m ∈ members, Readable room m.2) →
      Readable (room + 1) (.object members)

/-- What stands before an item or a member: nothing if it is the first. -/
def lead (first : Bool) : String :=
  if first then "" else ","

/-! ## Ends -/

theorem ends_nil : Ends [] :=
  fun _ h => nomatch h

theorem ends_cons {c : Char} (h : c = ',' ∨ c = ']' ∨ c = '\x7d') (rest : List Char) :
    Ends (c :: rest) := by
  rintro _ ⟨⟩
  exact h

/-! ## Strings -/

theorem hexValue_hexDigit : ∀ n < 16, hexValue (hexDigit n) = some n := by
  decide

theorem numberedEscape_of_lt {c : Char} (h : c.toNat < 0x20) (rest : List Char) :
    numberedEscape ('0' :: '0' :: hexDigit (c.toNat / 16) :: hexDigit (c.toNat % 16) :: rest) =
      .ok (c, rest) := by
  have hfour : fourHex '0' '0' (hexDigit (c.toNat / 16)) (hexDigit (c.toNat % 16)) =
      some c.toNat := by
    have hzero : hexValue '0' = some 0 := rfl
    have hnumber : ((0 * 16 + 0) * 16 + c.toNat / 16) * 16 + c.toNat % 16 = c.toNat := by omega
    rw [fourHex, hzero, hexValue_hexDigit _ (by omega), hexValue_hexDigit _ (by omega)]
    exact congrArg some hnumber
  have hlow : (decide (0xDC00 ≤ c.toNat) && decide (c.toNat ≤ 0xDFFF)) = false := by
    simp only [Bool.and_eq_false_iff, decide_eq_false_iff_not]
    omega
  have hhigh : (decide (0xD800 ≤ c.toNat) && decide (c.toNat ≤ 0xDBFF)) = false := by
    simp only [Bool.and_eq_false_iff, decide_eq_false_iff_not]
    omega
  rw [numberedEscape, hexEscape]
  simp only [hfour, hlow, hhigh, Bool.false_eq_true, if_false, Char.ofNat_toNat]

/-- A character is read from what it is written as. -/
theorem stringBody_escapedChar (fuel : Nat) (seen : List Char) (c : Char) (rest : List Char) :
    stringBody (fuel + 1) seen (escapedChar c ++ rest) = stringBody fuel (c :: seen) rest := by
  unfold escapedChar
  split
  case h_8 hquote hbackslash _ _ _ _ _ =>
    dsimp only
    split
    · next hlt =>
      simp only [List.cons_append, List.nil_append]
      rw [stringBody, escape, numberedEscape_of_lt hlt]
    · next hge =>
      rw [List.singleton_append, stringBody, if_neg hge]
      · exact hquote
      · exact hbackslash
  all_goals rfl

theorem stringBody_escaped (cs rest : List Char) {fuel : Nat} (h : cs.length < fuel)
    (seen : List Char) :
    stringBody fuel seen (cs.flatMap escapedChar ++ '"' :: rest) =
      .ok (String.ofList (seen.reverse ++ cs), rest) := by
  induction cs generalizing fuel seen with
  | nil =>
    cases fuel with
    | zero => cases h
    | succ fuel =>
      rw [List.append_nil]
      rfl
  | cons c cs ih =>
    cases fuel with
    | zero => cases h
    | succ fuel =>
      rw [List.flatMap_cons, List.append_assoc, stringBody_escapedChar,
        ih (Nat.lt_of_succ_lt_succ h), List.reverse_cons, List.append_assoc]
      rfl

theorem escapedChar_length_pos (c : Char) : 0 < (escapedChar c).length := by
  unfold escapedChar
  split
  case h_8 =>
    dsimp only
    split <;> exact Nat.zero_lt_succ _
  all_goals exact Nat.zero_lt_succ _

theorem length_le_length_escaped (cs : List Char) :
    cs.length ≤ (cs.flatMap escapedChar).length := by
  induction cs with
  | nil => exact Nat.le_refl _
  | cons c cs ih =>
    have hpos := escapedChar_length_pos c
    rw [List.flatMap_cons, List.length_append, List.length_cons]
    omega

theorem readString_escaped (s : String) (rest : List Char) :
    readString (s.toList.flatMap escapedChar ++ '"' :: rest) = .ok (s, rest) := by
  have hlength := length_le_length_escaped s.toList
  rw [readString, stringBody_escaped _ _ (by rw [List.length_append]; omega), List.reverse_nil,
    List.nil_append, String.ofList_toList]

theorem toList_stringLiteral (s : String) (rest : List Char) :
    (stringLiteral s).toList ++ rest = '"' :: (s.toList.flatMap escapedChar ++ '"' :: rest) := by
  simp [stringLiteral]

/-! ## Integers -/

theorem le_ofDigitChars (cs : List Char) (n : Nat) : n ≤ Nat.ofDigitChars 10 cs n := by
  induction cs generalizing n with
  | nil => exact Nat.le_refl _
  | cons c cs ih =>
    rw [Nat.ofDigitChars_cons]
    exact Nat.le_trans (by omega) (ih _)

/-- Digits are added up as long as they stay below the limit. -/
theorem accumulate_digits {digits rest : List Char} (hdigits : ∀ c ∈ digits, c.isDigit = true)
    (hrest : ∀ c ∈ rest.head?, c.isDigit = false) {n : Nat}
    (hlimit : Nat.ofDigitChars 10 digits n < significandLimit) :
    accumulate n (digits ++ rest) = (Nat.ofDigitChars 10 digits n, digits.length, rest) := by
  induction digits generalizing n with
  | nil =>
    cases rest with
    | nil => rfl
    | cons c rest =>
      rw [List.nil_append, accumulate]
      simp only [hrest c rfl, Bool.false_and, Bool.false_eq_true, if_false]
      rfl
  | cons d digits ih =>
    rw [Nat.ofDigitChars_cons] at hlimit ⊢
    have hd : d.isDigit = true := hdigits d List.mem_cons_self
    have hnext : 10 * n + (d.toNat - '0'.toNat) < significandLimit :=
      Nat.lt_of_le_of_lt (le_ofDigitChars digits _) hlimit
    rw [List.cons_append, accumulate]
    simp only [hd, hnext, decide_true, Bool.and_self, if_true,
      ih (fun c hc => hdigits c (List.mem_cons_of_mem d hc)) hlimit, List.length_cons]

theorem Ends.not_isDigit {rest : List Char} (h : Ends rest) :
    ∀ c ∈ rest.head?, c.isDigit = false := by
  intro c hc
  rcases h c hc with rfl | rfl | rfl <;> rfl

theorem wholeEnd_of_ends (negative : Bool) (n : Nat) {rest : List Char} (h : Ends rest) :
    wholeEnd negative n rest =
      if !negative then .ok (.integer n, rest)
      else if 0 < n && n ≤ twoTo 63 then .ok (.integer (-n), rest)
      else ofParts true n 0 rest := by
  cases rest with
  | nil => rfl
  | cons c rest => rcases h c rfl with rfl | rfl | rfl <;> rfl

/-- A positive number does not begin with a zero. -/
theorem exists_decimal_of_pos {n : Nat} (h : 0 < n) : ∃ d ds, decimal n = d :: ds ∧ d ≠ '0' := by
  induction n using Nat.strongRecOn with
  | ind n ih =>
    by_cases hlt : n < 10
    · refine ⟨n.digitChar, [], Nat.toDigits_of_lt_base hlt, ?_⟩
      have hall : ∀ m < 10, 0 < m → m.digitChar ≠ '0' := by decide
      exact hall n hlt h
    · obtain ⟨d, ds, heq, hd⟩ := ih (n / 10) (by omega) (by omega)
      refine ⟨d, ds ++ [(n % 10).digitChar], ?_, hd⟩
      rw [decimal, Nat.toDigits_of_base_le (by decide) (Nat.le_of_not_lt hlt), ← decimal, heq]
      rfl

theorem readNumber_decimal (negative : Bool) {n : Nat} (hn : n < significandLimit)
    {rest : List Char} (hrest : Ends rest) :
    readNumber negative (decimal n ++ rest) = wholeEnd negative n rest := by
  rcases Nat.eq_zero_or_pos n with rfl | hpos
  · change readNumber negative ('0' :: rest) = _
    cases rest with
    | nil => rfl
    | cons c rest =>
      rw [readNumber]
      simp only [hrest.not_isDigit c rfl, Bool.false_eq_true, if_false]
  · have hvalue : Nat.ofDigitChars 10 (decimal n) 0 = n :=
      Nat.ofDigitChars_toDigits (by decide) (by decide)
    have haccumulate : accumulate 0 (decimal n ++ rest) = (n, (decimal n).length, rest) := by
      have h := accumulate_digits (fun c => isDigit_of_mem_decimal) hrest.not_isDigit
        (hvalue.symm ▸ hn)
      rw [h, hvalue]
    have hexcess : rest.takeWhile Char.isDigit = [] := by
      cases rest with
      | nil => rfl
      | cons c rest => rw [List.takeWhile_cons_of_neg (by simp [hrest.not_isDigit c rfl])]
    obtain ⟨d, ds, heq, hd⟩ := exists_decimal_of_pos hpos
    have hdigit : d.isDigit = true := isDigit_of_mem_decimal (heq ▸ List.mem_cons_self)
    rw [heq, List.cons_append] at haccumulate ⊢
    rw [readNumber]
    · simp only [haccumulate, hexcess, hdigit, Bool.not_true, Bool.false_eq_true, if_false,
        List.isEmpty_nil, if_true, List.length_nil, List.drop_zero]
    · exact hd

/-! ## Values without parts -/

theorem skipSpace_of_not_isSpace {c : Char} (h : isSpace c = false) (cs : List Char) :
    skipSpace (c :: cs) = c :: cs :=
  List.dropWhile_cons_of_neg (by simp [h])

theorem readValue_of_digit {c : Char} (h : c.isDigit = true) (room : Nat) (cs : List Char) :
    readValue room (c :: cs) = readNumber false (c :: cs) := by
  have hspace : isSpace c = false := by
    simp only [isSpace, Bool.or_eq_false_iff, beq_eq_false_iff_ne]
    refine ⟨⟨⟨?_, ?_⟩, ?_⟩, ?_⟩ <;> (rintro rfl; cases h)
  rw [readValue_eq, valueWith, skipSpace_of_not_isSpace hspace]
  split
  case h_9 d rest _ _ _ _ _ _ _ heq =>
    cases heq
    rw [if_pos h]
  case h_1 heq => cases heq
  all_goals
    rename_i heq
    cases heq
    cases h

theorem legible_null (room : Nat) : Legible room .null := by
  intro rest _
  rw [readValue_eq]
  rfl

theorem legible_bool (room : Nat) (b : Bool) : Legible room (.bool b) := by
  intro rest _
  rw [readValue_eq]
  cases b <;> rfl

theorem readValue_of_quote {cs rest : List Char} {s : String} (h : readString cs = .ok (s, rest))
    (room : Nat) : readValue room ('"' :: cs) = .ok (.string s, rest) := by
  rw [readValue_eq, valueWith, skipSpace_of_not_isSpace rfl]
  simp only [h]

theorem readValue_of_minus (room : Nat) (cs : List Char) :
    readValue room ('-' :: cs) = readNumber true cs := by
  rw [readValue_eq]
  rfl

theorem legible_string (room : Nat) (s : String) : Legible room (.string s) := by
  intro rest _
  rw [compact, atom, toList_stringLiteral]
  · exact readValue_of_quote (readString_escaped s rest) room
  · nofun
  · nofun

theorem legible_integer (room : Nat) {n : Int} (hlow : -2 ^ 63 ≤ n) (hhigh : n < 2 ^ 64) :
    Legible room (.integer n) := by
  intro rest hrest
  have hlimit : significandLimit = 2 ^ 64 := rfl
  rw [compact, atom, String.toList_ofList]
  · cases n with
    | ofNat n =>
      have hn : n < significandLimit := by
        have hhigh' : (n : Int) < 2 ^ 64 := hhigh
        omega
      obtain ⟨d, ds, heq⟩ : ∃ d ds, decimal n = d :: ds :=
        List.exists_cons_of_ne_nil Nat.toDigits_ne_nil
      have hdigit : d.isDigit = true := isDigit_of_mem_decimal (heq ▸ List.mem_cons_self)
      change readValue room (decimal n ++ rest) = _
      rw [heq, List.cons_append, readValue_of_digit hdigit, ← List.cons_append, ← heq,
        readNumber_decimal false hn hrest, wholeEnd_of_ends false n hrest]
      rfl
    | negSucc n =>
      have hn : n + 1 ≤ twoTo 63 := by
        have htwo : twoTo 63 = 2 ^ 63 := rfl
        omega
      change readValue room ('-' :: (decimal (n + 1) ++ rest)) = _
      have hpart : (decide (0 < n + 1) && decide (n + 1 ≤ twoTo 63)) = true := by
        simp only [Nat.zero_lt_succ, hn, decide_true, Bool.and_self]
      rw [readValue_of_minus, readNumber_decimal true (by omega) hrest,
        wholeEnd_of_ends true _ hrest, hpart]
      rfl
  · nofun
  · nofun

/-! ## Lists -/

theorem readValue_skipSpace (room : Nat) (cs : List Char) :
    readValue room (skipSpace cs) = readValue room cs := by
  have hskip : skipSpace (skipSpace cs) = skipSpace cs := List.dropWhile_idempotent _ _
  rw [readValue_eq, readValue_eq, valueWith, valueWith, hskip]

/-- Where a value can be read there is a character that does not close a list. -/
theorem exists_skipSpace_of_readValue {room : Nat} {cs rest : List Char} {j : Json}
    (h : readValue room cs = .ok (j, rest)) : ∃ c behind, skipSpace cs = c :: behind ∧ c ≠ ']' := by
  rw [readValue_eq, valueWith] at h
  cases hspace : skipSpace cs with
  | nil =>
    rw [hspace] at h
    cases h
  | cons c behind =>
    refine ⟨c, behind, rfl, ?_⟩
    rintro rfl
    rw [hspace] at h
    cases h

theorem nextItem_lead {room : Nat} {cs rest : List Char} {j : Json}
    (h : readValue room cs = .ok (j, rest)) (first : Bool) :
    nextItem first ((lead first).toList ++ cs) = .ok (some (), skipSpace cs) := by
  obtain ⟨c, behind, hspace, hc⟩ := exists_skipSpace_of_readValue h
  cases first with
  | true =>
    change nextItem true cs = _
    rw [nextItem, hspace]
    split
    · next heq => cases heq
    · next heq =>
      cases heq
      exact absurd rfl hc
    · next heq =>
      cases heq
      rfl
  | false =>
    have hcomma : skipSpace (',' :: cs) = ',' :: cs := skipSpace_of_not_isSpace rfl cs
    change nextItem false (',' :: cs) = _
    unfold nextItem
    split
    · next heq => cases hcomma.symm.trans heq
    · next heq => cases hcomma.symm.trans heq
    · next heq =>
      obtain ⟨rfl, rfl⟩ := List.cons.inj (hcomma.symm.trans heq)
      rw [if_neg Bool.false_ne_true, if_pos rfl, hspace]
      split
      · next heq => cases heq
      · next heq =>
        cases heq
        exact absurd rfl hc
      · rfl

theorem ends_compactItems (items : List Json) (rest : List Char) :
    Ends ((compactItems "," items).toList ++ ']' :: rest) := by
  cases items with
  | nil => exact ends_cons (by decide) rest
  | cons j items =>
    simp only [compactItems, String.toList_append, List.append_assoc]
    exact ends_cons (by decide) _

theorem readItems_compactItems {room : Nat} {items : List Json}
    (h : ∀ item ∈ items, Legible room item) (seen : List Json) (rest : List Char) :
    readItems room seen ((compactItems (lead seen.isEmpty) items).toList ++ ']' :: rest) =
      .ok (.array (seen.reverse ++ items), rest) := by
  induction items generalizing seen with
  | nil =>
    rw [readItems_eq, List.append_nil]
    rfl
  | cons j items ih =>
    have hj : readValue room (j.compact.toList ++
        ((compactItems "," items).toList ++ ']' :: rest)) =
        .ok (j, (compactItems "," items).toList ++ ']' :: rest) :=
      h j List.mem_cons_self _ (ends_compactItems items rest)
    have hmore := ih (fun item hitem => h item (List.mem_cons_of_mem j hitem)) (j :: seen)
    rw [compactItems, String.toList_append, String.toList_append, List.append_assoc,
      List.append_assoc, readItems_eq, nextItem_lead hj, partsWith,
      readValue_skipSpace, hj]
    rw [List.reverse_cons, List.append_assoc] at hmore
    exact hmore

theorem legible_array {room : Nat} {items : List Json} (h : ∀ item ∈ items, Legible room item) :
    Legible (room + 1) (.array items) := by
  intro rest _
  have htext : (compact (.array items)).toList ++ rest =
      '[' :: ((compactItems (lead true) items).toList ++ ']' :: rest) := by
    simp [compact, lead]
  rw [htext, readValue_eq]
  exact readItems_compactItems h [] rest

/-! ## Objects -/

theorem readName_escaped (name : String) (rest : List Char) :
    readName (name.toList.flatMap escapedChar ++ '"' :: ':' :: rest) = .ok (some name, rest) := by
  rw [readName, readString_escaped]
  rfl

theorem nextName_lead (first : Bool) (name : String) (rest : List Char) :
    nextName first ((lead first).toList ++ ((stringLiteral name).toList ++ ':' :: rest)) =
      .ok (some name, rest) := by
  rw [toList_stringLiteral]
  cases first with
  | true => exact readName_escaped name rest
  | false => exact readName_escaped name rest

theorem ends_compactMembers (members : List (String × Json)) (rest : List Char) :
    Ends ((compactMembers "," members).toList ++ '\x7d' :: rest) := by
  cases members with
  | nil => exact ends_cons (by decide) rest
  | cons m members =>
    obtain ⟨name, j⟩ := m
    simp only [compactMembers, String.toList_append, List.append_assoc]
    exact ends_cons (by decide) _

theorem readMembers_compactMembers {room : Nat} {members : List (String × Json)}
    (h : ∀ m ∈ members, Legible room m.2) (seen : List (String × Json)) (rest : List Char) :
    readMembers room seen
        ((compactMembers (lead seen.isEmpty) members).toList ++ '\x7d' :: rest) =
      .ok (.object (seen.reverse ++ members), rest) := by
  induction members generalizing seen with
  | nil =>
    rw [readMembers_eq, List.append_nil]
    rfl
  | cons m members ih =>
    obtain ⟨name, j⟩ := m
    have hj : readValue room (j.compact.toList ++
        ((compactMembers "," members).toList ++ '\x7d' :: rest)) =
        .ok (j, (compactMembers "," members).toList ++ '\x7d' :: rest) :=
      h (name, j) List.mem_cons_self _ (ends_compactMembers members rest)
    have hmore := ih (fun m hm => h m (List.mem_cons_of_mem _ hm)) ((name, j) :: seen)
    have htext : (compactMembers (lead seen.isEmpty) ((name, j) :: members)).toList ++
        '\x7d' :: rest =
        (lead seen.isEmpty).toList ++ ((stringLiteral name).toList ++ ':' ::
          (j.compact.toList ++ ((compactMembers "," members).toList ++ '\x7d' :: rest))) := by
      simp [compactMembers]
    rw [htext, readMembers_eq, nextName_lead, partsWith, hj]
    rw [List.reverse_cons, List.append_assoc] at hmore
    exact hmore

theorem legible_object {room : Nat} {members : List (String × Json)}
    (h : ∀ m ∈ members, Legible room m.2) : Legible (room + 1) (.object members) := by
  intro rest _
  have htext : (compact (.object members)).toList ++ rest =
      '\x7b' :: ((compactMembers (lead true) members).toList ++ '\x7d' :: rest) := by
    simp [compact, lead]
  rw [htext, readValue_eq]
  exact readMembers_compactMembers h [] rest

/-! ## All values -/

theorem legible_of_readable {room : Nat} {j : Json} (h : Readable room j) : Legible room j := by
  induction h with
  | null => exact legible_null _
  | bool b => exact legible_bool _ b
  | integer hlow hhigh => exact legible_integer _ hlow hhigh
  | real hx => exact hx
  | string s => exact legible_string _ s
  | array _ ih => exact legible_array ih
  | object _ ih => exact legible_object ih

theorem parse_compact {room : Nat} {j : Json} (h : Legible room j) :
    parse room j.compact = .ok j := by
  have hread := h [] ends_nil
  rw [List.append_nil] at hread
  exact parse_eq_ok_iff.2 ⟨[], hread, rfl⟩

end Parlance.Json
