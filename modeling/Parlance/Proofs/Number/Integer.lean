import Mathlib.Data.List.DropRight
import Mathlib.Data.Rat.Cast.Order
import Mathlib.Tactic.NormNum
import Parlance.Number.Rendering

/-!
# Whole numbers under conversions

A conversion to a whole number or to a fixed number of places writes a whole number as a sign, its
digits, and as many zeros behind a point as places are asked for. Filling it up adds blanks around
this, or zeros between the sign and the digits, so that what is read of it is the same number still.

Results:
1. `length_pad`, `exists_pad`: how long a text gets by filling it up, and where it gets longer.
2. `apply_integer`: a whole number under a conversion, before it is filled up.
3. `readNumberText_numeral`: what is read of a sign, zeros, digits and places.
4. `integer_undamaged`: all of this for every whole number, however large.
-/

namespace Parlance

/-! ## Definitions -/

/-- The exact value of a decimal fraction. -/
def DecimalFraction.value (f : DecimalFraction) : ℚ :=
  (if f.negative then -1 else 1) * f.digits * 10 ^ f.exponent

/-- A text without the blanks around it. -/
def trimmed (text : List Char) : List Char :=
  (text.dropWhile (· == ' ')).rdropWhile (· == ' ')

/-- A sign that may be absent. -/
def IsSign (sign : List Char) : Prop :=
  sign = [] ∨ sign = ['-'] ∨ sign = ['+']

/-- The places of a whole number that is written with `count` of them, with the point before
them. -/
def zeroPlaces (count : Nat) : List Char :=
  if count = 0 then [] else '.' :: List.replicate count '0'

namespace Conversion

/-- The sign that a whole number has under a conversion. -/
def signOf (c : Conversion) (n : Int) : List Char :=
  if n < 0 then ['-'] else if c.plusSign then ['+'] else []

/-- The places that a whole number has under a conversion. -/
def placesOf (c : Conversion) : List Char :=
  if c.kind = .fixed then zeroPlaces (c.precision.getD 6) else []

/-- What `text` keeps of the whole number `n` under a conversion, `bare` being the text without a
width. -/
structure Undamaged (c : Conversion) (n : Int) (text bare : List Char) : Prop where
  length_eq : text.length = max (c.width.getD 0) bare.length
  written : ∃ sign zeros, IsSign sign ∧
    bare = sign ++ (decimal n.natAbs ++ c.placesOf) ∧
    trimmed text = sign ++ (List.replicate zeros '0' ++ (decimal n.natAbs ++ c.placesOf)) ∧
    (zeros ≠ 0 → c.zeroPad = true ∧ c.leftAlign = false)
  minus_iff : (trimmed text).head? = some '-' ↔ n < 0
  plus_iff : (trimmed text).head? = some '+' ↔ 0 ≤ n ∧ c.plusSign = true
  read : ∃ f, readNumberText (String.ofList (trimmed text)) = some (.fraction f) ∧ f.value = n

end Conversion

/-! ## Digits -/

theorem decimalInt_eq (n : Int) :
    decimalInt n = (if n < 0 then ['-'] else []) ++ decimal n.natAbs := by
  cases n with
  | ofNat n => rfl
  | negSucc n =>
    rw [if_pos (Int.negSucc_lt_zero n)]
    rfl

/-- A number that is filled up with zeros has at least one digit. -/
theorem exists_numeral (zeros m : Nat) : ∃ d digits, d.isDigit = true ∧
    (∀ e ∈ digits, e.isDigit = true) ∧ List.replicate zeros '0' ++ decimal m = d :: digits := by
  have hall : ∀ d ∈ List.replicate zeros '0' ++ decimal m, d.isDigit = true := by
    intro d hd
    rcases List.mem_append.1 hd with h | h
    · rw [List.eq_of_mem_replicate h]
      rfl
    · exact isDigit_of_mem_decimal h
  have hne : List.replicate zeros '0' ++ decimal m ≠ [] :=
    List.append_ne_nil_of_right_ne_nil _ Nat.toDigits_ne_nil
  obtain ⟨d, digits, heq⟩ := List.exists_cons_of_ne_nil hne
  rw [heq] at hall
  exact ⟨d, digits, hall d List.mem_cons_self, fun e he => hall e (List.mem_cons_of_mem d he), heq⟩

theorem isDigit_head_decimal (m : Nat) (rest : List Char) :
    ∀ d ∈ (decimal m ++ rest).head?, d.isDigit = true := by
  obtain ⟨d, digits, hd, -, heq⟩ := exists_numeral 0 m
  rw [show decimal m = d :: digits from heq]
  rintro _ ⟨⟩
  exact hd

theorem digitsValue_decimal (zeros m : Nat) :
    digitsValue (List.replicate zeros '0' ++ decimal m) = m := by
  show Nat.ofDigitChars 10 _ 0 = m
  rw [Nat.ofDigitChars_append, Nat.ofDigitChars_replicate_zero, Nat.mul_zero]
  exact Nat.ofDigitChars_ten_toDigits

namespace Conversion

/-! ## Filling up -/

section

variable {c : Conversion} {sign digits : List Char}

theorem splitLeadingSign_append (hsign : IsSign sign)
    (hdigits : ∀ d ∈ digits.head?, d.isDigit = true) :
    splitLeadingSign (sign ++ digits) = (sign, digits) := by
  rcases hsign with rfl | rfl | rfl
  · rw [List.nil_append]
    unfold splitLeadingSign
    split
    · cases hdigits '-' rfl
    · cases hdigits '+' rfl
    · rfl
  · rfl
  · rfl

theorem splitLeadingSign_fst_append_snd (text : List Char) :
    (splitLeadingSign text).1 ++ (splitLeadingSign text).2 = text := by
  unfold splitLeadingSign
  split <;> rfl

/-- A text is filled up to the width, and not cut. -/
theorem length_pad (c : Conversion) (text : List Char) :
    (c.pad text).length = max (c.width.getD 0) text.length := by
  have hsplit := congrArg List.length (splitLeadingSign_fst_append_snd text)
  rw [List.length_append] at hsplit
  unfold pad
  dsimp only
  split_ifs
  all_goals
    simp only [List.length_append, List.length_replicate]
    omega

/-- A number is filled up with blanks on one side, or else with zeros behind its sign. -/
theorem exists_pad (c : Conversion) (hsign : IsSign sign)
    (hdigits : ∀ d ∈ digits.head?, d.isDigit = true) :
    ∃ left zeros right,
      c.pad (sign ++ digits) =
        List.replicate left ' ' ++ (sign ++ (List.replicate zeros '0' ++ digits)) ++
          List.replicate right ' ' ∧
      (zeros ≠ 0 → c.zeroPad = true ∧ c.leftAlign = false) := by
  unfold pad
  dsimp only
  generalize c.width.getD 0 - (sign ++ digits).length = fill
  split_ifs with hleft hzero
  · exact ⟨0, 0, fill, by simp, nofun⟩
  · rw [splitLeadingSign_append hsign hdigits]
    refine ⟨0, fill, 0, by simp, fun _ => ⟨?_, by simpa using hleft⟩⟩
    exact (Bool.and_eq_true_iff.1 hzero).1
  · exact ⟨fill, 0, 0, by simp, nofun⟩

theorem pad_of_width (h : c.width = none) (text : List Char) : c.pad text = text := by
  unfold pad
  rw [h, Option.getD_none, Nat.zero_sub]
  split_ifs
  · exact List.append_nil text
  · show (splitLeadingSign text).1 ++ [] ++ (splitLeadingSign text).2 = text
    rw [List.append_nil, splitLeadingSign_fst_append_snd]
  · rfl

end

/-! ## Before filling up -/

section

variable {c : Conversion} {n : Int}

theorem isSign_signOf (c : Conversion) (n : Int) : IsSign (c.signOf n) := by
  unfold signOf IsSign
  split_ifs <;> simp

theorem body_integer (hkind : c.kind ≠ .plain) (n : Int) :
    c.body (.integer n) = some (decimalInt n ++ c.placesOf) := by
  unfold body placesOf
  cases h : c.kind with
  | integer => simp
  | fixed =>
    by_cases hplaces : c.precision.getD 6 = 0
    · simp [defaultPrecision, zeroPlaces, hplaces]
    · simp [defaultPrecision, zeroPlaces, hplaces]
  | plain => exact absurd h hkind

theorem sign_decimalInt (c : Conversion) (n : Int) (rest : List Char) :
    c.sign (decimalInt n ++ rest) = c.signOf n ++ (decimal n.natAbs ++ rest) := by
  rw [decimalInt_eq, sign, signOf, List.append_assoc]
  by_cases hn : n < 0
  · rw [if_pos hn, if_pos hn, List.singleton_append]
    simp
  · have hhead : (decimal n.natAbs ++ rest).head? ≠ some '-' := by
      intro h
      cases isDigit_head_decimal n.natAbs rest '-' h
    rw [if_neg hn, if_neg hn, List.nil_append]
    cases c.plusSign with
    | false => rfl
    | true => rw [Bool.true_and, if_pos (bne_iff_ne.2 hhead)]; rfl

/-- What is written as a whole number is its sign, its digits and its places, filled up. -/
theorem apply_of_body {v : Number} (h : c.body v = some (decimalInt n ++ c.placesOf)) :
    c.apply v = some (c.pad (c.signOf n ++ (decimal n.natAbs ++ c.placesOf))) := by
  rw [apply, h, Option.map_some, sign_decimalInt]

theorem apply_integer (hkind : c.kind ≠ .plain) (n : Int) :
    c.apply (.integer n) =
      some (c.pad (c.signOf n ++ (decimal n.natAbs ++ c.placesOf))) :=
  apply_of_body (body_integer hkind n)

end

end Conversion

/-! ## Reading -/

theorem dropWhile_blanks (k : Nat) {text : List Char} (h : ∀ c ∈ text.head?, c ≠ ' ') :
    (List.replicate k ' ' ++ text).dropWhile (· == ' ') = text := by
  rw [List.dropWhile_append_of_pos fun c hc => beq_iff_eq.2 (List.eq_of_mem_replicate hc)]
  cases text with
  | nil => rfl
  | cons c rest => exact List.dropWhile_cons_of_neg (by simpa using h c rfl)

theorem trimmed_append {text : List Char} (hne : text ≠ []) (h : ' ' ∉ text) (left right : Nat) :
    trimmed (List.replicate left ' ' ++ text ++ List.replicate right ' ') = text := by
  have hhead : ∀ more, ∀ c ∈ (text ++ more).head?, c ≠ ' ' := by
    obtain ⟨c, rest, rfl⟩ := List.exists_cons_of_ne_nil hne
    rintro more _ ⟨⟩ rfl
    exact h List.mem_cons_self
  have hlast : ∀ c ∈ text.reverse.head?, c ≠ ' ' := by
    rintro c hc rfl
    exact h (List.mem_reverse.1 (List.mem_of_head? hc))
  rw [trimmed, List.append_assoc, dropWhile_blanks left (hhead _), List.rdropWhile,
    List.reverse_append, List.reverse_replicate, dropWhile_blanks right hlast, List.reverse_reverse]

section

variable {sign digits : List Char} {count : Nat}

theorem readFraction_numeral (negative : Bool) (hne : digits ≠ [])
    (hdigits : ∀ d ∈ digits, d.isDigit = true) :
    readFraction negative (digits ++ zeroPlaces count) =
      some ⟨negative, digitsValue digits * 10 ^ count, -count⟩ := by
  have hempty : digits.isEmpty = false := by simpa using hne
  have hvalue : digitsValue (digits ++ List.replicate count '0') =
      digitsValue digits * 10 ^ count := by
    show Nat.ofDigitChars 10 _ 0 = Nat.ofDigitChars 10 _ 0 * _
    rw [Nat.ofDigitChars_append, Nat.ofDigitChars_replicate_zero, Nat.mul_comm]
  have hzeros : ∀ d ∈ List.replicate count '0', d.isDigit = true := by
    intro d hd
    rw [List.eq_of_mem_replicate hd]
    rfl
  rw [readFraction, zeroPlaces, List.takeWhile_append_of_pos hdigits,
    List.dropWhile_append_of_pos hdigits]
  by_cases hcount : count = 0
  · subst hcount
    simp [hempty, readExponent]
  · have htake : (List.replicate count '0').takeWhile Char.isDigit = List.replicate count '0' :=
      List.takeWhile_eq_self_iff.2 hzeros
    have hdrop : (List.replicate count '0').dropWhile Char.isDigit = [] :=
      List.dropWhile_eq_nil_iff.2 hzeros
    have hpoint : Char.isDigit '.' = false := rfl
    simp [hcount, hempty, hvalue, htake, hdrop, hpoint, readExponent]

theorem splitSign_append {text : List Char} (hsign : IsSign sign)
    (htext : ∀ d ∈ text.head?, d.isDigit = true) :
    splitSign (sign ++ text) = (decide (sign = ['-']), text) := by
  rcases hsign with rfl | rfl | rfl
  · rw [List.nil_append]
    unfold splitSign
    split
    · cases htext '-' rfl
    · cases htext '+' rfl
    · rfl
  · rfl
  · rfl

theorem toLower_of_isDigit {d : Char} (h : d.isDigit = true) : d.toLower = d := by
  have hle : d.val ≤ '9'.val := of_decide_eq_true (Bool.and_eq_true_iff.1 h).2
  have hupper : ¬ 'A'.val ≤ d.val := fun h => absurd (UInt32.le_trans h hle) (by decide)
  exact dif_neg fun h => hupper h.1

/-- What begins with a digit behind its sign names neither infinity nor what is no number. -/
theorem readNumberText_append {text : List Char} (hsign : IsSign sign) {d : Char}
    (hd : d ∈ text.head?) (hdigit : d.isDigit = true) :
    readNumberText (String.ofList (sign ++ text)) =
      (readFraction (decide (sign = ['-'])) text).map .fraction := by
  obtain ⟨rest, rfl⟩ := List.head?_eq_some_iff.1 hd
  rw [readNumberText, String.toList_ofList, splitSign_append hsign (by rintro _ ⟨⟩; exact hdigit)]
  dsimp only
  rw [List.map_cons, toLower_of_isDigit hdigit]
  split
  next h => cases (List.cons.inj h).1; cases hdigit
  next h => cases (List.cons.inj h).1; cases hdigit
  next h => cases (List.cons.inj h).1; cases hdigit
  · rfl

end

namespace Conversion

variable {c : Conversion}

theorem exists_placesOf (c : Conversion) : ∃ count, c.placesOf = zeroPlaces count := by
  unfold placesOf
  split_ifs
  · exact ⟨_, rfl⟩
  · exact ⟨0, rfl⟩

theorem blank_not_mem (c : Conversion) (zeros m : Nat) :
    ' ' ∉ List.replicate zeros '0' ++ (decimal m ++ c.placesOf) := by
  have hdecimal : ' ' ∉ decimal m := fun h => by cases isDigit_of_mem_decimal h
  have hplaces : ' ' ∉ c.placesOf := by
    obtain ⟨count, hcount⟩ := exists_placesOf c
    rw [hcount, zeroPlaces]
    split_ifs
    · exact List.not_mem_nil
    · simp
  simp [hdecimal, hplaces]

theorem minus_iff (c : Conversion) (n : Int) {d : Char} {rest : List Char}
    (hdigit : d.isDigit = true) : (c.signOf n ++ d :: rest).head? = some '-' ↔ n < 0 := by
  have hne : d ≠ '-' := by rintro rfl; cases hdigit
  unfold signOf
  split_ifs <;> simp [*]

theorem plus_iff (c : Conversion) (n : Int) {d : Char} {rest : List Char}
    (hdigit : d.isDigit = true) :
    (c.signOf n ++ d :: rest).head? = some '+' ↔ 0 ≤ n ∧ c.plusSign = true := by
  have hne : d ≠ '+' := by rintro rfl; cases hdigit
  unfold signOf
  split_ifs with hn hplus
  · simp [hn]
  · simp [hplus, not_lt.1 hn]
  · simp [hplus, hne]

theorem signOf_eq_minus (c : Conversion) (n : Int) : c.signOf n = ['-'] ↔ n < 0 := by
  unfold signOf
  split_ifs <;> simp [*]

/-- A sign, zeros, digits and places read back as the whole number that they are of. -/
theorem readNumberText_numeral (c : Conversion) (n : Int) (zeros : Nat) :
    ∃ f, readNumberText (String.ofList (c.signOf n ++
        (List.replicate zeros '0' ++ (decimal n.natAbs ++ c.placesOf)))) = some (.fraction f) ∧
      f.value = n := by
  obtain ⟨count, hcount⟩ := exists_placesOf c
  obtain ⟨d, digits, hd, hdigits, heq⟩ := exists_numeral zeros n.natAbs
  have hvalue := digitsValue_decimal zeros n.natAbs
  rw [← List.append_assoc (List.replicate zeros '0'), heq]
  rw [heq] at hvalue
  rw [readNumberText_append (isSign_signOf c n) rfl hd, hcount,
    readFraction_numeral _ (List.cons_ne_nil d digits) (List.forall_mem_cons.2 ⟨hd, hdigits⟩),
    hvalue]
  refine ⟨_, rfl, ?_⟩
  have hpow : (10 : ℚ) ^ count ≠ 0 := pow_ne_zero count (by norm_num)
  have hcancel : ((n.natAbs * 10 ^ count : Nat) : ℚ) * 10 ^ (-(count : Int)) = n.natAbs := by
    rw [zpow_neg, zpow_natCast, Nat.cast_mul, Nat.cast_pow, Nat.cast_ofNat]
    exact mul_inv_cancel_right₀ hpow _
  rw [DecimalFraction.value, mul_assoc, hcancel]
  simp only [decide_eq_true_eq, signOf_eq_minus]
  split_ifs with hn
  · rw [neg_one_mul, ← Int.cast_natCast, Int.ofNat_natAbs_of_nonpos hn.le, Int.cast_neg, neg_neg]
  · rw [one_mul, ← Int.cast_natCast, Int.natAbs_of_nonneg (not_lt.1 hn)]

/-- However large a whole number is, no conversion to a whole number or to a fixed number of places
damages it. -/
theorem integer_undamaged (hkind : c.kind ≠ .plain) (n : Int) :
    ∃ text bare, c.apply (.integer n) = some text ∧
      Conversion.apply { c with width := none } (.integer n) = some bare ∧
      Undamaged c n text bare := by
  obtain ⟨left, zeros, right, hpad, hzeros⟩ :=
    exists_pad c (isSign_signOf c n) (isDigit_head_decimal n.natAbs c.placesOf)
  have hbare : Conversion.apply { c with width := none } (.integer n) =
      some (c.signOf n ++ (decimal n.natAbs ++ c.placesOf)) := by
    rw [apply_integer (c := { c with width := none }) hkind, pad_of_width rfl]
    rfl
  obtain ⟨d, digits, hd, -, heq⟩ := exists_numeral zeros n.natAbs
  have hcons : List.replicate zeros '0' ++ (decimal n.natAbs ++ c.placesOf) =
      d :: (digits ++ c.placesOf) := by
    rw [← List.append_assoc, heq, List.cons_append]
  have htrimmed : trimmed (c.pad (c.signOf n ++ (decimal n.natAbs ++ c.placesOf))) =
      c.signOf n ++ (List.replicate zeros '0' ++ (decimal n.natAbs ++ c.placesOf)) := by
    -- What is filled up has no blank of its own, so that all blanks are around it.
    rw [hpad]
    refine trimmed_append (List.append_ne_nil_of_right_ne_nil _ (hcons ▸ List.cons_ne_nil _ _)) ?_
      left right
    intro hmem
    rcases List.mem_append.1 hmem with h | h
    · rcases isSign_signOf c n with hs | hs | hs <;> rw [hs] at h <;> simp at h
    · exact blank_not_mem c zeros n.natAbs h
  exact ⟨_, _, apply_integer hkind n, hbare,
    { length_eq := length_pad c _
      written := ⟨_, zeros, isSign_signOf c n, rfl, htrimmed, hzeros⟩
      minus_iff := by rw [htrimmed, hcons]; exact minus_iff c n hd
      plus_iff := by rw [htrimmed, hcons]; exact plus_iff c n hd
      read := by rw [htrimmed]; exact readNumberText_numeral c n zeros }⟩

/-- The least whole number of 128 bits, filled up by three zeros behind its sign. -/
theorem least_undamaged :
    let c : Conversion := ⟨false, false, true, some 45, some 1, .fixed⟩
    c.apply (.integer (-2 ^ 127)) =
        some "-000170141183460469231731687303715884105728.0".toList ∧
      ∃ text bare, c.apply (.integer (-2 ^ 127)) = some text ∧
        Conversion.apply { c with width := none } (.integer (-2 ^ 127)) = some bare ∧
        Undamaged c (-2 ^ 127) text bare :=
  ⟨by decide +kernel,
    integer_undamaged (c := ⟨false, false, true, some 45, some 1, .fixed⟩) (by decide) _⟩

end Conversion

end Parlance
