import Mathlib.Data.Rat.Floor
import Parlance.Proofs.Number.Fixed
import Parlance.Proofs.Number.Integer
import Parlance.Proofs.Number.Tag

/-!
# Doubles as whole numbers

Whole numbers and doubles are written by code of their own, the one from decimal digits and the
other from units of the least double. Where both stand for the same whole number they give the same
text: a conversion to a whole number writes a double as the whole number that is left of it when its
places are cut off, and a conversion to a fixed number of places writes a double that is whole as
this whole number, the negative zero excepted.

Results:
1. `truncate_value`: what cutting off the places leaves of a double.
2. `fixedUnits_mul`: a whole magnitude with a fixed number of places.
3. `double_as_integer`: doubles under the conversions, and their plural tags.
-/

namespace Parlance

/-! ## Definitions -/

/-- The whole number that is left of a number when its places are cut off. -/
def truncate (q : ℚ) : ℤ :=
  if q < 0 then ⌈q⌉ else ⌊q⌋

/-! ## Values -/

theorem Finite.value_eq (x : Finite) :
    x.value = (if x.negative then -1 else 1) * ((x.units : ℚ) / unitsPerOne) :=
  mul_div_assoc _ _ _

theorem Finite.floor_units (x : Finite) : ⌊(x.units : ℚ) / unitsPerOne⌋ = x.wholePart :=
  Rat.floor_natCast_div_natCast x.units unitsPerOne

theorem truncate_of_nonneg {q : ℚ} (h : 0 ≤ q) : truncate q = ⌊q⌋ :=
  if_neg (not_lt.2 h)

theorem truncate_neg_of_nonneg {q : ℚ} (h : 0 ≤ q) : truncate (-q) = -⌊q⌋ := by
  rcases h.eq_or_lt with rfl | hpos
  · rfl
  · rw [truncate, if_pos (neg_lt_zero.2 hpos), Int.ceil_neg]

theorem Finite.truncate_value (x : Finite) :
    truncate x.value = (if x.negative then -1 else 1) * (x.wholePart : ℤ) := by
  have hnonneg : 0 ≤ (x.units : ℚ) / unitsPerOne := by positivity
  rw [Finite.value_eq, ← x.floor_units]
  cases x.negative with
  | false =>
    rw [if_neg Bool.false_ne_true, if_neg Bool.false_ne_true, one_mul, one_mul,
      truncate_of_nonneg hnonneg]
  | true =>
    rw [if_pos rfl, if_pos rfl, neg_one_mul, neg_one_mul, truncate_neg_of_nonneg hnonneg]

/-- A double that is a whole number has its units and, unless it is zero, its sign. -/
theorem Finite.of_value_eq {x : Finite} {n : Int} (h : x.value = n) :
    x.units = n.natAbs * unitsPerOne ∧ (n ≠ 0 → x.negative = decide (n < 0)) := by
  have hnonneg : 0 ≤ (x.units : ℚ) / unitsPerOne := by positivity
  have hpos : (unitsPerOne : ℚ) ≠ 0 := Nat.cast_ne_zero.2 (Nat.ne_of_gt unitsPerOne_pos)
  have hunits : x.units = n.natAbs * unitsPerOne := by
    have habs := x.abs_value.symm
    rw [h, div_eq_iff hpos, ← Int.cast_abs, ← Nat.cast_natAbs, ← Nat.cast_mul,
      Nat.cast_inj] at habs
    exact habs
  refine ⟨hunits, fun hzero => ?_⟩
  rw [Finite.value_eq] at h
  cases hneg : x.negative with
  | false =>
    rw [hneg, if_neg Bool.false_ne_true, one_mul] at h
    have hn : 0 ≤ n := Int.cast_nonneg_iff.1 (h ▸ hnonneg)
    simp [hn]
  | true =>
    rw [hneg, if_pos rfl, neg_one_mul] at h
    have hn : n ≤ 0 := by
      have : (n : ℚ) ≤ 0 := by linarith
      exact_mod_cast this
    exact (decide_eq_true (lt_of_le_of_ne hn hzero)).symm

/-! ## Conversions to a whole number -/

/-- A double is cut off to the digits of the whole number that is left of it. -/
theorem truncated_finite (x : Finite) :
    Conversion.truncated (.finite x) = some (decimalInt (truncate x.value)) := by
  rw [Conversion.truncated, decimalInt_eq, x.truncate_value, Option.some_inj]
  generalize x.wholePart = whole
  have habs : ((if x.negative then -1 else 1) * (whole : ℤ)).natAbs = whole := by
    cases x.negative <;> simp
  rw [habs]
  by_cases hzero : whole = 0
  · subst hzero
    rw [if_pos rfl, Nat.cast_zero, mul_zero, if_neg (lt_irrefl 0)]
    rfl
  · have hpos : 0 < whole := Nat.pos_of_ne_zero hzero
    rw [if_neg hzero]
    cases x.negative with
    | false => rw [if_neg (by simp)]; rfl
    | true => rw [if_pos (by simp [hpos])]; rfl

/-! ## Conversions to a fixed number of places -/

theorem roundHalfEven_mul (n : Nat) {den : Nat} (hden : 0 < den) :
    roundHalfEven (n * den) den = n := by
  rw [roundHalfEven, Nat.mul_mod_left, Nat.mul_zero, if_pos hden, Nat.mul_div_cancel n hden]

theorem paddedDecimal_mul_tenTo (m places : Nat) :
    paddedDecimal (places + 1) (m * tenTo places) = decimal m ++ List.replicate places '0' := by
  induction places with
  | zero =>
    rw [show m * tenTo 0 = m from Nat.mul_one m, paddedDecimal_one]
    exact (List.append_nil _).symm
  | succ places ih =>
    have hstep : m * tenTo (places + 1) = m * tenTo places * 10 := (Nat.mul_assoc m _ 10).symm
    rw [paddedDecimal_succ places.succ_pos, hstep, Nat.mul_div_cancel _ (by decide),
      Nat.mul_mod_left, ih, List.append_assoc, List.replicate_succ']
    rfl

theorem placed_mul_tenTo (m places : Nat) :
    placed places (m * tenTo places) = decimal m ++ zeroPlaces places := by
  unfold placed zeroPlaces
  split_ifs with h
  · subst h
    rw [show m * tenTo 0 = m from Nat.mul_one m, List.append_nil]
  · have hlength : (decimal m ++ List.replicate places '0').length - places =
        (decimal m).length := by
      rw [List.length_append, List.length_replicate, Nat.add_sub_cancel]
    dsimp only
    rw [paddedDecimal_mul_tenTo, hlength, List.take_left, List.drop_left]

theorem fixedRatio_mul (m places : Nat) {den : Nat} (hden : 0 < den) :
    fixedRatio places (m * den) den = decimal m ++ zeroPlaces places := by
  rw [fixedRatio, Nat.mul_right_comm, roundHalfEven_mul _ hden, placed_mul_tenTo]

/-- A whole magnitude has zeros only behind its point, also beyond the places that doubles have. -/
theorem fixedUnits_mul (m places : Nat) :
    fixedUnits places (m * unitsPerOne) = decimal m ++ zeroPlaces places := by
  unfold fixedUnits
  split_ifs with hexact
  · exact fixedRatio_mul m places unitsPerOne_pos
  · rw [fixedRatio_mul m exactPlaces unitsPerOne_pos, List.append_assoc]
    have hsplit : exactPlaces + (places - exactPlaces) = places :=
      Nat.add_sub_cancel' (Nat.le_of_not_ge hexact)
    have hplaces : zeroPlaces exactPlaces ++ List.replicate (places - exactPlaces) '0' =
        zeroPlaces places := by
      rw [zeroPlaces, zeroPlaces, if_neg (by decide), if_neg (by omega), List.cons_append,
        List.replicate_append_replicate, hsplit]
    rw [hplaces]

/-! ## Agreement -/

/-- A whole double other than the negative zero has the text of its whole number. -/
theorem fixed_of_value_eq {x : Finite} {n : Int} (h : x.value = n) (hzero : x ≠ Finite.zero true)
    (places : Nat) :
    Binary64.fixed places (.finite x) = decimalInt n ++ zeroPlaces places := by
  obtain ⟨hunits, hsign⟩ := Finite.of_value_eq h
  have hnegative : x.negative = decide (n < 0) := by
    by_cases hn : n = 0
    · rw [hn, Int.natAbs_zero, Nat.zero_mul] at hunits
      rw [hn, decide_eq_false (lt_irrefl 0)]
      refine Bool.eq_false_iff.2 fun hneg => hzero ?_
      obtain ⟨negative, units, hrepresentable⟩ := x
      obtain rfl : negative = true := hneg
      obtain rfl : units = 0 := hunits
      rfl
    · exact hsign hn
  rw [Binary64.fixed, hunits, fixedUnits_mul, decimalInt_eq, hnegative, List.append_assoc]
  by_cases hn : n < 0
  · rw [if_pos hn, decide_eq_true hn]
    rfl
  · rw [if_neg hn, decide_eq_false hn]
    rfl

section

variable {x : Finite} {c : Conversion}

theorem placesOf_integer (hkind : c.kind = .integer) : c.placesOf = [] := by
  rw [Conversion.placesOf, hkind]
  rfl

theorem body_truncated (hkind : c.kind = .integer) (x : Finite) :
    c.body (.float (.finite x)) = some (decimalInt (truncate x.value) ++ c.placesOf) := by
  rw [placesOf_integer hkind, List.append_nil, ← truncated_finite]
  unfold Conversion.body
  rw [hkind]

theorem body_fixed {n : Int} (hkind : c.kind = .fixed) (h : x.value = n)
    (hzero : x ≠ Finite.zero true) :
    c.body (.float (.finite x)) = some (decimalInt n ++ c.placesOf) := by
  rw [Conversion.placesOf, if_pos hkind, ← fixed_of_value_eq h hzero]
  unfold Conversion.body
  rw [hkind]
  rfl

/-- Only the sign of a whole number brings a minus into its text. -/
theorem exists_apply_integer (hkind : c.kind = .integer) (n : Int) :
    ∃ text, c.apply (.integer n) = some text ∧ ('-' ∈ text ↔ n < 0) := by
  have hdecimal : '-' ∉ decimal n.natAbs := fun h => by cases isDigit_of_mem_decimal h
  have hsign : '-' ∈ c.signOf n ↔ n < 0 := by
    unfold Conversion.signOf
    split_ifs <;> simp [*]
  obtain ⟨left, zeros, right, hpad, -⟩ :=
    Conversion.exists_pad c (Conversion.isSign_signOf c n) (isDigit_head_decimal n.natAbs [])
  refine ⟨_, Conversion.apply_integer (by rw [hkind]; decide) n, ?_⟩
  rw [placesOf_integer hkind, hpad, ← hsign]
  simp [hdecimal]

end

theorem pluralTag_congr {v w : Number} (h : v.value? = w.value?) : v.pluralTag = w.pluralTag := by
  have hsame : ∀ k, v.isNat k = w.isNat k := fun k =>
    Bool.eq_iff_iff.2 (by rw [Number.isNat_iff, Number.isNat_iff, h])
  simp only [Number.pluralTag, hsame]

/-- Doubles are written as whole numbers are. Under a conversion to a whole number this is the one
that is left of the double without its places, with a minus only if that is negative. Under a
conversion to a fixed number of places, and for the plural tag, it is the one that the double is. -/
theorem double_as_integer :
    (∀ (x : Finite) (c : Conversion), c.kind = .integer →
      ∃ text, c.apply (.float (.finite x)) = some text ∧
        c.apply (.integer (truncate x.value)) = some text ∧
        ('-' ∈ text ↔ truncate x.value < 0)) ∧
    (∀ (x : Finite) (n : Int) (c : Conversion), x.value = n → x ≠ Finite.zero true →
      c.kind = .fixed →
      ∃ text, c.apply (.float (.finite x)) = some text ∧ c.apply (.integer n) = some text) ∧
    ∀ (x : Finite) (n : Int), x.value = n →
      Number.pluralTag (.float (.finite x)) = Number.pluralTag (.integer n) := by
  refine ⟨fun x c hkind => ?_, fun x n c hvalue hzero hkind => ?_, fun x n hvalue => ?_⟩
  · obtain ⟨text, htext, hminus⟩ := exists_apply_integer hkind (truncate x.value)
    refine ⟨text, ?_, htext, hminus⟩
    rw [← htext, Conversion.apply_integer (by rw [hkind]; decide),
      Conversion.apply_of_body (body_truncated hkind x)]
  · exact ⟨_, Conversion.apply_of_body (body_fixed hkind hvalue hzero),
      Conversion.apply_integer (by rw [hkind]; decide) n⟩
  · exact pluralTag_congr (congrArg some hvalue)

/-- Minus one half is cut off to zero without a minus, and minus five with a plus flag and filled up
by zeros is the same text from both. -/
theorem minus_half_and_minus_five :
    let half : Finite := ⟨true, twoTo 1073, by decide +kernel⟩
    let five : Finite := ⟨true, 5 * unitsPerOne, by decide +kernel⟩
    let whole : Conversion := ⟨false, false, false, some 3, none, .integer⟩
    let fixed : Conversion := ⟨false, true, true, some 8, some 2, .fixed⟩
    (whole.apply (.float (.finite half)) = some "  0".toList ∧ ¬truncate half.value < 0) ∧
    (five.value = (-5 : Int) ∧ five ≠ Finite.zero true ∧
      fixed.apply (.float (.finite five)) = some "-0005.00".toList ∧
      fixed.apply (.integer (-5)) = some "-0005.00".toList) ∧
    Number.pluralTag (.float (.finite five)) = Number.pluralTag (.integer (-5)) := by
  intro half five whole fixed
  have hpos : (unitsPerOne : ℚ) ≠ 0 := Nat.cast_ne_zero.2 (Nat.ne_of_gt unitsPerOne_pos)
  have hvalue : five.value = (-5 : Int) := by
    show (-1 : ℚ) * (5 * unitsPerOne : ℕ) / unitsPerOne = (-5 : Int)
    rw [Nat.cast_mul, ← mul_assoc, mul_div_cancel_right₀ _ hpos]
    norm_num
  have hzero : five ≠ Finite.zero true := by decide +kernel
  have hhalf : whole.apply (.float (.finite half)) = some "  0".toList := by decide +kernel
  have hfive : fixed.apply (.integer (-5)) = some "-0005.00".toList := by decide +kernel
  obtain ⟨htruncated, hfixed, htag⟩ := double_as_integer
  obtain ⟨text, htext, -, hminus⟩ := htruncated half whole rfl
  obtain rfl := Option.some.inj (htext.symm.trans hhalf)
  obtain ⟨text', htext', hinteger⟩ := hfixed five (-5) fixed hvalue hzero rfl
  obtain rfl := Option.some.inj (hinteger.symm.trans hfive)
  exact ⟨⟨hhalf, fun h => absurd (hminus.2 h) (by decide)⟩, ⟨hvalue, hzero, htext', hfive⟩,
    htag five (-5) hvalue⟩

end Parlance
