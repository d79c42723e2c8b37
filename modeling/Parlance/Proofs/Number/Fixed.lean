import Mathlib.Algebra.Order.Field.Basic
import Mathlib.Tactic.Positivity
import Parlance.Formatter.Builtin
import Parlance.Proofs.Number.Tag

/-!
# Numbers in the default formats

What the two formats make of numbers that have one unless a catalog says otherwise: a whole number
in decimal, and a double with two decimal places. No number is refused.

Results:
1. `nearest_roundHalfEven`: a quotient is rounded to the nearest whole number.
2. `nearest_iff_eq_hundredths`: the two decimal places of a double are the nearest ones to its
   value.
3. `placed_two`: the digits of a number of hundredths.
4. `applyFormat_integer`, `applyFormat_float`: the formats applied to every number.
-/

namespace Parlance

/-! ## Definitions -/

/-- The natural number `n` is as near to `q` as any whole number, and is even if another one is as
near. -/
def NearestEven (q : ℚ) (n : Nat) : Prop :=
  |q - n| ≤ 1 / 2 ∧ (|q - n| = 1 / 2 → n % 2 = 0)

/-- The number of hundredths nearest to the magnitude, of two the even one. -/
def Finite.hundredths (x : Finite) : Nat :=
  roundHalfEven (x.units * 100) unitsPerOne

/-- A double with two decimal places. -/
def Binary64.twoPlaces : Binary64 → String
  | .finite x =>
    (if x.negative then "-" else "") ++ toString (x.hundredths / 100) ++ "." ++
      toString (x.hundredths / 10 % 10) ++ toString (x.hundredths % 10)
  | .infinite negative => if negative then "-inf" else "inf"
  | .nan => "NaN"

/-! ## Rounding -/

theorem NearestEven.of_lt {q : ℚ} {n : Nat} (h : |q - n| < 1 / 2) : NearestEven q n :=
  ⟨h.le, fun heq => absurd heq h.ne⟩

/-- A quotient is its whole part and a part below one, which rounding compares with a half. -/
theorem exists_part (num : Nat) {den : Nat} (hden : 0 < den) :
    ∃ part : ℚ, (num : ℚ) / den = (num / den : Nat) + part ∧ 0 ≤ part ∧ part < 1 ∧
      (2 * (num % den) < den ↔ part < 1 / 2) ∧ (den < 2 * (num % den) ↔ 1 / 2 < part) := by
  have hpos : (0 : ℚ) < den := Nat.cast_pos.2 hden
  refine ⟨(num % den : Nat) / (den : ℚ), ?_, by positivity, ?_, ?_, ?_⟩
  · rw [div_eq_iff hpos.ne', add_mul, div_mul_cancel₀ _ hpos.ne', ← Nat.cast_mul, ← Nat.cast_add,
      Nat.div_add_mod']
  · exact (div_lt_one hpos).2 (Nat.cast_lt.2 (Nat.mod_lt num hden))
  · rw [div_lt_div_iff₀ hpos two_pos, one_mul, mul_comm]
    exact_mod_cast Iff.rfl
  · rw [div_lt_div_iff₀ two_pos hpos, one_mul, mul_comm (_ : ℚ) 2]
    exact_mod_cast Iff.rfl

theorem nearest_roundHalfEven (num : Nat) {den : Nat} (hden : 0 < den) :
    NearestEven (num / den) (roundHalfEven num den) := by
  obtain ⟨part, hquotient, hnonneg, hlt, hbelow, habove⟩ := exists_part num hden
  rw [hquotient, roundHalfEven]
  split_ifs with hlow hhigh heven
  · refine .of_lt ?_
    rw [add_sub_cancel_left, abs_of_nonneg hnonneg]
    exact hbelow.1 hlow
  · have := habove.1 hhigh
    refine .of_lt ?_
    rw [Nat.cast_succ, abs_lt]
    constructor <;> linarith
  · refine ⟨?_, fun _ => heven⟩
    rw [add_sub_cancel_left, abs_of_nonneg hnonneg]
    exact not_lt.1 fun h => hhigh (habove.2 h)
  · refine ⟨?_, fun _ => by omega⟩
    have := not_lt.1 fun h => hlow (hbelow.2 h)
    rw [Nat.cast_succ, abs_le]
    constructor <;> linarith

/-- Only one whole number is nearest: of two that are half away one is odd. -/
theorem NearestEven.eq {q : ℚ} {m n : Nat} (hm : NearestEven q m) (hn : NearestEven q n) :
    m = n := by
  wlog hlt : m < n generalizing m n
  · by_contra hne
    exact hne (this hn hm (by omega)).symm
  obtain ⟨⟨-, hmhigh⟩, hmeven⟩ := And.imp_left abs_le.1 hm
  obtain ⟨⟨hnlow, -⟩, hneven⟩ := And.imp_left abs_le.1 hn
  have hsucc : ((m + 1 : Nat) : ℚ) ≤ n := Nat.cast_le.2 hlt
  rw [Nat.cast_succ] at hsucc
  have hmhalf : q - m = 1 / 2 := by linarith
  have hnhalf : q - n = -(1 / 2) := by linarith
  have hnext : n = m + 1 := by
    have : (n : ℚ) = (m + 1 : Nat) := by
      rw [Nat.cast_succ]
      linarith
    exact Nat.cast_injective this
  have := hmeven (by rw [hmhalf, abs_of_pos one_half_pos])
  have := hneven (by rw [hnhalf, abs_neg, abs_of_pos one_half_pos])
  omega

theorem Finite.abs_value (x : Finite) : |x.value| = (x.units : ℚ) / unitsPerOne := by
  rw [Finite.value, abs_div, abs_mul, Nat.abs_cast, Nat.abs_cast]
  cases x.negative with
  | false => rw [if_neg Bool.false_ne_true, abs_one, one_mul]
  | true => rw [if_pos rfl, abs_neg, abs_one, one_mul]

/-- The hundredths of a double are the ones nearest to its exact value. -/
theorem Finite.nearest_iff_eq_hundredths {x : Finite} {n : Nat} :
    NearestEven (100 * |x.value|) n ↔ n = x.hundredths := by
  have hnearest : NearestEven (100 * |x.value|) x.hundredths := by
    have hratio : 100 * |x.value| = ((x.units * 100 : Nat) : ℚ) / unitsPerOne := by
      rw [x.abs_value, Nat.cast_mul, Nat.cast_ofNat, mul_comm, div_mul_eq_mul_div]
    rw [hratio, hundredths]
    exact nearest_roundHalfEven (x.units * 100) unitsPerOne_pos
  constructor
  · exact fun h => h.eq hnearest
  · intro h
    rw [h]
    exact hnearest

/-! ## Digits -/

theorem ofList_decimal (n : Nat) : String.ofList (decimal n) = toString n :=
  Nat.toString_eq_ofList_toDigits.symm

theorem ofList_decimalInt (n : Int) : String.ofList (decimalInt n) = toString n := by
  cases n with
  | ofNat n => exact ofList_decimal n
  | negSucc n =>
    rw [decimalInt, String.ofList_cons, ofList_decimal]
    rfl

theorem ofList_digitChar {n : Nat} (h : n < 10) : String.ofList [n.digitChar] = toString n := by
  rw [← ofList_decimal, decimal, Nat.toDigits_of_lt_base h]

theorem paddedDecimal_one (n : Nat) : paddedDecimal 1 n = decimal n := by
  have hpos : 0 < (decimal n).length := Nat.length_toDigits_pos
  rw [paddedDecimal, Nat.sub_eq_zero_of_le hpos]
  rfl

/-- The last digit comes off the end. -/
theorem paddedDecimal_succ {count : Nat} (hcount : 0 < count) (n : Nat) :
    paddedDecimal (count + 1) n = paddedDecimal count (n / 10) ++ [(n % 10).digitChar] := by
  unfold paddedDecimal decimal
  by_cases hn : n < 10
  · obtain ⟨count, rfl⟩ := Nat.exists_eq_add_one.2 hcount
    rw [Nat.toDigits_of_lt_base hn, Nat.div_eq_of_lt hn, Nat.mod_eq_of_lt hn, Nat.toDigits_zero]
    simp [List.replicate_succ']
  · rw [Nat.toDigits_of_base_le (by decide) (Nat.not_lt.1 hn), List.length_append,
      List.length_singleton, Nat.add_sub_add_right, List.append_assoc]

theorem placed_two (scaled : Nat) :
    placed 2 scaled = decimal (scaled / 100) ++
      ['.', (scaled / 10 % 10).digitChar, (scaled % 10).digitChar] := by
  have hdigits : paddedDecimal 3 scaled = decimal (scaled / 100) ++
      [(scaled / 10 % 10).digitChar, (scaled % 10).digitChar] := by
    rw [paddedDecimal_succ (by decide), paddedDecimal_succ (by decide), paddedDecimal_one,
      Nat.div_div_eq_div_mul, List.append_assoc]
    rfl
  rw [placed, if_neg (by decide), hdigits]
  simp

/-! ## Formats -/

/-- A text that is one piece as a whole is read as this piece. -/
theorem parse_of_nextPiece {spec : String} {p : Piece}
    (h : NumberSpec.nextPiece 0 spec.toList = some (p, [])) :
    NumberSpec.parse spec = .ok ⟨spec, [p]⟩ := by
  have hempty : ∀ offset, NumberSpec.piecesFrom offset [] = .ok [] := by
    intro offset
    rw [NumberSpec.piecesFrom]
    rfl
  have hpieces : NumberSpec.piecesFrom 0 spec.toList = .ok [p] := by
    have hne : ¬spec.toList.isEmpty = true := by
      intro hspec
      rw [List.isEmpty_iff.1 hspec] at h
      cases h
    rw [NumberSpec.piecesFrom, if_neg hne]
    split
    · next hnone => cases hnone.symm.trans h
    · next hsome =>
      obtain ⟨rfl, rfl⟩ := Prod.mk.inj (Option.some.inj (hsome.symm.trans h))
      rw [hempty]
  rw [NumberSpec.parse, hpieces]

theorem parse_integer : NumberSpec.parse "%d" =
    .ok ⟨"%d", [.conversion 0 ⟨false, false, false, none, none, .integer⟩]⟩ :=
  parse_of_nextPiece rfl

theorem parse_fixed : NumberSpec.parse "%.2f" =
    .ok ⟨"%.2f", [.conversion 0 ⟨false, false, false, none, some 2, .fixed⟩]⟩ :=
  parse_of_nextPiece rfl

/-- The format for whole numbers gives every one in decimal. -/
theorem applyFormat_integer (n : Int) :
    Factory.applyFormat "%d" (.integer n) = .ok (toString n) := by
  rw [Factory.applyFormat, parse_integer, ← ofList_decimalInt]
  simp [NumberSpec.apply, NumberSpec.applyPieces, Conversion.apply, Conversion.body,
    Conversion.sign, Conversion.pad]

theorem ofList_fixed_two (x : Binary64) : String.ofList (x.fixed 2) = x.twoPlaces := by
  cases x with
  | finite x =>
    have hplaced : (Binary64.finite x).fixed 2 = signText x.negative ++ placed 2 x.hundredths := by
      rw [Binary64.fixed, fixedUnits, if_pos (by decide), fixedRatio, show tenTo 2 = 100 from rfl]
      rfl
    have hsign : String.ofList (signText x.negative) = if x.negative then "-" else "" := by
      cases x.negative <;> rfl
    have htenth := ofList_digitChar (Nat.mod_lt (x.hundredths / 10) (by decide : 0 < 10))
    have hhundredth := ofList_digitChar (Nat.mod_lt x.hundredths (by decide : 0 < 10))
    calc String.ofList ((Binary64.finite x).fixed 2)
        = String.ofList (signText x.negative ++ (decimal (x.hundredths / 100) ++ (['.'] ++
            ([(x.hundredths / 10 % 10).digitChar] ++ [(x.hundredths % 10).digitChar])))) := by
          rw [hplaced, placed_two]
          rfl
      _ = Binary64.twoPlaces (.finite x) := by
          simp only [String.ofList_append, hsign, ofList_decimal, htenth, hhundredth,
            Binary64.twoPlaces, String.append_assoc]
  | infinite negative => cases negative <;> rfl
  | nan => rfl

/-- The format for other numbers gives every one with two decimal places. -/
theorem applyFormat_float (x : Binary64) :
    Factory.applyFormat "%.2f" (.float x) = .ok x.twoPlaces := by
  rw [Factory.applyFormat, parse_fixed, ← ofList_fixed_two]
  simp [NumberSpec.apply, NumberSpec.applyPieces, Conversion.apply, Conversion.body,
    Conversion.sign, Conversion.pad]

end Parlance
