import Mathlib.Data.Rat.Cast.Order
import Mathlib.Tactic.Linarith
import Parlance.Number.Basic

/-!
# Plural tags and values

A whole number and a finite double have a rational number as their exact value. Plural tags are told
by this value alone: the tags zero, one and two stand for these values in both forms of numbers, and
both zeros among the doubles have the value zero.

Result: `pluralTag_eq_iff`.
-/

namespace Parlance

/-! ## Definitions -/

/-- The exact value of a finite double. -/
def Finite.value (x : Finite) : ℚ :=
  (if x.negative then -1 else 1) * x.units / unitsPerOne

/-- The exact value of a number. Infinities and what is no number have none. -/
def Number.value? : Number → Option ℚ
  | .integer n => some n
  | .float (.finite x) => some x.value
  | .float _ => none

/-- The only value that numbers of a tag have, unless it is the tag other. -/
def PluralTag.value? : PluralTag → Option ℚ
  | .zero => some 0
  | .one => some 1
  | .two => some 2
  | .other => none

/-! ## Values -/

theorem unitsPerOne_pos : 0 < unitsPerOne :=
  twoTo_pos 1074

@[simp]
theorem Finite.units_zero (negative : Bool) : (Finite.zero negative).units = 0 :=
  rfl

@[simp]
theorem Finite.value_zero (negative : Bool) : (Finite.zero negative).value = 0 := by
  rw [Finite.value, Finite.units_zero, Nat.cast_zero, mul_zero, zero_div]

/-- Only zero has both signs. -/
theorem Finite.value_eq_natCast_iff {x : Finite} {k : Nat} :
    x.value = k ↔ x.units = k * unitsPerOne ∧ (x.negative = false ∨ k = 0) := by
  have hpos : (unitsPerOne : ℚ) ≠ 0 := Nat.cast_ne_zero.2 (Nat.ne_of_gt unitsPerOne_pos)
  rw [Finite.value, div_eq_iff hpos]
  cases x.negative with
  | false =>
    rw [if_neg Bool.false_ne_true, one_mul, ← Nat.cast_mul, Nat.cast_inj]
    exact ⟨fun h => ⟨h, Or.inl rfl⟩, And.left⟩
  | true =>
    rw [if_pos rfl]
    constructor
    · intro h
      have hsum : ((x.units + k * unitsPerOne : Nat) : ℚ) = 0 := by
        push_cast
        linarith
      obtain ⟨hunits, hproduct⟩ := Nat.add_eq_zero_iff.1 (Nat.cast_eq_zero.1 hsum)
      have hk : k = 0 :=
        (Nat.mul_eq_zero.1 hproduct).resolve_right (Nat.ne_of_gt unitsPerOne_pos)
      exact ⟨hunits.trans hproduct.symm, Or.inr hk⟩
    · rintro ⟨hunits, hk | rfl⟩
      · cases hk
      · rw [hunits, Nat.zero_mul, Nat.cast_zero, mul_zero, zero_mul]

theorem PluralTag.exists_value {tag : PluralTag} (h : tag ≠ .other) :
    ∃ q, tag.value? = some q := by
  cases tag with
  | other => exact absurd rfl h
  | _ => exact ⟨_, rfl⟩

namespace Number

theorem isNat_iff {n : Number} {k : Nat} : n.isNat k = true ↔ n.value? = some (k : ℚ) := by
  cases n with
  | integer n =>
    rw [value?, Option.some_inj, ← Int.cast_natCast, Int.cast_inj]
    simp [isNat]
  | float x =>
    cases x with
    | finite x =>
      rw [value?, Option.some_inj, Finite.value_eq_natCast_iff]
      simp [isNat, Binary64.isNat]
    | infinite negative => simp [isNat, Binary64.isNat, value?]
    | nan => simp [isNat, Binary64.isNat, value?]

/-- A number has the tag of a value exactly if it has this value. -/
theorem pluralTag_eq_iff {n : Number} {tag : PluralTag} {q : ℚ} (h : tag.value? = some q) :
    n.pluralTag = tag ↔ n.value? = some q := by
  have hzero : n.isNat 0 = true ↔ n.value? = some 0 := isNat_iff.trans (by simp)
  have hone : n.isNat 1 = true ↔ n.value? = some 1 := isNat_iff.trans (by simp)
  have htwo : n.isNat 2 = true ↔ n.value? = some 2 := isNat_iff.trans (by simp)
  simp only [pluralTag, hzero, hone, htwo]
  cases tag with
  | other => cases h
  | _ =>
    obtain rfl := Option.some.inj h
    split_ifs <;> simp_all

end Number

end Parlance
