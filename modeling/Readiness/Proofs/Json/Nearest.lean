import Mathlib.Algebra.Order.Field.Power
import Mathlib.Algebra.Order.Field.Rat
import Mathlib.Algebra.Order.Floor.Defs
import Mathlib.Data.Rat.Cast.Order
import Mathlib.Tactic.FieldSimp
import Mathlib.Tactic.Linarith
import Mathlib.Tactic.NormNum
import Mathlib.Tactic.Positivity
import Mathlib.Tactic.Ring
import Readiness.Json.Binary64

/-! Binary numbers and the decimals they are written as. A decimal stands for the binary number that
is nearest to it, of two the one with an even significand; the shortest decimal of a number stands
for this number. Neighbours are told apart by the place value of the last binary digit, `ulp`. -/
namespace Readiness.Json

namespace Fraction

def value (x : Fraction) : ℚ := x.num / x.den

theorem zpow_eq_of_nonneg {base : Nat} {exponent : Int} (nonneg : 0 ≤ exponent) :
    (base : ℚ) ^ exponent = ((base.pow exponent.toNat : Nat) : ℚ) := by
  conv_lhs => rw [← Int.toNat_of_nonneg nonneg, zpow_natCast]
  exact (Nat.cast_pow base exponent.toNat).symm

theorem zpow_eq_of_neg {base : Nat} {exponent : Int} (neg : ¬ 0 ≤ exponent) :
    (base : ℚ) ^ exponent = ((base.pow (-exponent).toNat : Nat) : ℚ)⁻¹ := by
  rw [← zpow_eq_of_nonneg (by omega), zpow_neg, inv_inv]

theorem value_scaled (n base : Nat) (exponent : Int) :
    (scaled n base exponent).value = n * (base : ℚ) ^ exponent := by
  unfold scaled
  split
  · next nonneg => rw [zpow_eq_of_nonneg nonneg, value, Nat.cast_mul, Nat.cast_one, div_one]
  · next neg => rw [zpow_eq_of_neg neg, value, div_eq_mul_inv]

theorem value_unscale (x : Fraction) (base : Nat) (exponent : Int) :
    (x.unscale base exponent).value = x.value / (base : ℚ) ^ exponent := by
  unfold unscale
  split
  · next nonneg => rw [zpow_eq_of_nonneg nonneg, value, value, Nat.cast_mul, div_div]
  · next neg =>
    rw [zpow_eq_of_neg neg, value, value, Nat.cast_mul, div_inv_eq_mul, div_mul_eq_mul_div]

theorem den_scaled_pos {base : Nat} (positive : 0 < base) (n : Nat) (exponent : Int) :
    0 < (scaled n base exponent).den := by
  unfold scaled
  split
  · exact Nat.one_pos
  · exact Nat.pow_pos positive

theorem den_unscale_pos {x : Fraction} {base : Nat} (positive : 0 < base) (fraction : 0 < x.den)
    (exponent : Int) : 0 < (x.unscale base exponent).den := by
  unfold unscale
  split
  · exact Nat.mul_pos fraction (Nat.pow_pos positive)
  · exact fraction

variable {x y : Fraction}

theorem le_iff (left : 0 < x.den) (right : 0 < y.den) : x.le y = true ↔ x.value ≤ y.value := by
  rw [le, decide_eq_true_iff, value, value,
    div_le_div_iff₀ (Nat.cast_pos.2 left) (Nat.cast_pos.2 right)]
  norm_cast

theorem lt_iff (left : 0 < x.den) (right : 0 < y.den) : x.lt y = true ↔ x.value < y.value := by
  rw [lt, decide_eq_true_iff, value, value,
    div_lt_div_iff₀ (Nat.cast_pos.2 left) (Nat.cast_pos.2 right)]
  norm_cast

theorem value_eq (fraction : 0 < x.den) :
    x.value = x.floor + ((x.num % x.den : Nat) : ℚ) / x.den := by
  have parts : (x.num : ℚ) = x.den * x.floor + (x.num % x.den : Nat) := by
    exact_mod_cast (Nat.div_add_mod x.num x.den).symm
  have positive : (x.den : ℚ) ≠ 0 := Nat.cast_ne_zero.2 fraction.ne'
  rw [value, parts]
  field_simp

theorem floor_le (fraction : 0 < x.den) : (x.floor : ℚ) ≤ x.value := by
  rw [value_eq fraction]
  exact le_add_of_nonneg_right (by positivity)

theorem lt_floor_add_one (fraction : 0 < x.den) : x.value < x.floor + 1 := by
  rw [value_eq fraction, add_lt_add_iff_left, div_lt_one (Nat.cast_pos.2 fraction)]
  exact_mod_cast Nat.mod_lt x.num fraction

theorem le_floor_iff (fraction : 0 < x.den) {n : Nat} : n ≤ x.floor ↔ (n : ℚ) ≤ x.value := by
  constructor
  · exact fun below => (Nat.cast_le.2 below).trans (floor_le fraction)
  · intro below
    have less : (n : ℚ) < x.floor + 1 := below.trans_lt (lt_floor_add_one fraction)
    exact Nat.lt_add_one_iff.1 (by exact_mod_cast less)

theorem round_eq : x.round = x.floor ∨ x.round = x.floor + 1 := by
  simp only [round, floor]
  split
  · exact .inl rfl
  · split
    · exact .inr rfl
    · rcases Nat.mod_two_eq_zero_or_one (x.num / x.den) with even | odd
      · exact .inl (by rw [even, Nat.add_zero])
      · exact .inr (by rw [odd])

theorem round_near (fraction : 0 < x.den) : |(x.round : ℚ) - x.value| ≤ 1 / 2 := by
  have positive : (0 : ℚ) < x.den := Nat.cast_pos.2 fraction
  rw [value_eq fraction, abs_le]
  simp only [round, floor]
  split
  · next low =>
    have half : ((x.num % x.den : Nat) : ℚ) / x.den ≤ 1 / 2 := by
      rw [div_le_div_iff₀ positive two_pos]
      exact_mod_cast (by omega : x.num % x.den * 2 ≤ 1 * x.den)
    have := div_nonneg (Nat.cast_nonneg (α := ℚ) (x.num % x.den)) positive.le
    constructor <;> linarith
  · next notLow =>
    have half : 1 / 2 ≤ ((x.num % x.den : Nat) : ℚ) / x.den := by
      rw [div_le_div_iff₀ two_pos positive]
      exact_mod_cast (by omega : 1 * x.den ≤ x.num % x.den * 2)
    have most : ((x.num % x.den : Nat) : ℚ) / x.den ≤ 1 := by
      rw [div_le_one positive]
      exact_mod_cast (Nat.mod_lt x.num fraction).le
    split
    · push_cast
      constructor <;> linarith
    · next notHigh =>
      have exact : ((x.num % x.den : Nat) : ℚ) / x.den = 1 / 2 := by
        rw [div_eq_div_iff positive.ne' two_ne_zero]
        exact_mod_cast (by omega : x.num % x.den * 2 = 1 * x.den)
      rcases Nat.mod_two_eq_zero_or_one (x.num / x.den) with even | odd
      · rw [even, exact]
        push_cast
        constructor <;> linarith
      · rw [odd, exact]
        push_cast
        constructor <;> linarith

theorem value_between (positive : x.num ≠ 0) (fraction : 0 < x.den) :
    (2 : ℚ) ^ ((Nat.log2 x.num : Int) - Nat.log2 x.den - 1) < x.value ∧
      x.value < 2 ^ ((Nat.log2 x.num : Int) - Nat.log2 x.den + 1) := by
  have den : (0 : ℚ) < x.den := Nat.cast_pos.2 fraction
  have numLow : (2 : ℚ) ^ Nat.log2 x.num ≤ x.num := by exact_mod_cast Nat.log2_self_le positive
  have numHigh : (x.num : ℚ) < 2 ^ (Nat.log2 x.num + 1) := by exact_mod_cast Nat.lt_log2_self
  have denLow : (2 : ℚ) ^ Nat.log2 x.den ≤ x.den := by exact_mod_cast Nat.log2_self_le fraction.ne'
  have denHigh : (x.den : ℚ) < 2 ^ (Nat.log2 x.den + 1) := by exact_mod_cast Nat.lt_log2_self
  constructor
  · rw [value, lt_div_iff₀ den, sub_sub, zpow_sub₀ two_ne_zero, div_mul_eq_mul_div,
      div_lt_iff₀ (by positivity)]
    calc (2 : ℚ) ^ (Nat.log2 x.num : Int) * x.den ≤ x.num * x.den := by
          rw [zpow_natCast]
          gcongr
      _ < x.num * 2 ^ ((Nat.log2 x.den : Int) + 1) := by
          have : (0 : ℚ) < x.num := lt_of_lt_of_le (by positivity) numLow
          gcongr
          exact_mod_cast denHigh
  · rw [value, div_lt_iff₀ den, sub_add_eq_add_sub, zpow_sub₀ two_ne_zero, div_mul_eq_mul_div,
      lt_div_iff₀ (by positivity)]
    calc (x.num : ℚ) * 2 ^ (Nat.log2 x.den : Int) ≤ x.num * x.den := by
          rw [zpow_natCast]
          gcongr
      _ < 2 ^ ((Nat.log2 x.num : Int) + 1) * x.den := by
          gcongr
          exact_mod_cast numHigh

end Fraction

namespace Binary64

/-- What a number is worth without its sign. -/
def value (x : Binary64) : ℚ := x.significand * 2 ^ x.exponent

/-- What the last digit of the significand counts. -/
def ulp (x : Binary64) : ℚ := 2 ^ x.exponent

/-- A significand of 53 bits; one with less goes with the least exponent. -/
structure Fits (x : Binary64) : Prop where
  short : x.significand < 2 ^ 53
  least : -1074 ≤ x.exponent
  full : -1074 < x.exponent → 2 ^ 52 ≤ x.significand

/-- A number of 64 bits. -/
structure IsFinite (x : Binary64) : Prop extends x.Fits where
  greatest : x.exponent ≤ 971

/-- No other number is as near to `q` as this one, but for a neighbour when this one is even. That the
exponents of the others have no bound keeps what is too large from the greatest number. -/
def IsNearest (x : Binary64) (q : ℚ) : Prop :=
  ∀ y : Binary64, y.Fits → |q - x.value| ≤ |q - y.value| ∧
    (|q - x.value| = |q - y.value| → y.value = x.value ∨ x.significand % 2 = 0)

variable {x y : Binary64} {q : ℚ}

theorem ulp_pos (x : Binary64) : 0 < x.ulp := zpow_pos two_pos x.exponent

theorem value_eq_mul_ulp (x : Binary64) : x.value = x.significand * x.ulp := rfl

theorem exists_eq_mul_ulp (coarser : x.exponent ≤ y.exponent) : ∃ n : ℕ, y.value = n * x.ulp := by
  obtain ⟨k, more⟩ := Int.le.dest coarser
  refine ⟨y.significand * 2 ^ k, ?_⟩
  rw [value, ulp, ← more, zpow_add₀ two_ne_zero, zpow_natCast]
  push_cast
  ring

theorem Fits.value_le (fits : y.Fits) (finer : y.exponent < x.exponent) :
    y.value ≤ (2 ^ 52 - 1 / 2) * x.ulp := by
  have digits : (y.significand : ℚ) + 1 ≤ 2 ^ 53 := by exact_mod_cast fits.short
  have digits : (y.significand : ℚ) ≤ 2 ^ 53 - 1 := by linarith
  have half : (2 : ℚ) ^ y.exponent ≤ 2 ^ (x.exponent - 1) :=
    zpow_le_zpow_right₀ one_le_two (by omega)
  calc y.value ≤ (2 ^ 53 - 1) * 2 ^ (x.exponent - 1) := by
        rw [value]
        gcongr
    _ = (2 ^ 52 - 1 / 2) * x.ulp := by
        rw [ulp, zpow_sub_one₀ two_ne_zero]
        ring

theorem Fits.full_of_lt (fits : x.Fits) (other : y.Fits) (finer : y.exponent < x.exponent) :
    (2 : ℚ) ^ 52 ≤ x.significand := by
  have := other.least
  exact_mod_cast fits.full (by omega)

theorem add_ulp_le (fits : x.Fits) (other : y.Fits) (less : x.value < y.value) :
    x.value + x.ulp ≤ y.value := by
  rcases le_or_gt x.exponent y.exponent with coarser | finer
  · obtain ⟨n, same⟩ := exists_eq_mul_ulp coarser
    rw [x.value_eq_mul_ulp, same] at less ⊢
    have below : x.significand + 1 ≤ n := by
      exact_mod_cast lt_of_mul_lt_mul_right less x.ulp_pos.le
    have below : (x.significand + 1 : ℚ) ≤ n := by exact_mod_cast below
    calc x.significand * x.ulp + x.ulp = (x.significand + 1) * x.ulp := by ring
      _ ≤ n * x.ulp := mul_le_mul_of_nonneg_right below x.ulp_pos.le
  · have full := fits.full_of_lt other finer
    have small := other.value_le finer
    have large : (2 : ℚ) ^ 52 * x.ulp ≤ x.value := mul_le_mul_of_nonneg_right full x.ulp_pos.le
    have := x.ulp_pos
    linarith

/-- How far below a number the next one is, in the place value of its last digit: half of it below a
power of two. -/
def gap (x : Binary64) : ℚ := if x.significand = 2 ^ 52 ∧ -1074 < x.exponent then 1 / 2 else 1

theorem le_sub_gap (fits : x.Fits) (other : y.Fits) (less : y.value < x.value) :
    y.value ≤ x.value - x.gap * x.ulp := by
  have gap_le : x.gap * x.ulp ≤ 1 * x.ulp := by
    refine mul_le_mul_of_nonneg_right ?_ x.ulp_pos.le
    unfold gap
    split <;> norm_num
  rcases le_or_gt x.exponent y.exponent with coarser | finer
  · obtain ⟨n, same⟩ := exists_eq_mul_ulp coarser
    rw [x.value_eq_mul_ulp, same] at less ⊢
    have above : n + 1 ≤ x.significand := by
      exact_mod_cast lt_of_mul_lt_mul_right less x.ulp_pos.le
    have above : (n + 1 : ℚ) ≤ x.significand := by exact_mod_cast above
    have := mul_le_mul_of_nonneg_right above x.ulp_pos.le
    linarith
  · have full := fits.full_of_lt other finer
    have small := other.value_le finer
    have least := other.least
    rw [gap] at gap_le ⊢
    split at gap_le
    · next border =>
      rw [if_pos border, x.value_eq_mul_ulp, border.1]
      push_cast
      linarith
    · next noBorder =>
      have longer : 2 ^ 52 + 1 ≤ x.significand := by
        have : x.significand ≠ 2 ^ 52 := fun same => noBorder ⟨same, by omega⟩
        have : 2 ^ 52 ≤ x.significand := by exact_mod_cast full
        omega
      have longer : (2 ^ 52 + 1 : ℚ) ≤ x.significand := by exact_mod_cast longer
      have := mul_le_mul_of_nonneg_right longer x.ulp_pos.le
      have := x.ulp_pos
      rw [if_neg noBorder, x.value_eq_mul_ulp]
      linarith

/-- What is nearer to a number than to its neighbours, stands for it; and so does the border to a
neighbour, if the number is even. -/
theorem isNearest_of_between (fits : x.Fits) (above : q ≤ x.value + x.ulp / 2)
    (below : x.value - x.gap * x.ulp / 2 ≤ q)
    (inside : x.significand % 2 = 0 ∨ q < x.value + x.ulp / 2 ∧ x.value - x.gap * x.ulp / 2 < q) :
    x.IsNearest q := by
  intro y other
  rcases lt_trichotomy y.value x.value with lower | same | higher
  · have apart := le_sub_gap fits other lower
    rw [abs_of_pos (by linarith : 0 < q - y.value)]
    refine ⟨abs_le.2 ⟨by linarith, by linarith⟩, fun tie => .inr ?_⟩
    refine inside.resolve_right fun strict => ?_
    rcases abs_cases (q - x.value) with ⟨eq, -⟩ | ⟨eq, -⟩ <;> linarith
  · rw [same]
    exact ⟨le_rfl, fun _ => .inl rfl⟩
  · have apart := add_ulp_le fits other higher
    have positive := x.ulp_pos
    rw [abs_of_neg (by linarith : q - y.value < 0)]
    refine ⟨abs_le.2 ⟨by linarith, by linarith⟩, fun tie => .inr ?_⟩
    refine inside.resolve_right fun strict => ?_
    rcases abs_cases (q - x.value) with ⟨eq, -⟩ | ⟨eq, -⟩ <;> linarith

theorem isNearest_value (x : Binary64) : x.IsNearest x.value := by
  intro y _
  rw [sub_self, abs_zero]
  exact ⟨abs_nonneg _, fun tie => .inl (sub_eq_zero.1 (abs_eq_zero.1 tie.symm)).symm⟩

theorem value_quarter (n : ℕ) (x : Binary64) :
    (Fraction.scaled n 2 (x.exponent - 2)).value = n / 4 * x.ulp := by
  rw [Fraction.value_scaled, Nat.cast_ofNat, zpow_sub₀ two_ne_zero, ulp]
  norm_num
  ring

theorem value_lower {low : ℕ} (enough : low ≤ 4 * x.significand) :
    (Fraction.scaled (4 * x.significand - low) 2 (x.exponent - 2)).value =
      x.value - low / 4 * x.ulp := by
  rw [value_quarter, Nat.cast_sub enough, value_eq_mul_ulp]
  push_cast
  ring

theorem value_upper (x : Binary64) :
    (Fraction.scaled (4 * x.significand + 2) 2 (x.exponent - 2)).value = x.value + x.ulp / 2 := by
  rw [value_quarter, value_eq_mul_ulp]
  push_cast
  ring

theorem covers_bounds {y : Fraction} (positive : 0 < x.significand) (fraction : 0 < y.den)
    (covered : x.covers y = true) :
    y.value ≤ x.value + x.ulp / 2 ∧ x.value - x.gap * x.ulp / 2 ≤ y.value ∧
      (x.significand % 2 = 0 ∨
        y.value < x.value + x.ulp / 2 ∧ x.value - x.gap * x.ulp / 2 < y.value) := by
  have den (n : ℕ) : 0 < (Fraction.scaled n 2 (x.exponent - 2)).den :=
    Fraction.den_scaled_pos two_pos _ _
  have border : x.gap * x.ulp / 2 =
      ((if x.significand = 2 ^ 52 ∧ -1074 < x.exponent then 1 else 2 : ℕ) : ℚ) / 4 * x.ulp := by
    rw [gap]
    split <;> push_cast <;> ring
  have enough : (if x.significand = 2 ^ 52 ∧ -1074 < x.exponent then 1 else 2) ≤
      4 * x.significand := by
    split <;> omega
  rw [border, ← value_upper, ← value_lower enough]
  unfold covers at covered
  simp only at covered
  split at covered
  · next even =>
    rw [Bool.and_eq_true, Fraction.le_iff (den _) fraction, Fraction.le_iff fraction (den _)] at covered
    exact ⟨covered.2, covered.1, .inl even⟩
  · rw [Bool.and_eq_true, Fraction.lt_iff (den _) fraction, Fraction.lt_iff fraction (den _)] at covered
    exact ⟨covered.2.le, covered.1.le, .inr ⟨covered.2, covered.1⟩⟩

theorem isNearest_of_covers {y : Fraction} (fits : x.Fits) (positive : 0 < x.significand)
    (fraction : 0 < y.den) (covered : x.covers y = true) : x.IsNearest y.value := by
  obtain ⟨above, below, inside⟩ := covers_bounds positive fraction covered
  exact isNearest_of_between fits above below inside

theorem value_pos_of_covers {y : Fraction} (positive : 0 < x.significand) (fraction : 0 < y.den)
    (covered : x.covers y = true) : 0 < y.value := by
  obtain ⟨-, below, -⟩ := covers_bounds positive fraction covered
  have whole : (1 : ℚ) ≤ x.significand := by exact_mod_cast positive
  have large := mul_le_mul_of_nonneg_right whole x.ulp_pos.le
  have small : x.gap * x.ulp ≤ 1 * x.ulp := by
    refine mul_le_mul_of_nonneg_right ?_ x.ulp_pos.le
    unfold gap
    split <;> norm_num
  have := x.ulp_pos
  rw [value_eq_mul_ulp] at below
  linarith

/-! ## From fractions -/

theorem le_floor_unscale_iff {x : Fraction} (fraction : 0 < x.den) {n : ℕ} {exponent : Int} :
    n ≤ (x.unscale 2 exponent).floor ↔ (n : ℚ) * 2 ^ exponent ≤ x.value := by
  rw [Fraction.le_floor_iff (Fraction.den_unscale_pos two_pos fraction exponent),
    Fraction.value_unscale, Nat.cast_ofNat, le_div_iff₀ (by positivity)]

/-- At its exponent a fraction has the 53 bits of a significand before the point, or, at the least
exponent, no more of them. -/
theorem exponentOf_spec {x : Fraction} (positive : x.num ≠ 0) (fraction : 0 < x.den) :
    -1074 ≤ exponentOf x ∧ (x.unscale 2 (exponentOf x)).floor < 2 ^ 53 ∧
      (-1074 < exponentOf x → 2 ^ 52 ≤ (x.unscale 2 (exponentOf x)).floor) := by
  obtain ⟨above, below⟩ := Fraction.value_between positive fraction
  have reaches {n : ℕ} {exponent : Int} :
      n ≤ (x.unscale 2 exponent).floor ↔ (n : ℚ) * 2 ^ exponent ≤ x.value :=
    le_floor_unscale_iff fraction
  have bottom : leastExponent = -1074 := rfl
  rw [exponentOf]
  generalize (Nat.log2 x.num : Int) - Nat.log2 x.den = size at *
  generalize leastExponent = least at *
  subst bottom
  by_cases short : (x.unscale 2 (max (size - 53) (-1074))).floor < Nat.pow 2 53
  · rw [if_pos short]
    refine ⟨le_max_right .., short, fun more => reaches.2 ?_⟩
    obtain large : max (size - 53) (-1074) = size - 53 := max_eq_left (by omega)
    rw [large]
    calc ((2 ^ 52 : ℕ) : ℚ) * 2 ^ (size - 53) = 2 ^ (size - 1) := by
          rw [show size - 1 = 52 + (size - 53) by ring, zpow_add₀ two_ne_zero]
          norm_num
      _ ≤ x.value := above.le
  · rw [if_neg short]
    have full := reaches.1 (not_lt.1 short)
    have double : ((2 ^ 52 : ℕ) : ℚ) * 2 ^ (max (size - 53) (-1074) + 1) =
        ((2 ^ 53 : ℕ) : ℚ) * 2 ^ max (size - 53) (-1074) := by
      rw [zpow_add_one₀ two_ne_zero]
      push_cast
      ring
    refine ⟨by omega, not_le.1 fun tooLong => ?_, fun _ => reaches.2 (double.trans_le full)⟩
    have far := (reaches.1 tooLong).trans_lt below
    rw [Nat.cast_pow, Nat.cast_ofNat, ← zpow_natCast, ← zpow_add₀ two_ne_zero,
      zpow_lt_zpow_iff_right₀ one_lt_two] at far
    push_cast at far
    omega

theorem isFinite_zero (negative : Bool) : (zero negative).IsFinite where
  short := Nat.two_pow_pos 53
  least := Int.le_refl (-1074)
  full less := absurd less (Int.lt_irrefl (-1074))
  greatest := (by decide : (-1074 : Int) ≤ 971)

/-- What a fraction becomes: its digits at its exponent, or the next power of two. -/
theorem ofFraction_eq_some {negative : Bool} {x : Fraction} (positive : x.num ≠ 0)
    (read : ofFraction negative x = some y) : y.exponent ≤ 971 ∧
      (y.significand = (x.unscale 2 (exponentOf x)).round ∧ y.exponent = exponentOf x ∧
          y.significand ≠ 2 ^ 53 ∨
        y.significand = 2 ^ 52 ∧ y.exponent = exponentOf x + 1) := by
  have top : greatestExponent = 971 := rfl
  rw [ofFraction, if_neg positive] at read
  dsimp only at read
  generalize exponentOf x = exponent at *
  generalize (x.unscale 2 exponent).round = significand at *
  generalize greatestExponent = greatest at *
  subst top
  by_cases carried : significand = Nat.pow 2 53
  · rw [if_pos carried] at read
    split at read <;> cases read
    next low => exact ⟨low, .inr ⟨rfl, rfl⟩⟩
  · rw [if_neg carried] at read
    split at read <;> cases read
    next low => exact ⟨low, .inl ⟨rfl, rfl, carried⟩⟩

theorem ofFraction_isFinite {negative : Bool} {x : Fraction} (fraction : 0 < x.den)
    (read : ofFraction negative x = some y) : y.IsFinite := by
  by_cases zero : x.num = 0
  · rw [ofFraction, if_pos zero] at read
    cases read
    exact isFinite_zero negative
  · obtain ⟨least, short, full⟩ := exponentOf_spec zero fraction
    have rounded := Fraction.round_eq (x := x.unscale 2 (exponentOf x))
    obtain ⟨low, ⟨digits, exponent, carried⟩ | ⟨digits, exponent⟩⟩ := ofFraction_eq_some zero read
    · exact ⟨⟨by omega, by omega, fun more => by have := full (by omega); omega⟩, low⟩
    · exact ⟨⟨by omega, by omega, fun _ => digits.ge⟩, low⟩

theorem ofFraction_positive {negative : Bool} {x : Fraction} (fraction : 0 < x.den)
    (large : 1 ≤ x.value) (read : ofFraction negative x = some y) : 0 < y.significand := by
  have positive : x.num ≠ 0 := by
    intro zero
    rw [Fraction.value, zero, Nat.cast_zero, zero_div] at large
    exact absurd large (by norm_num)
  obtain ⟨least, -, full⟩ := exponentOf_spec positive fraction
  have rounded := Fraction.round_eq (x := x.unscale 2 (exponentOf x))
  have some : 1 ≤ (x.unscale 2 (exponentOf x)).floor := by
    rcases least.lt_or_eq with more | same
    · exact le_trans (Nat.one_le_two_pow) (full more)
    · refine (le_floor_unscale_iff fraction).2 (le_trans ?_ large)
      rw [← same, Nat.cast_one, one_mul]
      exact zpow_le_one_of_nonpos₀ one_le_two (by norm_num)
  obtain ⟨-, ⟨digits, -, -⟩ | ⟨digits, -⟩⟩ := ofFraction_eq_some positive read <;> omega

end Binary64

/-! ## Decimals -/

def Decimal.value (d : Decimal) : ℚ := d.digits * 10 ^ d.exponent

namespace Binary64

variable {x : Binary64}

theorem value_magnitude (x : Binary64) : x.magnitude.value = x.value := by
  rw [magnitude, Fraction.value_scaled, value, Nat.cast_ofNat]

theorem den_magnitude_pos (x : Binary64) : 0 < x.magnitude.den :=
  Fraction.den_scaled_pos two_pos _ _

theorem value_ten (n : ℕ) (exponent : Int) :
    (Fraction.scaled n 10 exponent).value = n * 10 ^ exponent := by
  rw [Fraction.value_scaled, Nat.cast_ofNat]

theorem den_ten_pos (n : ℕ) (exponent : Int) : 0 < (Fraction.scaled n 10 exponent).den :=
  Fraction.den_scaled_pos (by decide) _ _

theorem decimalExponent_bounds {x : Fraction} (fraction : 0 < x.den) {top : Int} {steps : ℕ}
    (least : (10 : ℚ) ^ (top - steps) ≤ x.value) (most : x.value < 10 ^ (top + 1)) :
    (10 : ℚ) ^ decimalExponent x top steps ≤ x.value ∧
      x.value < 10 ^ (decimalExponent x top steps + 1) := by
  induction steps generalizing top with
  | zero => exact ⟨by simpa [decimalExponent] using least, most⟩
  | succ steps ih =>
    have reached : (Fraction.scaled 1 10 top).le x = true ↔ (10 : ℚ) ^ top ≤ x.value := by
      rw [Fraction.le_iff (den_ten_pos _ _) fraction, value_ten, Nat.cast_one, one_mul]
    unfold decimalExponent
    split
    · next here => exact ⟨reached.1 here, most⟩
    · next further =>
      refine ih ?_ ?_
      · rw [sub_sub, add_comm 1]
        exact_mod_cast least
      · rw [sub_add_cancel]
        exact not_le.1 fun here => further (reached.2 here)

theorem candidate_covered {exponent : Int} {d : Decimal} (found : x.candidate exponent = some d) :
    d.exponent = exponent ∧ x.covers (.scaled d.digits 10 exponent) = true := by
  unfold candidate at found
  simp only at found
  split at found <;> cases found
  · next below above =>
    refine ⟨rfl, ?_⟩
    rcases Fraction.round_eq (x := x.magnitude.unscale 10 exponent) with down | up
    · rwa [down]
    · rwa [up]
  · next below _ => exact ⟨rfl, below⟩
  · next _ above => exact ⟨rfl, above⟩

theorem firstCandidate_eq (x : Binary64) (exponent : Int) (grids : ℕ) :
    x.covers (.scaled (x.firstCandidate exponent grids).digits 10
        (x.firstCandidate exponent grids).exponent) = true ∨
      x.firstCandidate exponent grids =
        ⟨(x.magnitude.unscale 10 (exponent - grids)).round, exponent - grids⟩ := by
  induction grids generalizing exponent with
  | zero => exact .inr (by rw [Nat.cast_zero, sub_zero]; rfl)
  | succ grids ih =>
    rw [firstCandidate]
    cases found : x.candidate exponent with
    | none =>
      have finer : exponent - 1 - (grids : Int) = exponent - ((grids + 1 : ℕ) : Int) := by
        push_cast
        ring
      rw [← finer]
      exact ih (exponent - 1)
    | some d =>
      obtain ⟨same, covered⟩ := candidate_covered found
      refine .inl ?_
      rw [Option.getD_some, same]
      exact covered

/-- Seventeen digits suffice: the multiples of their last place are closer to each other than the
neighbours of the number. -/
theorem round_isNearest (fits : x.Fits) {exponent : Int}
    (fine : (10 : ℚ) ^ exponent * 10 ^ 16 ≤ x.value) :
    x.IsNearest (Decimal.value ⟨(x.magnitude.unscale 10 exponent).round, exponent⟩) ∧
      0 < (x.magnitude.unscale 10 exponent).round := by
  have grid : (0 : ℚ) < 10 ^ exponent := by positivity
  have near := Fraction.round_near
    (Fraction.den_unscale_pos (by decide : 0 < 10) x.den_magnitude_pos exponent)
  rw [Fraction.value_unscale, value_magnitude, Nat.cast_ofNat] at near
  generalize (x.magnitude.unscale 10 exponent).round = digits at near
  obtain ⟨low, high⟩ := abs_le.1 near
  have low : x.value - 10 ^ exponent / 2 ≤ digits * 10 ^ exponent := by
    have := mul_le_mul_of_nonneg_right (by linarith : x.value / 10 ^ exponent - 1 / 2 ≤ digits) grid.le
    rw [sub_mul, div_mul_cancel₀ _ grid.ne'] at this
    linarith
  have high : digits * 10 ^ exponent ≤ x.value + 10 ^ exponent / 2 := by
    have := mul_le_mul_of_nonneg_right (by linarith : digits ≤ x.value / 10 ^ exponent + 1 / 2) grid.le
    rw [add_mul, div_mul_cancel₀ _ grid.ne'] at this
    linarith
  have ulp := x.ulp_pos
  have size : x.value < 2 ^ 53 * x.ulp :=
    mul_lt_mul_of_pos_right (by exact_mod_cast fits.short) ulp
  -- Where the number below is half as far, the significand is the least one of 53 bits.
  have closer : (10 : ℚ) ^ exponent < x.gap * x.ulp := by
    unfold gap
    split
    · next border =>
      rw [value_eq_mul_ulp, border.1] at fine
      push_cast at fine
      linarith
    · linarith
  have gap_le : x.gap * x.ulp ≤ 1 * x.ulp := by
    refine mul_le_mul_of_nonneg_right ?_ ulp.le
    unfold gap
    split <;> norm_num
  constructor
  · refine isNearest_of_between fits ?_ ?_ (.inr ⟨?_, ?_⟩) <;> rw [Decimal.value] <;> linarith
  · have : (0 : ℚ) < digits * 10 ^ exponent := by linarith
    exact_mod_cast (mul_pos_iff_of_pos_right grid).1 this

theorem dropZeros_value (d : Decimal) (steps : ℕ) :
    (dropZeros d steps).value = d.value ∧ (0 < d.digits → 0 < (dropZeros d steps).digits) := by
  induction steps generalizing d with
  | zero => exact ⟨rfl, id⟩
  | succ steps ih =>
    rw [dropZeros]
    split
    · next zero =>
      obtain ⟨same, positive⟩ := ih ⟨d.digits / 10, d.exponent + 1⟩
      have tenfold : d.digits = d.digits / 10 * 10 := by omega
      refine ⟨same.trans ?_, fun some => positive (by dsimp only; omega)⟩
      rw [Decimal.value, Decimal.value, zpow_add_one₀ (by norm_num)]
      conv_rhs => rw [tenfold]
      push_cast
      ring
    · exact ⟨rfl, id⟩

theorem shortest_isNearest (finite : x.IsFinite) (positive : 0 < x.significand) :
    x.IsNearest x.shortest.value ∧ 0 < x.shortest.digits := by
  -- The search for the first digit begins above the greatest number and would end below the least.
  have least : (10 : ℚ) ^ (309 - (640 : ℕ) : Int) ≤ x.magnitude.value := by
    have whole : (1 : ℚ) ≤ x.significand := by exact_mod_cast positive
    have powers : (2 : ℚ) ^ 1074 ≤ 10 ^ 331 := by
      exact_mod_cast (by decide +kernel : 2 ^ 1074 ≤ 10 ^ 331)
    calc (10 : ℚ) ^ (309 - (640 : ℕ) : Int) = (10 ^ 331)⁻¹ := by norm_num
      _ ≤ (2 ^ 1074)⁻¹ := inv_anti₀ (by positivity) powers
      _ = 2 ^ (-1074 : Int) := by norm_num
      _ ≤ x.ulp := zpow_le_zpow_right₀ one_le_two finite.least
      _ ≤ x.magnitude.value := by
        rw [value_magnitude, value_eq_mul_ulp]
        exact le_mul_of_one_le_left x.ulp_pos.le whole
  have most : x.magnitude.value < 10 ^ (309 + 1 : Int) := by
    have short : (x.significand : ℚ) < 2 ^ 53 := by exact_mod_cast finite.short
    have powers : (2 : ℚ) ^ 1024 < 10 ^ 310 := by
      exact_mod_cast (by decide +kernel : 2 ^ 1024 < 10 ^ 310)
    calc x.magnitude.value < 2 ^ 53 * x.ulp := by
          rw [value_magnitude, value_eq_mul_ulp]
          exact mul_lt_mul_of_pos_right short x.ulp_pos
      _ ≤ 2 ^ 53 * 2 ^ (971 : Int) := by
          gcongr
          exact zpow_le_zpow_right₀ one_le_two finite.greatest
      _ = 2 ^ 1024 := by
          rw [← zpow_natCast, ← zpow_add₀ two_ne_zero]
          rfl
      _ < 10 ^ (309 + 1 : Int) := powers
  obtain ⟨reached, -⟩ := decimalExponent_bounds x.den_magnitude_pos least most
  rw [value_magnitude] at reached
  rw [shortest]
  generalize decimalExponent x.magnitude 309 640 = top at reached ⊢
  obtain ⟨same, some⟩ := dropZeros_value (x.firstCandidate top 16) 17
  rw [same]
  refine And.imp_right some ?_
  rcases x.firstCandidate_eq top 16 with covered | last
  · have nearest := isNearest_of_covers finite.toFits positive (den_ten_pos _ _) covered
    have worth := value_pos_of_covers positive (den_ten_pos _ _) covered
    rw [value_ten] at nearest worth
    exact ⟨nearest, by exact_mod_cast (mul_pos_iff_of_pos_right (by positivity)).1 worth⟩
  · rw [last]
    refine round_isNearest finite.toFits ?_
    rwa [zpow_sub₀ (by norm_num), Nat.cast_ofNat, zpow_ofNat, div_mul_cancel₀ _ (by norm_num)]

end Binary64

end Readiness.Json
