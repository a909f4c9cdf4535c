import Mathlib.Algebra.Order.Field.Power
import Mathlib.Data.Rat.Cast.Order
import Mathlib.Tactic.FieldSimp
import Mathlib.Tactic.Linarith
import Mathlib.Tactic.Positivity
import Rulebook.Double.Shortest

/-!
The rationals that round to a floating-point number. They form an interval around it, the intervals
of different numbers of one sign have nothing in common, and the exact integer comparisons decide
whether a decimal is in the interval.
-/

namespace Rulebook.Double

/-- A quarter of the last place of the number. -/
def quarter (d : Double) : ℚ :=
  2 ^ (d.exponent - 2)

/-- How many quarters the interval of the number goes down: just above a power of two half as many
as it goes up. -/
def gapBelow (d : Double) : Nat :=
  if d.significand = 0x10000000000000 ∧ d.exponent ≠ -1074 then 1 else 2

/-- The magnitude of the number. -/
def magnitude (d : Double) : ℚ :=
  4 * d.significand * d.quarter

def low (d : Double) : ℚ :=
  (4 * d.significand - d.gapBelow) * d.quarter

def high (d : Double) : ℚ :=
  (4 * d.significand + 2) * d.quarter

/-- The rational rounds to the magnitude of the number: it is between the two ends of the interval,
and the ends belong to it when the significand is even. -/
structure Rounds (d : Double) (x : ℚ) : Prop where
  low_le : d.low ≤ x
  le_high : x ≤ d.high
  strict : d.significand % 2 = 1 → d.low < x ∧ x < d.high

variable {d d' : Double} {x : ℚ}

theorem quarter_pos (d : Double) : 0 < d.quarter := by
  unfold quarter
  positivity

theorem magnitude_pos (h : d.significand ≠ 0) : 0 < d.magnitude := by
  have hquarter := d.quarter_pos
  have hsignificand : (0 : ℚ) < d.significand := by exact_mod_cast Nat.pos_of_ne_zero h
  unfold magnitude
  positivity

theorem gapBelow_eq (d : Double) :
    d.gapBelow = 2 ∨ d.gapBelow = 1 ∧ d.significand = 0x10000000000000 := by
  unfold gapBelow
  split
  · rename_i h
    exact Or.inr ⟨rfl, h.1⟩
  · exact Or.inl rfl

theorem Rounds.of_lt (hlow : d.low < x) (hhigh : x < d.high) : d.Rounds x :=
  ⟨hlow.le, hhigh.le, fun _ => ⟨hlow, hhigh⟩⟩

theorem Rounds.meet (hx : d.Rounds x) (hx' : d'.Rounds x) (h : d.high ≤ d'.low) :
    d.high = d'.low ∧ d.significand % 2 = 0 ∧ d'.significand % 2 = 0 := by
  have hhigh := hx.le_high
  have hlow := hx'.low_le
  refine ⟨by linarith, ?_, ?_⟩
  · by_contra hodd
    have hstrict := (hx.strict (by omega)).2
    linarith
  · by_contra hodd
    have hstrict := (hx'.strict (by omega)).1
    linarith

theorem gapBelow_le (d : Double) : (d.gapBelow : ℚ) ≤ 2 := by
  rcases d.gapBelow_eq with h | ⟨h, -⟩ <;> rw [h] <;> norm_num

theorem Rounds.significand_le (hx : d.Rounds x) (hx' : d'.Rounds x)
    (hexponent : d.exponent = d'.exponent) : d'.significand ≤ d.significand := by
  by_contra hlt
  rw [not_le] at hlt
  have hquarter : d'.quarter = d.quarter := by rw [quarter, quarter, hexponent]
  have hpos := d.quarter_pos
  have hgap := d'.gapBelow_le
  have hnext : (d.significand : ℚ) + 1 ≤ d'.significand := by exact_mod_cast hlt
  have hends : d.high ≤ d'.low := by
    rw [low, high, hquarter]
    exact mul_le_mul_of_nonneg_right (by linarith) hpos.le
  obtain ⟨heq, heven, heven'⟩ := hx.meet hx' hends
  rw [low, high, hquarter, mul_left_inj' hpos.ne'] at heq
  have hnear : (d'.significand : ℚ) ≤ d.significand + 1 := by linarith
  have hnear' : d'.significand ≤ d.significand + 1 := by exact_mod_cast hnear
  omega

/-- A greater exponent has its interval further up: its significand has all bits, so even the lower
end is beyond the greatest significand of a smaller exponent. -/
theorem Rounds.exponent_le (hx : d.Rounds x) (hx' : d'.Rounds x) : d'.exponent ≤ d.exponent := by
  by_contra hlt
  rw [not_le] at hlt
  obtain ⟨hsignificand, hleast, -, -⟩ := d.canonical
  obtain ⟨-, -, -, hfull⟩ := d'.canonical
  have hpos := d.quarter_pos
  have hquarter : 2 * d.quarter ≤ d'.quarter := by
    have hpow : (2 : ℚ) ^ (d.exponent - 2 + 1) ≤ 2 ^ (d'.exponent - 2) :=
      zpow_le_zpow_right₀ (by norm_num) (by omega)
    rwa [zpow_add₀ (by norm_num), zpow_one, mul_comm] at hpow
  have hgap : (0x3fffffffffffff : ℚ) ≤ 4 * d'.significand - d'.gapBelow := by
    have hle : 0x3fffffffffffff + d'.gapBelow ≤ 4 * d'.significand := by
      unfold gapBelow
      split <;> omega
    have hcast : (0x3fffffffffffff + d'.gapBelow : ℚ) ≤ 4 * d'.significand := by exact_mod_cast hle
    linarith
  have hgreatest : (d.significand : ℚ) + 1 ≤ 0x20000000000000 := by exact_mod_cast hsignificand
  have hlow : 0x7ffffffffffffe * d.quarter ≤ d'.low := by
    rw [low]
    nlinarith
  have hends : d.high ≤ d'.low := by
    rw [high]
    nlinarith
  obtain ⟨heq, heven, -⟩ := hx.meet hx' hends
  have hodd : (0x7ffffffffffffe : ℚ) * d.quarter ≤ (4 * d.significand + 2) * d.quarter := by
    rwa [← high, heq]
  rw [mul_le_mul_iff_left₀ hpos] at hodd
  have hlast : (0x1fffffffffffff : ℚ) ≤ d.significand := by linarith
  have hlast' : 0x1fffffffffffff ≤ d.significand := by exact_mod_cast hlast
  omega

/-- A rational rounds to one magnitude only. -/
theorem Rounds.unique (hx : d.Rounds x) (hx' : d'.Rounds x) :
    d.significand = d'.significand ∧ d.exponent = d'.exponent := by
  have hexponent := Int.le_antisymm (hx'.exponent_le hx) (hx.exponent_le hx')
  exact ⟨Nat.le_antisymm (hx'.significand_le hx hexponent.symm)
    (hx.significand_le hx' hexponent), hexponent⟩

section Comparison

variable {a num den : Nat} {k : Int}

theorem exists_comparePow_eq (a : Nat) (k : Int) (num : Nat) (hden : 0 < den) :
    ∃ left right : Nat, comparePow a k num den = compare left right ∧ ∃ factor : ℚ, 0 < factor ∧
      left = a * 10 ^ k * factor ∧ right = num / den * factor := by
  have hden' : (0 : ℚ) < den := by exact_mod_cast hden
  by_cases hk : 0 ≤ k
  · obtain ⟨n, rfl⟩ := Int.eq_ofNat_of_zero_le hk
    refine ⟨a * Nat.pow 10 n * den, num, by rw [comparePow, if_pos hk, Int.toNat_natCast], den,
      hden', ?_, ?_⟩
    · simp
    · field_simp
  · obtain ⟨n, hn⟩ := Int.exists_eq_neg_ofNat (le_of_not_ge hk)
    subst hn
    refine ⟨a * den, num * Nat.pow 10 n, by rw [comparePow, if_neg hk, neg_neg, Int.toNat_natCast],
      den * 10 ^ n, by positivity, ?_, ?_⟩
    · simp only [Nat.cast_mul, zpow_neg, zpow_natCast]
      field_simp
    · simp only [Nat.pow_eq, Nat.cast_mul, Nat.cast_pow, Nat.cast_ofNat]
      field_simp

theorem comparePow_eq_lt_iff (hden : 0 < den) :
    comparePow a k num den = .lt ↔ (a * 10 ^ k : ℚ) < num / den := by
  obtain ⟨left, right, heq, factor, hfactor, hleft, hright⟩ := exists_comparePow_eq a k num hden
  rw [heq, Nat.compare_eq_lt, ← mul_lt_mul_iff_left₀ hfactor, ← hleft, ← hright, Nat.cast_lt]

theorem comparePow_eq_gt_iff (hden : 0 < den) :
    comparePow a k num den = .gt ↔ (num / den : ℚ) < a * 10 ^ k := by
  obtain ⟨left, right, heq, factor, hfactor, hleft, hright⟩ := exists_comparePow_eq a k num hden
  rw [heq, Nat.compare_eq_gt, ← mul_lt_mul_iff_left₀ hfactor, ← hleft, ← hright, Nat.cast_lt]

theorem comparePow_ne_gt_iff (hden : 0 < den) :
    comparePow a k num den ≠ .gt ↔ (a * 10 ^ k : ℚ) ≤ num / den := by
  rw [Ne, comparePow_eq_gt_iff hden, not_lt]

theorem comparePow_ne_lt_iff (hden : 0 < den) :
    comparePow a k num den ≠ .lt ↔ (num / den : ℚ) ≤ a * 10 ^ k := by
  rw [Ne, comparePow_eq_lt_iff hden, not_lt]

end Comparison

/-- The integers of the interval stand for its ends and its middle. -/
structure Interval.Scaled (i : Interval) (d : Double) : Prop where
  den_pos : 0 < i.den
  value_eq : (i.value / i.den : ℚ) = d.magnitude
  low_eq : (i.low / i.den : ℚ) = d.low
  high_eq : (i.high / i.den : ℚ) = d.high
  closed_iff : i.closed = true ↔ d.significand % 2 = 0

theorem scaled_interval (h : d.significand ≠ 0) : d.interval.Scaled d := by
  obtain ⟨scale, den, hden, hquarter, hinterval⟩ : ∃ scale den : Nat, 0 < den ∧
      (scale / den : ℚ) = d.quarter ∧ d.interval =
        { value := 4 * d.significand * scale
          low := (4 * d.significand - d.gapBelow) * scale
          high := (4 * d.significand + 2) * scale
          den := den
          closed := d.significand % 2 = 0 } := by
    rw [interval, quarter]
    by_cases he : 2 ≤ d.exponent
    · obtain ⟨n, hn⟩ := Int.eq_ofNat_of_zero_le (Int.sub_nonneg_of_le he)
      refine ⟨Nat.pow 2 n, 1, by decide, by simp [hn], ?_⟩
      rw [if_pos he, hn, Int.toNat_natCast]
      rfl
    · obtain ⟨n, hn⟩ := Int.eq_ofNat_of_zero_le (show 0 ≤ 2 - d.exponent by omega)
      have hneg : d.exponent - 2 = -(n : Int) := by omega
      refine ⟨1, Nat.pow 2 n, Nat.pow_pos (by decide), by simp [hneg], ?_⟩
      rw [if_neg he, hn, Int.toNat_natCast]
      rfl
  have hgap : d.gapBelow ≤ 4 * d.significand := by
    rcases d.gapBelow_eq with hgap | ⟨hgap, -⟩ <;> omega
  rw [hinterval]
  constructor
  case den_pos => exact hden
  case value_eq =>
    rw [magnitude, ← hquarter]
    push_cast
    rw [mul_div_assoc]
  case low_eq =>
    rw [low, ← hquarter]
    push_cast [hgap]
    rw [mul_div_assoc]
  case high_eq =>
    rw [high, ← hquarter]
    push_cast
    rw [mul_div_assoc]
  case closed_iff => exact decide_eq_true_iff

theorem Interval.contains_eq_true_iff {i : Interval} {a : Nat} {k : Int} :
    i.contains a k = true ↔
      comparePow a k i.low i.den ≠ .lt ∧ comparePow a k i.high i.den ≠ .gt ∧
        (i.closed = false →
          comparePow a k i.low i.den = .gt ∧ comparePow a k i.high i.den = .lt) := by
  rw [contains]
  cases comparePow a k i.low i.den <;> cases comparePow a k i.high i.den <;> simp

theorem Interval.Scaled.contains_iff {i : Interval} (h : i.Scaled d) {a : Nat} {k : Int} :
    i.contains a k = true ↔ d.Rounds (a * 10 ^ k) := by
  have hodd : i.closed = false ↔ d.significand % 2 = 1 := by
    rw [← Bool.not_eq_true, h.closed_iff]
    omega
  rw [Interval.contains_eq_true_iff, comparePow_ne_lt_iff h.den_pos, comparePow_ne_gt_iff h.den_pos,
    comparePow_eq_gt_iff h.den_pos, comparePow_eq_lt_iff h.den_pos, h.low_eq, h.high_eq, hodd]
  exact ⟨fun ⟨hlow, hhigh, hstrict⟩ => ⟨hlow, hhigh, hstrict⟩,
    fun hrounds => ⟨hrounds.low_le, hrounds.le_high, hrounds.strict⟩⟩

end Rulebook.Double
