import Mathlib.Tactic.Ring
import Rulebook.Proofs.Double.Interval

namespace Rulebook.Double

variable {num den : Nat} {k : Int}

theorem powTwoLe_iff (hden : 0 < den) :
    powTwoLe k num den = true ↔ (2 ^ k : ℚ) ≤ num / den := by
  have hden' : (0 : ℚ) < den := by exact_mod_cast hden
  rw [powTwoLe, le_div_iff₀ hden']
  by_cases hk : 0 ≤ k
  · obtain ⟨n, rfl⟩ := Int.eq_ofNat_of_zero_le hk
    rw [if_pos hk, decide_eq_true_iff, Int.toNat_natCast, zpow_natCast, mul_comm den]
    exact_mod_cast Iff.rfl
  · obtain ⟨n, rfl⟩ := Int.exists_eq_neg_ofNat (le_of_not_ge hk)
    have hpow : (0 : ℚ) < 2 ^ n := by positivity
    rw [if_neg hk, decide_eq_true_iff, neg_neg, Int.toNat_natCast, zpow_neg, zpow_natCast,
      inv_mul_le_iff₀ hpow, mul_comm num]
    exact_mod_cast Iff.rfl

theorem two_zpow_floorLogTwo_le (hnum : num ≠ 0) (hden : 0 < den) :
    (2 ^ floorLogTwo num den : ℚ) ≤ num / den := by
  rw [floorLogTwo]
  split
  · rename_i h
    exact (powTwoLe_iff hden).mp h
  · have hlow : (2 ^ Nat.log2 num : ℚ) ≤ num := by exact_mod_cast Nat.log2_self_le hnum
    have hhigh : (den : ℚ) ≤ 2 ^ (Nat.log2 den + 1) := by exact_mod_cast Nat.lt_log2_self.le
    have hden' : (0 : ℚ) < den := by exact_mod_cast hden
    have hexponent : (Nat.log2 num : Int) - Nat.log2 den - 1 =
        (Nat.log2 num : Int) - ((Nat.log2 den + 1 : Nat) : Int) := by
      omega
    rw [hexponent, zpow_sub₀ (by norm_num), zpow_natCast, zpow_natCast]
    exact div_le_div₀ (by positivity) hlow hden' hhigh

/-- An estimate of an exponent of ten by the quotient of two logarithms, taken one too low, is low
enough as long as the estimated exponent of two is not too large for the quotient. -/
theorem ten_zpow_le_two_zpow {n p : ℕ} (hn : n ≠ 0) (hlow : (10 : ℚ) ^ p ≤ 2 ^ n)
    (hhigh : (2 : ℚ) ^ n ≤ 10 ^ (p + 1)) {g l : Int} (hl : l ≤ n) (hg : n * (g + 1) ≤ (p + 1) * l) :
    (10 : ℚ) ^ g ≤ 2 ^ l := by
  have hpowers : ((10 : ℚ) ^ g) ^ n ≤ (2 ^ l) ^ n := by
    have hten : ((10 : ℚ) ^ g) ^ n = 10 ^ (g * n) := by rw [zpow_mul, zpow_natCast]
    have htwo : ((2 : ℚ) ^ l) ^ n = (2 ^ n) ^ l := by
      rw [← zpow_natCast, zpow_comm, zpow_natCast]
    rw [hten, htwo]
    rcases Int.le_total 0 l with hpos | hneg
    · obtain ⟨m, rfl⟩ := Int.eq_ofNat_of_zero_le hpos
      calc (10 : ℚ) ^ (g * n)
        _ ≤ 10 ^ ((p : ℤ) * m) := zpow_le_zpow_right₀ (by norm_num) (by linarith)
        _ = (10 ^ p) ^ m := by rw [zpow_mul, zpow_natCast, zpow_natCast]
        _ ≤ (2 ^ n) ^ m := pow_le_pow_left₀ (by positivity) hlow m
        _ = (2 ^ n) ^ (m : ℤ) := (zpow_natCast _ _).symm
    · obtain ⟨m, rfl⟩ := Int.exists_eq_neg_ofNat hneg
      calc (10 : ℚ) ^ (g * n)
        _ ≤ 10 ^ (((p + 1 : ℕ) : ℤ) * -m) :=
            zpow_le_zpow_right₀ (by norm_num) (by push_cast; linarith)
        _ = ((10 ^ (p + 1)) ^ m)⁻¹ := by rw [zpow_mul, zpow_natCast, zpow_neg, zpow_natCast]
        _ ≤ ((2 ^ n) ^ m)⁻¹ :=
            inv_anti₀ (by positivity) (pow_le_pow_left₀ (by positivity) hhigh m)
        _ = (2 ^ n) ^ (-m : ℤ) := by rw [zpow_neg, zpow_natCast]
  exact (pow_le_pow_iff_left₀ (by positivity) (by positivity) hn).mp hpowers

theorem ten_zpow_floorLogTen_le (hnum : num ≠ 0) (hden : 0 < den)
    (hbound : floorLogTwo num den ≤ 100000) : (10 ^ floorLogTen num den : ℚ) ≤ num / den := by
  have hchecked {k : Int} (h : (comparePow 1 k num den != .gt) = true) :
      (10 ^ k : ℚ) ≤ num / den := by
    have hle := (comparePow_ne_gt_iff hden).mp (bne_iff_ne.mp h)
    rwa [Nat.cast_one, one_mul] at hle
  rw [floorLogTen]
  split
  · rename_i h
    exact hchecked h
  · split
    · rename_i h
      exact hchecked h
    · refine le_trans ?_ (two_zpow_floorLogTwo_le hnum hden)
      -- This guess is not compared with the number, so it has to be low enough by itself.
      refine ten_zpow_le_two_zpow (n := 100000) (p := 30102) (by decide) ?_ ?_ hbound ?_
      · exact_mod_cast (by decide +kernel : 10 ^ 30102 ≤ 2 ^ 100000)
      · exact_mod_cast (by decide +kernel : 2 ^ 100000 ≤ 10 ^ (30102 + 1))
      · omega

/-- The digits of the last decimal on the grid of a power of ten that is not above the middle of the
interval. -/
def Interval.below (i : Interval) (k : Int) : Nat :=
  if 0 ≤ k then i.value / (Nat.pow 10 k.toNat * i.den)
  else i.value * Nat.pow 10 (-k).toNat / i.den

variable {i : Interval} {d : Double}

theorem Interval.Scaled.below_spec (h : i.Scaled d) (k : Int) :
    (i.below k * 10 ^ k : ℚ) ≤ d.magnitude ∧ d.magnitude < (i.below k + 1) * 10 ^ k := by
  obtain ⟨num, den, hden, hbelow, hmagnitude⟩ : ∃ num den : Nat, 0 < den ∧
      i.below k = num / den ∧ d.magnitude = num / den * 10 ^ k := by
    have hden : (i.den : ℚ) ≠ 0 := by exact_mod_cast h.den_pos.ne'
    rw [← h.value_eq, Interval.below]
    by_cases hk : 0 ≤ k
    · obtain ⟨n, rfl⟩ := Int.eq_ofNat_of_zero_le hk
      refine ⟨_, _, Nat.mul_pos (Nat.pow_pos (by decide)) h.den_pos, if_pos hk, ?_⟩
      simp only [Int.toNat_natCast, Nat.cast_mul, Nat.cast_pow, Nat.cast_ofNat, zpow_natCast]
      field_simp
    · obtain ⟨n, rfl⟩ := Int.exists_eq_neg_ofNat (le_of_not_ge hk)
      refine ⟨_, _, h.den_pos, if_neg hk, ?_⟩
      simp only [neg_neg, Int.toNat_natCast, Nat.pow_eq, Nat.cast_mul, Nat.cast_pow, Nat.cast_ofNat,
        zpow_neg, zpow_natCast]
      field_simp
  have hpow : (0 : ℚ) < 10 ^ k := by positivity
  have hden' : (0 : ℚ) < den := by exact_mod_cast hden
  have hle : (i.below k * den : ℚ) ≤ num := by
    rw [hbelow]
    exact_mod_cast Nat.div_mul_le_self num den
  have hlt : (num : ℚ) < (i.below k + 1) * den := by
    rw [hbelow]
    exact_mod_cast Nat.lt_mul_of_div_lt (Nat.lt_succ_self (num / den)) hden
  rw [hmagnitude]
  refine ⟨mul_le_mul_of_nonneg_right ?_ hpow.le, mul_lt_mul_of_pos_right ?_ hpow⟩
  · rwa [le_div_iff₀ hden']
  · rwa [div_lt_iff₀ hden']

theorem Interval.candidate_eq (i : Interval) (k : Int) :
    i.candidate k =
      match i.below k ≠ 0 && i.contains (i.below k) k, i.contains (i.below k + 1) k with
      | false, false => none
      | true, false => some ⟨i.below k, k⟩
      | false, true => some ⟨i.below k + 1, k⟩
      | true, true =>
          match comparePow (i.below k + (i.below k + 1)) k (2 * i.value) i.den with
          | .lt => some ⟨i.below k + 1, k⟩
          | .gt => some ⟨i.below k, k⟩
          | .eq => some ⟨if i.below k % 2 = 0 then i.below k else i.below k + 1, k⟩ :=
  rfl

theorem Interval.of_candidate {decimal : Decimal} (h : i.candidate k = some decimal) :
    decimal.exponent = k ∧ decimal.digits ≠ 0 ∧ i.contains decimal.digits k = true := by
  rw [candidate_eq] at h
  cases hbelow : (decide (i.below k ≠ 0) && i.contains (i.below k) k) <;>
    cases habove : i.contains (i.below k + 1) k <;> rw [hbelow, habove] at h
  case false.false => cases h
  case false.true =>
    cases h
    exact ⟨rfl, Nat.succ_ne_zero _, habove⟩
  all_goals rw [Bool.and_eq_true, decide_eq_true_iff] at hbelow
  case true.false =>
    cases h
    exact ⟨rfl, hbelow⟩
  case true.true =>
    have hbelow' : i.below k ≠ 0 ∧ i.contains (i.below k) k = true := hbelow
    have habove' : i.below k + 1 ≠ 0 ∧ i.contains (i.below k + 1) k = true :=
      ⟨Nat.succ_ne_zero _, habove⟩
    simp only at h
    split at h <;> cases h
    · exact ⟨rfl, habove'⟩
    · exact ⟨rfl, hbelow'⟩
    · split
      · exact ⟨rfl, hbelow'⟩
      · exact ⟨rfl, habove'⟩

theorem Interval.exists_candidate (h : (i.below k ≠ 0 ∧ i.contains (i.below k) k = true) ∨
    i.contains (i.below k + 1) k = true) : ∃ decimal, i.candidate k = some decimal := by
  rw [← decide_eq_true_iff (p := i.below k ≠ 0), ← Bool.and_eq_true] at h
  rw [candidate_eq]
  cases hbelow : (decide (i.below k ≠ 0) && i.contains (i.below k) k) <;>
    cases habove : i.contains (i.below k + 1) k <;> simp only
  case false.false => simp only [hbelow, habove, Bool.false_eq_true, or_self] at h
  case true.true => split <;> exact ⟨_, rfl⟩
  all_goals exact ⟨_, rfl⟩

theorem low_eq_sub (d : Double) : d.low = d.magnitude - d.gapBelow * d.quarter := by
  rw [low, magnitude, sub_mul]

theorem high_eq_add (d : Double) : d.high = d.magnitude + 2 * d.quarter := by
  rw [high, magnitude, add_mul]

/-- On a grid that gives the number seventeen digits one of its neighbours rounds to it: the step of
the grid is less than the interval is wide, and where the interval goes down half as far, it is less
than the way up. -/
theorem Interval.Scaled.exists_candidate (h : i.Scaled d)
    (hgrid : (10 ^ 16 * 10 ^ k : ℚ) ≤ d.magnitude) : ∃ decimal, i.candidate k = some decimal := by
  obtain ⟨hbelow, habove⟩ := h.below_spec k
  have hquarter := d.quarter_pos
  have hzero : i.below k ≠ 0 := by
    intro hzero
    have hpow : (0 : ℚ) < 10 ^ k := by positivity
    rw [hzero, Nat.cast_zero, zero_add, one_mul] at habove
    linarith
  apply Interval.exists_candidate
  rw [h.contains_iff, h.contains_iff, Nat.cast_add, Nat.cast_one]
  rcases d.gapBelow_eq with hgap | ⟨hgap, hpower⟩
  · have hlow : d.low = d.magnitude - 2 * d.quarter := by rw [low_eq_sub, hgap, Nat.cast_two]
    have hhigh := d.high_eq_add
    have hstep : (10 ^ k : ℚ) < 4 * d.quarter := by
      have hsignificand : (d.significand : ℚ) < 0x20000000000000 := by
        exact_mod_cast d.canonical.1
      have hmagnitude : d.magnitude < 4 * 0x20000000000000 * d.quarter :=
        mul_lt_mul_of_pos_right (by linarith) hquarter
      linarith
    -- The neighbours are less than four quarters apart, so not both are two quarters away.
    by_cases hfar : ((i.below k + 1) * 10 ^ k : ℚ) < d.high
    · exact Or.inr (Rounds.of_lt (by linarith) hfar)
    · exact Or.inl ⟨hzero, Rounds.of_lt (by linarith) (by linarith)⟩
  · have hlow : d.low = d.magnitude - d.quarter := by
      rw [low_eq_sub, hgap, Nat.cast_one, one_mul]
    have hhigh := d.high_eq_add
    have hstep : (10 ^ k : ℚ) < 2 * d.quarter := by
      have hmagnitude : d.magnitude = 4 * 0x10000000000000 * d.quarter := by
        rw [magnitude, hpower, Nat.cast_ofNat]
      linarith
    -- Here the upper neighbour never is two quarters away.
    exact Or.inr (Rounds.of_lt (by linarith) (by linarith))

theorem magnitude_lt (d : Double) : d.magnitude < 2 ^ (1024 : ℤ) := by
  obtain ⟨hsignificand, -, hexponent, -⟩ := d.canonical
  have hdigits : (4 * d.significand : ℚ) < 2 ^ (55 : ℤ) := by
    have hdigits : 4 * d.significand < 2 ^ 55 := by omega
    exact_mod_cast hdigits
  calc d.magnitude
    _ < 2 ^ (55 : ℤ) * d.quarter := mul_lt_mul_of_pos_right hdigits d.quarter_pos
    _ ≤ 2 ^ (55 : ℤ) * 2 ^ (969 : ℤ) :=
        mul_le_mul_of_nonneg_left (zpow_le_zpow_right₀ (by norm_num) (by omega)) (by positivity)
    _ = 2 ^ (1024 : ℤ) := (zpow_add₀ (by norm_num) 55 969).symm

theorem Interval.Scaled.floorLogTwo_le (h : i.Scaled d) (hvalue : i.value ≠ 0) :
    floorLogTwo i.value i.den ≤ 100000 := by
  have hpow : (2 : ℚ) ^ floorLogTwo i.value i.den < 2 ^ (1024 : ℤ) := by
    refine (two_zpow_floorLogTwo_le hvalue h.den_pos).trans_lt ?_
    rw [h.value_eq]
    exact d.magnitude_lt
  have hlt := (zpow_lt_zpow_iff_right₀ (by norm_num : (1 : ℚ) < 2)).mp hpow
  omega

def Decimal.value (decimal : Decimal) : ℚ :=
  decimal.digits * 10 ^ decimal.exponent

theorem Decimal.trim_spec (fuel : Nat) (decimal : Decimal) (h : decimal.digits ≠ 0) :
    (decimal.trim fuel).value = decimal.value ∧ (decimal.trim fuel).digits ≠ 0 := by
  induction fuel generalizing decimal with
  | zero => exact ⟨rfl, h⟩
  | succ fuel ih =>
      rw [trim]
      split
      · rename_i hten
        obtain ⟨a, ha⟩ := Nat.dvd_of_mod_eq_zero hten.2
        have hdiv : decimal.digits / 10 = a := by omega
        obtain ⟨hvalue, hdigits⟩ := ih ⟨decimal.digits / 10, decimal.exponent + 1⟩ (by simp; omega)
        refine ⟨hvalue.trans ?_, hdigits⟩
        rw [value, value, hdiv, ha, zpow_add₀ (by norm_num), zpow_one]
        push_cast
        ring
      · exact ⟨rfl, h⟩

/-- The exponent of the first digit of the shortest decimal. -/
def top (d : Double) : Int :=
  floorLogTen d.interval.value d.interval.den

theorem exists_candidate (h : d.significand ≠ 0) :
    ∃ decimal, (List.range 17).findSome? (fun n : Nat => d.interval.candidate (d.top - n)) =
      some decimal := by
  have hscaled := scaled_interval h
  have hvalue : d.interval.value ≠ 0 := by
    intro hzero
    have hpos := magnitude_pos h
    rw [← hscaled.value_eq, hzero] at hpos
    norm_num at hpos
  have htop : (10 : ℚ) ^ d.top ≤ d.magnitude := by
    rw [← hscaled.value_eq]
    exact ten_zpow_floorLogTen_le hvalue hscaled.den_pos (hscaled.floorLogTwo_le hvalue)
  have hgrid : (10 ^ 16 * 10 ^ (d.top - (16 : ℕ)) : ℚ) ≤ d.magnitude := by
    rwa [zpow_sub₀ (by norm_num), zpow_natCast, mul_div_cancel₀ _ (by norm_num)]
  obtain ⟨decimal, hcandidate⟩ := hscaled.exists_candidate hgrid
  rw [← Option.isSome_iff_exists, List.findSome?_isSome_iff]
  exact ⟨16, by decide, Option.isSome_iff_exists.mpr ⟨decimal, hcandidate⟩⟩

/-- The shortest decimal of a number that is not zero rounds to it. -/
theorem shortest_spec (h : d.significand ≠ 0) :
    d.Rounds d.shortest.value ∧ d.shortest.digits ≠ 0 := by
  obtain ⟨decimal, hfound⟩ := exists_candidate h
  have hshortest : d.shortest = decimal.trim 20 := by
    unfold shortest
    unfold top at hfound
    dsimp only
    rw [hfound]
  obtain ⟨n, -, hcandidate⟩ := List.exists_of_findSome?_eq_some hfound
  obtain ⟨hexponent, hdigits, hcontains⟩ := Interval.of_candidate hcandidate
  obtain ⟨htrim, hnonzero⟩ := Decimal.trim_spec 20 decimal hdigits
  rw [(scaled_interval h).contains_iff, ← hexponent] at hcontains
  rw [hshortest, htrim]
  exact ⟨hcontains, hnonzero⟩

end Rulebook.Double
