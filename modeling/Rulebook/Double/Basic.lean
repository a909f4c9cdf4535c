/-!
Finite binary floating-point numbers of 53 significant bits, kept as a sign, a significand and an
exponent of two in the one canonical form each of them has. Every operation is exact integer
arithmetic followed by one rounding to the nearest such number, a tie going to the even significand.
-/

namespace Rulebook

/-- The canonical pairs: full significands, which have 53 bits, or short ones at the least
exponent. -/
def Double.Canonical (significand : Nat) (exponent : Int) : Prop :=
  significand < 0x20000000000000 ∧ -1074 ≤ exponent ∧ exponent ≤ 971 ∧
    (0x10000000000000 ≤ significand ∨ exponent = -1074)

instance (m : Nat) (e : Int) : Decidable (Double.Canonical m e) :=
  inferInstanceAs (Decidable (_ ∧ _ ∧ _ ∧ _))

/-- The number `± significand · 2 ^ exponent`. -/
structure Double where
  negative : Bool
  significand : Nat
  exponent : Int
  canonical : Double.Canonical significand exponent
  deriving DecidableEq

namespace Double

/-- Zero, with its sign. -/
def zero (negative : Bool) : Double :=
  ⟨negative, 0, -1074, by decide⟩

/-- The number of these parts, unless they are too large to be canonical. -/
def ofParts? (negative : Bool) (significand : Nat) (exponent : Int) : Option Double :=
  if h : Canonical significand exponent then some ⟨negative, significand, exponent, h⟩ else none

/-- A quotient rounded to the nearest integer, a half going to the even one. -/
def roundHalfEven (num den : Nat) : Nat :=
  let quotient := num / den
  let remainder := num % den
  if 2 * remainder < den then quotient
  else if den < 2 * remainder then quotient + 1
  else quotient + quotient % 2

/-- Whether `2 ^ k ≤ num / den`. -/
def powTwoLe (k : Int) (num den : Nat) : Bool :=
  if 0 ≤ k then den * Nat.pow 2 k.toNat ≤ num else den ≤ num * Nat.pow 2 (-k).toNat

/-- The greatest `k` with `2 ^ k ≤ num / den`, for positive operands. -/
def floorLogTwo (num den : Nat) : Int :=
  let k : Int := (Nat.log2 num : Int) - (Nat.log2 den : Int)
  if powTwoLe k num den then k else k - 1

/-- The number nearest to `± num / den`; nothing when that is beyond the largest one. -/
def ofRatio? (negative : Bool) (num den : Nat) : Option Double :=
  if num = 0 then some (zero negative)
  else
    let exponent := max (-1074) (floorLogTwo num den - 52)
    let significand :=
      if 0 ≤ exponent then roundHalfEven num (den * Nat.pow 2 exponent.toNat)
      else roundHalfEven (num * Nat.pow 2 (-exponent).toNat) den
    if significand = 0x20000000000000 then ofParts? negative 0x10000000000000 (exponent + 1)
    else ofParts? negative significand exponent

def ratio (d : Double) : Nat × Nat :=
  if 0 ≤ d.exponent then (d.significand * Nat.pow 2 d.exponent.toNat, 1)
  else (d.significand, Nat.pow 2 (-d.exponent).toNat)

/-- The product of the magnitudes, rounded, under the sign of the first. -/
def mul? (a b : Double) : Option Double :=
  ofRatio? a.negative (a.ratio.1 * b.ratio.1) (a.ratio.2 * b.ratio.2)

/-- The quotient of the magnitudes, rounded, under the sign of the first. -/
def div? (a b : Double) : Option Double :=
  ofRatio? a.negative (a.ratio.1 * b.ratio.2) (a.ratio.2 * b.ratio.1)

/-- The number nearest to `10 ^ n`, for `n` up to 308. -/
def powTen? (n : Nat) : Option Double :=
  ofRatio? false (Nat.pow 10 n) 1

/-- `± significand · 10 ^ exponent` by two roundings: the significand is rounded first, then its
product or quotient with the power of ten. Below `10 ^ -308` the quotient by that power is taken
out beforehand; nothing comes back when the number is too large. -/
def ofDecimal? (negative : Bool) (significand : Nat) (exponent : Int) : Option Double := do
  let start ← ofRatio? negative significand 1
  if significand = 0 then return start
  if 308 < exponent then none
  else if 0 ≤ exponent then start.mul? (← powTen? exponent.toNat)
  else if -308 ≤ exponent then start.div? (← powTen? (-exponent).toNat)
  else if -616 ≤ exponent then
    (← start.div? (← powTen? 308)).div? (← powTen? (-(exponent + 308)).toNat)
  else return zero negative

/-- `± significand · 10 ^ exponent` by one rounding; nothing when the number is too large. -/
def ofDecimalExact? (negative : Bool) (significand : Nat) (exponent : Int) : Option Double :=
  if significand = 0 then some (zero negative)
  else
    let magnitude := (Nat.log2 significand : Int) * 30103 / 100000 + exponent
    if 400 < magnitude then none
    else if magnitude < -400 then some (zero negative)
    else if 0 ≤ exponent then ofRatio? negative (significand * Nat.pow 10 exponent.toNat) 1
    else ofRatio? negative significand (Nat.pow 10 (-exponent).toNat)

end Double

end Rulebook
