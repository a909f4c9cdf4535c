import Rulebook.Double.Basic

namespace Rulebook.Double

/-- A positive decimal `digits · 10 ^ exponent`. -/
structure Decimal where
  digits : Nat
  exponent : Int
  deriving DecidableEq

/-- The same decimal without zeros at the end of its digits, of which at most `fuel` are taken. -/
def Decimal.trim : Nat → Decimal → Decimal
  | 0, d => d
  | fuel + 1, d =>
      if d.digits ≠ 0 ∧ d.digits % 10 = 0 then Decimal.trim fuel ⟨d.digits / 10, d.exponent + 1⟩
      else d

/-- Compares `a · 10 ^ k` with `num / den`. -/
def comparePow (a : Nat) (k : Int) (num den : Nat) : Ordering :=
  if 0 ≤ k then compare (a * Nat.pow 10 k.toNat * den) num
  else compare (a * den) (num * Nat.pow 10 (-k).toNat)

/-- The greatest `k` with `10 ^ k ≤ num / den`, for positive operands. -/
def floorLogTen (num den : Nat) : Int :=
  let guess := floorLogTwo num den * 30103 / 100000
  if comparePow 1 (guess + 1) num den != .gt then guess + 1
  else if comparePow 1 guess num den != .gt then guess
  else guess - 1

/-- The reals that round to a positive number: a scale to which its value and the two ends are
integers over a common denominator, and whether the ends belong. -/
structure Interval where
  value : Nat
  low : Nat
  high : Nat
  den : Nat
  closed : Bool

/-- The interval of a number, in quarters of its last place. Just above a power of two the gap
below is half as wide. -/
def interval (d : Double) : Interval :=
  let narrow := if d.significand = 0x10000000000000 ∧ d.exponent ≠ -1074 then 1 else 2
  let (scale, den) :=
    if 2 ≤ d.exponent then (Nat.pow 2 (d.exponent - 2).toNat, 1)
    else (1, Nat.pow 2 (2 - d.exponent).toNat)
  { value := 4 * d.significand * scale
    low := (4 * d.significand - narrow) * scale
    high := (4 * d.significand + 2) * scale
    den := den
    closed := d.significand % 2 = 0 }

def Interval.contains (i : Interval) (a : Nat) (k : Int) : Bool :=
  match comparePow a k i.low i.den, comparePow a k i.high i.den with
  | .lt, _ => false
  | _, .gt => false
  | .eq, _ => i.closed
  | _, .eq => i.closed
  | _, _ => true

/-- The value's neighbours `a` and `a + 1` on the grid of `10 ^ k`: the nearer one inside the
interval, the even one on a tie. -/
def Interval.candidate (i : Interval) (k : Int) : Option Decimal :=
  let below :=
    if 0 ≤ k then i.value / (Nat.pow 10 k.toNat * i.den)
    else i.value * Nat.pow 10 (-k).toNat / i.den
  let above := below + 1
  match below ≠ 0 && i.contains below k, i.contains above k with
  | false, false => none
  | true, false => some ⟨below, k⟩
  | false, true => some ⟨above, k⟩
  | true, true =>
      match comparePow (below + above) k (2 * i.value) i.den with
      | .lt => some ⟨above, k⟩
      | .gt => some ⟨below, k⟩
      | .eq => some ⟨if below % 2 = 0 then below else above, k⟩

def shortest (d : Double) : Decimal :=
  let i := d.interval
  let top := floorLogTen i.value i.den
  match (List.range 17).findSome? fun (n : Nat) => i.candidate (top - n) with
  | some decimal => decimal.trim 20
  | none => ⟨0, 0⟩

/-- How a decimal is written: with its point in place for these exponents, where the exponent is
that of the first digit, and by powers of ten beyond them. -/
structure Style where
  leastPlain : Option Int
  greatestPlain : Option Int
  positiveMark : String

/-- Whether the exponent of the first digit asks for the plain form. -/
def Style.isPlain (s : Style) (e : Int) : Bool :=
  s.leastPlain.all (· ≤ e) && s.greatestPlain.all (e ≤ ·)

/-- Digits with the point in place and at least one digit on each side of it. -/
def plainText (digits : List Char) (exponent : Int) : List Char :=
  let point : Int := digits.length + exponent
  if 0 ≤ exponent then digits ++ List.replicate exponent.toNat '0' ++ ['.', '0']
  else if 0 < point then digits.take point.toNat ++ '.' :: digits.drop point.toNat
  else ['0', '.'] ++ List.replicate (-point).toNat '0' ++ digits

/-- One digit before the point and a power of ten behind. -/
def scientificText (style : Style) (digits : List Char) (exponent : Int) : List Char :=
  let first := (digits.length : Int) + exponent - 1
  let power :=
    if first < 0 then '-' :: Nat.toDigits 10 (-first).toNat
    else style.positiveMark.toList ++ Nat.toDigits 10 first.toNat
  match digits with
  | [] => []
  | [d] => d :: 'e' :: power
  | d :: ds => d :: '.' :: ds ++ 'e' :: power

def text (style : Style) (d : Double) : List Char :=
  let magnitude :=
    if d.significand = 0 then ['0', '.', '0']
    else
      let decimal := d.shortest
      let digits := Nat.toDigits 10 decimal.digits
      if style.isPlain ((digits.length : Int) + decimal.exponent - 1) then
        plainText digits decimal.exponent
      else scientificText style digits decimal.exponent
  if d.negative then '-' :: magnitude else magnitude

def Style.positional : Style :=
  ⟨none, none, ""⟩

end Rulebook.Double
