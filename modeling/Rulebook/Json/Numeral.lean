import Rulebook.Double.Basic
import Rulebook.Json.Basic

namespace Rulebook.Json

/-- A number text taken apart: digits before the point, digits behind it, and the power of ten. -/
structure Numeral where
  negative : Bool
  whole : List Char
  fraction : Option (List Char)
  power : Option (Bool × List Char)

/-- The digits at the front of a text, and the rest of it. -/
def spanDigits (cs : List Char) : List Char × List Char :=
  (cs.takeWhile Char.isDigit, cs.dropWhile Char.isDigit)

def scanFraction : List Char → Option (Option (List Char) × List Char)
  | '.' :: cs =>
      let (digits, rest) := spanDigits cs
      if digits.isEmpty then none else some (some digits, rest)
  | cs => some (none, cs)

def scanPowerDigits (negative : Bool) (cs : List Char) :
    Option (Option (Bool × List Char) × List Char) :=
  let (digits, rest) := spanDigits cs
  if digits.isEmpty then none else some (some (negative, digits), rest)

/-- A power of ten, if there is one. -/
def scanPower : List Char → Option (Option (Bool × List Char) × List Char)
  | 'e' :: '-' :: cs | 'E' :: '-' :: cs => scanPowerDigits true cs
  | 'e' :: '+' :: cs | 'E' :: '+' :: cs => scanPowerDigits false cs
  | 'e' :: cs | 'E' :: cs => scanPowerDigits false cs
  | cs => some (none, cs)

/-- The digits before the point: at least one, and no zero in front of another. -/
def scanWhole (cs : List Char) : Option (List Char × List Char) :=
  let (digits, rest) := spanDigits cs
  match digits with
  | [] => none
  | '0' :: _ :: _ => none
  | _ => some (digits, rest)

/-- A number text without its sign, and the rest of the text. -/
def scanUnsigned (negative : Bool) (cs : List Char) : Option (Numeral × List Char) := do
  let (whole, cs) ← scanWhole cs
  let (fraction, cs) ← scanFraction cs
  let (power, cs) ← scanPower cs
  return (⟨negative, whole, fraction, power⟩, cs)

/-- A number text and the rest of the text; nothing when the text does not start with a sound
one. -/
def scanNumeral : List Char → Option (Numeral × List Char)
  | '-' :: cs => scanUnsigned true cs
  | cs => scanUnsigned false cs

def digitValue (c : Char) : Nat :=
  c.toNat - '0'.toNat

/-- The number that digits stand for, continuing one read before. -/
def digitsValue (start : Nat) (digits : List Char) : Nat :=
  digits.foldl (fun n c => n * 10 + digitValue c) start

/-- Takes digits into a significand as long as it fits 64 bits; also how many were taken. -/
def absorb (significand : Nat) : List Char → Nat × Nat
  | [] => (significand, 0)
  | c :: cs =>
      let next := significand * 10 + digitValue c
      if next < 0x10000000000000000 then
        let (result, taken) := absorb next cs
        (result, taken + 1)
      else (significand, 0)

/-- The number of a numeral: an integer when it is written as one and fits 64 bits, else the
floating-point number of the digits that fit into 64 bits and the power of ten; negative zero is
such a number. Nothing when it is too large. -/
def Numeral.value? (n : Numeral) : Option JsonNumber :=
  let (whole, wholeTaken) := absorb 0 n.whole
  let integer :=
    if n.fraction.isNone && n.power.isNone && wholeTaken == n.whole.length then
      if n.negative then if whole = 0 then none else WideInt.ofInt? (-(whole : Int))
      else WideInt.ofInt? whole
    else none
  match integer with
  | some i => some (.integer i)
  | none =>
      let (significand, fractionTaken) := absorb whole (n.fraction.getD [])
      let power :=
        match n.power with
        | none => 0
        | some (false, digits) => (digitsValue 0 digits : Int)
        | some (true, digits) => -(digitsValue 0 digits : Int)
      let exponent := (n.whole.length : Int) - wholeTaken - fractionTaken + power
      (Double.ofDecimal? n.negative significand exponent).map .double

end Rulebook.Json
