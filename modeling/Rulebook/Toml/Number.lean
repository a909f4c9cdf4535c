import Rulebook.Document.Node
import Rulebook.Toml.Text

namespace Rulebook.Toml

open Rulebook.Document

/-- The digits at the front of a text, a single underscore between two of them left out, when the
text goes on after a digit; nothing when an underscore stands anywhere else. -/
def scanMoreDigits (isDigit : Char → Bool) : Scan (List Char)
  | '_' :: c :: cs =>
      if isDigit c then do
        let (digits, rest) ← scanMoreDigits isDigit cs
        return (c :: digits, rest)
      else none
  | c :: cs =>
      if isDigit c then do
        let (digits, rest) ← scanMoreDigits isDigit cs
        return (c :: digits, rest)
      else some ([], c :: cs)
  | [] => some ([], [])

/-- At least one digit, and underscores between digits. -/
def scanDigits (isDigit : Char → Bool) : Scan (List Char)
  | c :: cs =>
      if isDigit c then do
        let (digits, rest) ← scanMoreDigits isDigit cs
        return (c :: digits, rest)
      else none
  | [] => none

/-- Decimal digits of an integer: no digit follows a zero at the front. -/
def scanWhole : Scan (List Char)
  | '0' :: cs => some (['0'], cs)
  | cs => scanDigits Char.isDigit cs

/-- A sign, and whether it is negative. -/
def takeSign : List Char → Bool × List Char
  | '-' :: cs => (true, cs)
  | '+' :: cs => (false, cs)
  | cs => (false, cs)

def isDigitBelow (base : Nat) (c : Char) : Bool :=
  (Text.hexValue? c).any (· < base)

def digitsValue (base : Nat) (digits : List Char) : Nat :=
  digits.foldl (fun n c => n * base + (Text.hexValue? c).getD 0) 0

def integerNode? (value : Int) : Option Node := do
  let wide ← WideInt.ofInt? value
  if value < 0x8000000000000000 then some (.number (.integer wide)) else none

/-- An integer: decimal with a sign, or without one in base sixteen, eight or two. -/
def scanInteger : Scan Node
  | '0' :: 'x' :: cs => based 16 cs
  | '0' :: 'o' :: cs => based 8 cs
  | '0' :: 'b' :: cs => based 2 cs
  | cs => do
      let (negative, cs) := takeSign cs
      let (digits, rest) ← scanWhole cs
      let magnitude : Int := digitsValue 10 digits
      return (← integerNode? (if negative then -magnitude else magnitude), rest)
where
  based (base : Nat) (cs : List Char) : Option (Node × List Char) := do
    let (digits, rest) ← scanDigits (isDigitBelow base) cs
    return (← integerNode? (digitsValue base digits), rest)

def scanFraction? : List Char → Option (List Char × List Char)
  | '.' :: cs => scanDigits Char.isDigit cs
  | _ => none

def scanPower? : List Char → Option (Int × List Char)
  | 'e' :: cs | 'E' :: cs => do
      let (negative, cs) := takeSign cs
      let (digits, rest) ← scanDigits Char.isDigit cs
      let magnitude : Int := digitsValue 10 digits
      return (if negative then -magnitude else magnitude, rest)
  | _ => none

/-- A number of digits and a power of ten. One that is too large counts as infinite below zero and
is refused above. -/
def floatNode? (negative : Bool) (digits : List Char) (power : Int) : Option Node :=
  match Double.ofDecimalExact? negative (digitsValue 10 digits) power with
  | some d => some (.number (.double d))
  | none => if negative then some (.word (.infinity true)) else none

/-- A number with a fraction, a power of ten or both. -/
def scanDecimal : Scan Node := fun cs => do
  let (negative, cs) := takeSign cs
  let (whole, cs) ← scanWhole cs
  match cs with
  | '.' :: _ =>
      let (fraction, cs) ← scanFraction? cs
      match cs with
      | 'e' :: _ | 'E' :: _ =>
          let (power, rest) ← scanPower? cs
          return (← floatNode? negative (whole ++ fraction) (power - fraction.length), rest)
      | _ => return (← floatNode? negative (whole ++ fraction) (-fraction.length), cs)
  | _ =>
      let (power, rest) ← scanPower? cs
      return (← floatNode? negative whole power, rest)

/-- Infinity or no number, with a sign or without one. -/
def scanWord : Scan Node := fun cs =>
  match takeSign cs with
  | (negative, 'i' :: 'n' :: 'f' :: rest) => some (.word (.infinity negative), rest)
  | (_, 'n' :: 'a' :: 'n' :: rest) => some (.word .notANumber, rest)
  | _ => none

def scanFixed (width least greatest : Nat) : Scan Nat := fun cs =>
  let digits := cs.take width
  let value := digitsValue 10 digits
  if digits.length = width ∧ digits.all Char.isDigit ∧ least ≤ value ∧ value ≤ greatest then
    some (value, cs.drop width)
  else none

def scanMark (mark : Char) : Scan Unit
  | c :: cs => if c = mark then some ((), cs) else none
  | [] => none

def daysInMonth (year month : Nat) : Nat :=
  match month with
  | 2 => if year % 4 = 0 ∧ (year % 100 ≠ 0 ∨ year % 400 = 0) then 29 else 28
  | 4 | 6 | 9 | 11 => 30
  | _ => 31

/-- The last `width` digits of a number. -/
def padded : Nat → Nat → List Char
  | 0, _ => []
  | width + 1, n => padded width (n / 10) ++ [Nat.digitChar (n % 10)]

/-- A date, as it is written again. -/
def scanDate : Scan (List Char) := fun cs => do
  let (year, cs) ← scanFixed 4 0 9999 cs
  let ((), cs) ← scanMark '-' cs
  let (month, cs) ← scanFixed 2 1 12 cs
  let ((), cs) ← scanMark '-' cs
  let (day, cs) ← scanFixed 2 1 (daysInMonth year month) cs
  return (padded 4 year ++ '-' :: padded 2 month ++ '-' :: padded 2 day, cs)

/-- The digits of a fraction of a second: nine at most, and no zero at the end. -/
def fractionText (digits : List Char) : List Char :=
  match ((digits.take 9).reverse.dropWhile (· == '0')).reverse with
  | [] => []
  | digits => '.' :: digits

/-- A fraction of a second, if there is one. -/
def scanSecondFraction : Scan (List Char)
  | '.' :: cs =>
      let digits := cs.takeWhile Char.isDigit
      if digits.isEmpty then none else some (fractionText digits, cs.dropWhile Char.isDigit)
  | cs => some ([], cs)

/-- A time of day, as it is written again. -/
def scanTime : Scan (List Char) := fun cs => do
  let (hour, cs) ← scanFixed 2 0 23 cs
  let ((), cs) ← scanMark ':' cs
  let (minute, cs) ← scanFixed 2 0 59 cs
  let ((), cs) ← scanMark ':' cs
  let (second, cs) ← scanFixed 2 0 60 cs
  let (fraction, cs) ← scanSecondFraction cs
  return (padded 2 hour ++ ':' :: padded 2 minute ++ ':' :: padded 2 second ++ fraction, cs)

/-- An offset from universal time, if there is one, as it is written again. -/
def scanOffset : Scan (List Char)
  | 'Z' :: cs | 'z' :: cs => some (['Z'], cs)
  | '+' :: cs => signed '+' cs
  | '-' :: cs => signed '-' cs
  | cs => some ([], cs)
where
  signed (sign : Char) (cs : List Char) : Option (List Char × List Char) := do
    let (hour, cs) ← scanFixed 2 0 23 cs
    let ((), cs) ← scanMark ':' cs
    let (minute, cs) ← scanFixed 2 0 59 cs
    let sign := if hour = 0 ∧ minute = 0 then '+' else sign
    return (sign :: padded 2 hour ++ ':' :: padded 2 minute, cs)

def scanTimeOfDate (date cs : List Char) : Option (List Char × List Char) := do
  let (time, cs) ← scanTime cs
  let (offset, cs) ← scanOffset cs
  return (date ++ 'T' :: time ++ offset, cs)

/-- A date, a time, or both. Between them stands `T` or a blank; a blank may also end the date. -/
def scanMoment : Scan Node := fun cs => do
  let (chars, rest) ←
    match scanDate cs with
    | none => scanTime cs
    | some (date, rest) =>
        match rest with
        | 'T' :: cs | 't' :: cs => scanTimeOfDate date cs
        | ' ' :: cs => some ((scanTimeOfDate date cs).getD (date, rest))
        | _ => some (date, rest)
  return (.moment (String.ofList chars), rest)

def scanNumber : Scan Node := fun cs =>
  scanMoment cs <|> scanDecimal cs <|> scanWord cs <|> scanInteger cs

end Rulebook.Toml
