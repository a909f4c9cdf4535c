import Rulebook.Document.Reader
import Rulebook.Text.Basic

namespace Rulebook

/-- Days since 1970-01-01, the second of the day and the nanosecond of the second. -/
structure Instant where
  day : Int
  second : Nat
  nanosecond : Nat
  deriving DecidableEq, Repr

namespace Instant

/-- A day of the calendar. -/
structure Date where
  year : Int
  month : Nat
  day : Nat
  deriving DecidableEq, Repr

/-- Whether a year has a 29th of February. -/
def isLeapYear (year : Int) : Bool :=
  year % 4 == 0 && (year % 100 != 0 || year % 400 == 0)

def daysInMonth (year : Int) (month : Nat) : Nat :=
  match month with
  | 2 => if isLeapYear year then 29 else 28
  | 4 | 6 | 9 | 11 => 30
  | _ => 31

/-- The number of a day, 1970-01-01 being zero. Years are taken from March to February, so that a
leap day comes last. -/
def Date.toDayNumber (date : Date) : Int :=
  let year := if date.month ≤ 2 then date.year - 1 else date.year
  let era := year / 400
  let yearOfEra := year - era * 400
  let month : Int := ((date.month : Int) + 9) % 12
  let dayOfYear := (153 * month + 2) / 5 + date.day - 1
  era * 146097 + yearOfEra * 365 + yearOfEra / 4 - yearOfEra / 100 + dayOfYear - 719468

def Date.ofDayNumber (number : Int) : Date :=
  let shifted := number + 719468
  let era := shifted / 146097
  let dayOfEra := shifted - era * 146097
  let yearOfEra := (dayOfEra - dayOfEra / 1460 + dayOfEra / 36524 - dayOfEra / 146096) / 365
  let dayOfYear := dayOfEra - (365 * yearOfEra + yearOfEra / 4 - yearOfEra / 100)
  let month := (5 * dayOfYear + 2) / 153
  let day := dayOfYear - (153 * month + 2) / 5 + 1
  let calendarMonth := if month < 10 then month + 3 else month - 9
  let year := yearOfEra + era * 400 + if calendarMonth ≤ 2 then 1 else 0
  ⟨year, calendarMonth.toNat, day.toNat⟩

/-- The last `width` decimal digits of a number. -/
def padded : Nat → Nat → List Char
  | 0, _ => []
  | width + 1, n => padded width (n / 10) ++ [Nat.digitChar (n % 10)]

/-- A year in four digits, with a sign when it needs more or is negative. -/
def yearText (year : Int) : List Char :=
  if 0 ≤ year ∧ year ≤ 9999 then padded 4 year.toNat
  else
    let digits := Nat.toDigits 10 year.natAbs
    (if year < 0 then '-' else '+') :: List.replicate (4 - digits.length) '0' ++ digits

/-- A fraction of a second, in as few groups of three digits as tell it exactly. -/
def fractionText (nanosecond : Nat) : List Char :=
  if nanosecond = 0 then []
  else if nanosecond % 1000000 = 0 then '.' :: padded 3 (nanosecond / 1000000)
  else if nanosecond % 1000 = 0 then '.' :: padded 6 (nanosecond / 1000)
  else '.' :: padded 9 nanosecond

/-- The written form, in universal time. -/
def text (instant : Instant) : String :=
  let date := Date.ofDayNumber instant.day
  let leap := 1000000000 ≤ instant.nanosecond
  let second := instant.second % 60 + if leap then 1 else 0
  let nanosecond := if leap then instant.nanosecond - 1000000000 else instant.nanosecond
  String.ofList <|
    yearText date.year ++ '-' :: padded 2 date.month ++ '-' :: padded 2 date.day ++
    'T' :: padded 2 (instant.second / 3600) ++ ':' :: padded 2 (instant.second / 60 % 60) ++
    ':' :: padded 2 second ++ fractionText nanosecond ++ ['Z']

/-- Why a text is no instant. -/
inductive Refusal where
  | tooShort
  | tooLong
  | invalid
  | outOfRange
  /-- The instant lies outside the years that are counted. -/
  | impossible

/-- A refusal in words. -/
def Refusal.message : Refusal → String
  | .tooShort => "premature end of input"
  | .tooLong => "trailing input"
  | .invalid => "input contains invalid characters"
  | .outOfRange => "input is out of range"
  | .impossible => "no possible date and time matching input"

/-- A step of reading: a value and the text behind it. -/
abbrev Step (α : Type) :=
  List Char → Except Refusal (α × List Char)

/-- A number of at least one and at most `width` digits. -/
def digits (width : Nat) : Step Nat := fun cs =>
  let front := (cs.take width).takeWhile Char.isDigit
  match front, cs with
  | [], [] => .error .tooShort
  | [], _ => .error .invalid
  | _, _ => .ok (front.foldl (fun n c => n * 10 + (c.toNat - '0'.toNat)) 0, cs.drop front.length)

def number (width : Nat) : Step Nat := fun cs =>
  digits width (Text.dropBlank cs)

/-- A year behind blanks: four digits at most, or any number of them after a sign. -/
def year : Step Int := fun cs =>
  match Text.dropBlank cs with
  | '-' :: cs => do
      let (n, rest) ← digits cs.length cs
      return (-(n : Int), rest)
  | '+' :: cs => do
      let (n, rest) ← digits cs.length cs
      return ((n : Int), rest)
  | cs => do
      let (n, rest) ← digits 4 cs
      return ((n : Int), rest)

def mark (c : Char) : Step Unit := fun cs =>
  match Text.dropBlank cs with
  | [] => .error .tooShort
  | d :: rest => if d = c then .ok ((), rest) else .error .invalid

def separator : Step Unit
  | 't' :: rest | 'T' :: rest | ' ' :: rest => .ok ((), rest)
  | [] => .error .tooShort
  | _ => .error .invalid

/-- A fraction of a second, if there is one, cut after nine digits. -/
def fraction : Step Nat
  | '.' :: cs => do
      let (n, rest) ← digits 9 cs
      let taken := (cs.takeWhile Char.isDigit).take 9
      return (n * Nat.pow 10 (9 - taken.length), rest.dropWhile Char.isDigit)
  | cs => .ok (0, cs)

/-- Two digits of an offset. What is left of a text is too short for them when it is less than two
bytes long. -/
def twoDigits : Step Nat
  | a :: b :: rest =>
      if a.isDigit && b.isDigit then
        .ok ((a.toNat - '0'.toNat) * 10 + (b.toNat - '0'.toNat), rest)
      else .error .invalid
  | [c] => .error (if c.utf8Size < 2 then .tooShort else .invalid)
  | [] => .error .tooShort

def signedOffset (negative : Bool) : Step Int := fun cs => do
  let (hours, rest) ← twoDigits cs
  let (minutes, rest) ← twoDigits (rest.dropWhile fun c => c == ':' || Text.isBlank c)
  if 60 ≤ minutes then throw .outOfRange
  let offset : Int := (hours * 60 + minutes : Nat)
  return (if negative then -offset else offset, rest)

/-- An offset in minutes: `Z`, `UTC`, or hours and minutes after a sign. -/
def offset : Step Int := fun cs =>
  match cs with
  | u :: t :: c :: rest =>
      if u.toUpper = 'U' ∧ t.toUpper = 'T' ∧ c.toUpper = 'C' then .ok (0, rest) else zone cs
  | _ => zone cs
where
  zone : Step Int
    | 'Z' :: rest | 'z' :: rest => .ok (0, rest)
    | '+' :: rest => signedOffset false rest
    | '-' :: rest | '\u2212' :: rest => signedOffset true rest
    | [] => .error .tooShort
    | _ => .error .invalid

def ensure (holds : Bool) : Except Refusal Unit :=
  if holds then .ok () else .error .outOfRange

def firstYear : Int := -262143

def lastYear : Int := 262142

/-- Whether an instant lies in the years that are counted. -/
def isCounted (instant : Instant) : Bool :=
  Date.toDayNumber ⟨firstYear, 1, 1⟩ ≤ instant.day &&
    instant.day ≤ Date.toDayNumber ⟨lastYear, 12, 31⟩

/-- The instant of a calendar date, a time of day with its nanosecond and an offset in minutes. -/
def ofCalendar (date : Date) (hour minute second nanosecond : Nat) (offset : Int) : Instant :=
  let leap := second = 60
  let wall : Int := date.toDayNumber * 86400 + (hour * 3600 + minute * 60 : Nat) +
    (if leap then 59 else second : Nat)
  let universal := wall - offset * 60
  ⟨universal / 86400, (universal % 86400).toNat,
    if leap then nanosecond + 1000000000 else nanosecond⟩

/-- Reads an instant: a date, `T`, `t` or a blank, a time of day with or without a fraction, and an
offset. Blanks may stand around the marks between numbers. -/
def parse (s : String) : Except Refusal Instant := do
  let (year, cs) ← year s.toList
  ensure (-0x80000000 ≤ year && year < 0x80000000)
  let (_, cs) ← mark '-' cs
  let (month, cs) ← number 2 cs
  ensure (1 ≤ month && month ≤ 12)
  let (_, cs) ← mark '-' cs
  let (day, cs) ← number 2 cs
  ensure (1 ≤ day && day ≤ 31)
  let (_, cs) ← separator cs
  let (hour, cs) ← number 2 cs
  ensure (hour ≤ 23)
  let (_, cs) ← mark ':' cs
  let (minute, cs) ← number 2 cs
  ensure (minute ≤ 59)
  let (_, cs) ← mark ':' cs
  let (second, cs) ← number 2 cs
  ensure (second ≤ 60)
  let (nanosecond, cs) ← fraction cs
  let (offset, cs) ← offset (Text.dropBlank cs)
  if !(Text.dropBlank cs).isEmpty then throw .tooLong
  ensure (firstYear ≤ year && year ≤ lastYear && day ≤ daysInMonth year month)
  ensure (-1440 < offset && offset < 1440)
  let instant := ofCalendar ⟨year, month, day⟩ hour minute second nanosecond offset
  if isCounted instant then return instant else throw .impossible

def read : Document.Reader Instant :=
  Document.Reader.parsed "an RFC 3339 formatted date and time string" fun s =>
    match parse s with
    | .ok instant => .ok instant
    | .error r => .error r.message

def toJson (instant : Instant) : Json :=
  .text instant.text

end Instant

end Rulebook
