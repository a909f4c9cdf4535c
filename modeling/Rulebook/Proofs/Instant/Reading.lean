import Mathlib.Data.List.Basic
import Rulebook.Proofs.Document.Written
import Rulebook.Proofs.Instant.Calendar

namespace Rulebook.Instant

open Rulebook.Document

theorem isBlank_of_isDigit {c : Char} (hc : c.isDigit = true) : Text.isBlank c = false := by
  rw [Char.isDigit_iff_toNat] at hc
  simp [Text.isBlank] at hc ⊢
  omega

theorem dropBlank_cons {c : Char} (hc : Text.isBlank c = false) (cs : List Char) :
    Text.dropBlank (c :: cs) = c :: cs := by
  rw [Text.dropBlank, List.dropWhile_cons, hc]
  rfl

theorem dropBlank_append {front : List Char} (hne : front ≠ [])
    (hdigits : ∀ c ∈ front, c.isDigit = true) (rest : List Char) :
    Text.dropBlank (front ++ rest) = front ++ rest := by
  cases front with
  | nil => exact absurd rfl hne
  | cons c front => exact dropBlank_cons (isBlank_of_isDigit (hdigits c List.mem_cons_self)) _

theorem digits_append {front rest : List Char} {width : Nat} (hne : front ≠ [])
    (hdigits : ∀ c ∈ front, c.isDigit = true) (hwidth : front.length ≤ width)
    (hstop : ∀ c ∈ (rest.take (width - front.length)).head?, c.isDigit = false) :
    digits width (front ++ rest) = .ok (Nat.ofDigitChars 10 front 0, rest) := by
  have htaken : ((front ++ rest).take width).takeWhile Char.isDigit = front := by
    rw [List.take_append, List.take_of_length_le hwidth, List.takeWhile_append_of_pos hdigits]
    cases htail : rest.take (width - front.length) with
    | nil => exact List.append_nil front
    | cons c tail =>
        have hc : c.isDigit = false := hstop c (by rw [htail]; rfl)
        rw [List.takeWhile_cons, hc]
        exact List.append_nil front
  have hvalue : front.foldl (fun n c => n * 10 + (c.toNat - '0'.toNat)) 0 =
      Nat.ofDigitChars 10 front 0 := by
    rw [Nat.ofDigitChars_eq_foldl]
    congr
    funext n c
    rw [Nat.mul_comm]
  unfold digits
  simp only [htaken, hvalue]
  cases front with
  | nil => exact absurd rfl hne
  | cons c front =>
      show Except.ok (_, List.drop _ _) = _
      rw [List.drop_left]

theorem length_padded (width n : Nat) : (padded width n).length = width := by
  induction width generalizing n with
  | zero => rfl
  | succ width ih => rw [padded, List.length_append, ih, List.length_singleton]

theorem isDigit_of_mem_padded {width n : Nat} {c : Char} (hc : c ∈ padded width n) :
    c.isDigit = true := by
  induction width generalizing n with
  | zero => cases hc
  | succ width ih =>
      rcases List.mem_append.mp hc with hc | hc
      · exact ih hc
      · rw [List.mem_singleton.mp hc, Nat.isDigit_digitChar]
        exact decide_eq_true (Nat.mod_lt n (by decide))

theorem ofDigitChars_padded (width n : Nat) :
    Nat.ofDigitChars 10 (padded width n) 0 = n % 10 ^ width := by
  induction width generalizing n with
  | zero => simp [padded, Nat.mod_one]
  | succ width ih =>
      have hlast : n % 10 < 10 := Nat.mod_lt n (by decide)
      rw [padded, Nat.ofDigitChars_append, ih, Nat.ofDigitChars_cons_digitChar_of_lt_ten hlast,
        Nat.ofDigitChars_nil, Nat.pow_succ, Nat.mul_comm (10 ^ width), Nat.mod_mul]
      omega

theorem padded_ne_nil {width : Nat} (hwidth : 0 < width) (n : Nat) : padded width n ≠ [] :=
  List.ne_nil_of_length_pos (by rw [length_padded]; exact hwidth)

theorem digits_padded {width n : Nat} (hwidth : 0 < width) (hn : n < 10 ^ width)
    (rest : List Char) : digits width (padded width n ++ rest) = .ok (n, rest) := by
  have hlength := length_padded width n
  rw [digits_append (padded_ne_nil hwidth n) (fun c => isDigit_of_mem_padded) (Nat.le_of_eq hlength)
    (by simp [hlength]), ofDigitChars_padded, Nat.mod_eq_of_lt hn]

theorem number_padded {n : Nat} (hn : n < 100) (rest : List Char) :
    number 2 (padded 2 n ++ rest) = .ok (n, rest) := by
  rw [number, dropBlank_append (padded_ne_nil (by decide) n) (fun c => isDigit_of_mem_padded),
    digits_padded (by decide) hn]

theorem mark_cons {c : Char} (hc : Text.isBlank c = false) (rest : List Char) :
    mark c (c :: rest) = .ok ((), rest) := by
  rw [mark, dropBlank_cons hc]
  simp

/-- The digits of a year that has a sign. -/
def longYear (n : Nat) : List Char :=
  List.replicate (4 - (Nat.toDigits 10 n).length) '0' ++ Nat.toDigits 10 n

theorem digits_longYear (n : Nat) (rest : List Char) :
    digits (longYear n ++ '-' :: rest).length (longYear n ++ '-' :: rest) =
      .ok (n, '-' :: rest) := by
  have hdigits : ∀ c ∈ longYear n, c.isDigit = true := by
    intro c hc
    rcases List.mem_append.mp hc with hc | hc
    · rw [List.eq_of_mem_replicate hc]
      rfl
    · exact Nat.isDigit_of_mem_toDigits (by decide) (by decide) hc
  have hne : longYear n ≠ [] := List.append_ne_nil_of_right_ne_nil _ Nat.toDigits_ne_nil
  have hvalue : Nat.ofDigitChars 10 (longYear n) 0 = n := by
    rw [longYear, Nat.ofDigitChars_append, Nat.ofDigitChars_replicate_zero, Nat.mul_zero,
      Nat.ofDigitChars_ten_toDigits]
  rw [digits_append hne hdigits (by simp) (by simp), hvalue]

theorem year_plain {front : List Char} (hne : front ≠ []) (hdigits : ∀ c ∈ front, c.isDigit = true)
    {n : Nat} {rest tail : List Char} (hread : digits 4 (front ++ rest) = .ok (n, tail)) :
    year (front ++ rest) = .ok ((n : Int), tail) := by
  unfold year
  rw [dropBlank_append hne hdigits]
  cases front with
  | nil => exact absurd rfl hne
  | cons c front =>
      have hc : c.isDigit = true := hdigits c List.mem_cons_self
      rw [List.cons_append] at hread ⊢
      split
      · rename_i h
        rw [(List.cons.inj h).1] at hc
        cases hc
      · rename_i h
        rw [(List.cons.inj h).1] at hc
        cases hc
      · rw [hread]
        rfl

theorem year_yearText (n : Int) (rest : List Char) :
    year (yearText n ++ '-' :: rest) = .ok (n, '-' :: rest) := by
  by_cases hplain : 0 ≤ n ∧ n ≤ 9999
  · have hsmall : n.toNat < 10 ^ 4 := by omega
    have hback : (n.toNat : Int) = n := by omega
    rw [yearText, if_pos hplain, year_plain (padded_ne_nil (by decide) _)
      (fun c => isDigit_of_mem_padded) (digits_padded (by decide) hsmall _), hback]
  · have htext : yearText n = (if n < 0 then '-' else '+') :: longYear n.natAbs := by
      rw [yearText, if_neg hplain]
      rfl
    rw [htext, List.cons_append]
    by_cases hnegative : n < 0
    · have hback : -(n.natAbs : Int) = n := by omega
      rw [if_pos hnegative, year, dropBlank_cons (by decide)]
      simp only [digits_longYear]
      exact congrArg (fun n => Except.ok (n, '-' :: rest)) hback
    · have hback : (n.natAbs : Int) = n := by omega
      rw [if_neg hnegative, year, dropBlank_cons (by decide)]
      simp only [digits_longYear]
      exact congrArg (fun n => Except.ok (n, '-' :: rest)) hback

theorem fraction_padded {width n : Nat} (hpositive : 0 < width) (hwidth : width ≤ 9)
    (hn : n < 10 ^ width) :
    fraction ('.' :: padded width n ++ ['Z']) = .ok (n * 10 ^ (9 - width), ['Z']) := by
  have hlength := length_padded width n
  have hdigits : ∀ c ∈ padded width n, c.isDigit = true := fun c => isDigit_of_mem_padded
  have htaken : (padded width n ++ ['Z']).takeWhile Char.isDigit = padded width n := by
    rw [List.takeWhile_append_of_pos hdigits]
    exact List.append_nil _
  have hread : digits 9 (padded width n ++ ['Z']) = .ok (n, ['Z']) := by
    rw [digits_append (padded_ne_nil hpositive n) hdigits (by omega), ofDigitChars_padded,
      Nat.mod_eq_of_lt hn]
    intro c hc
    rw [hlength] at hc
    cases hplaces : 9 - width with
    | zero => simp [hplaces] at hc
    | succ places =>
        rw [hplaces] at hc
        cases hc
        rfl
  rw [List.cons_append, fraction, hread]
  simp only [htaken, List.take_of_length_le (by omega : (padded width n).length ≤ 9), hlength]
  rfl

theorem fraction_fractionText {n : Nat} (hn : n < 1000000000) :
    fraction (fractionText n ++ ['Z']) = .ok (n, ['Z']) := by
  rw [fractionText]
  split
  case isTrue hzero =>
    rw [hzero]
    rfl
  split
  case isTrue hthree =>
    rw [fraction_padded (by decide) (by decide) (by omega)]
    congr 2
    omega
  split
  case isTrue hsix =>
    rw [fraction_padded (by decide) (by decide) (by omega)]
    congr 2
    omega
  case isFalse =>
    rw [fraction_padded (by decide) (by decide) (by omega)]
    congr 2
    omega

/-- The instants there are: a second of a day, a nanosecond of the second or of the leap second
behind it, and a year that is counted. -/
structure WellFormed (instant : Instant) : Prop where
  second : instant.second < 86400
  nanosecond : instant.nanosecond < 1000000000 ∨
    instant.nanosecond < 2000000000 ∧ instant.second % 60 = 59
  counted : isCounted instant = true

/-- The second of the minute that is written: a leap second is the second 60. -/
def shownSecond (instant : Instant) : Nat :=
  instant.second % 60 + if 1000000000 ≤ instant.nanosecond then 1 else 0

def shownNanosecond (instant : Instant) : Nat :=
  if 1000000000 ≤ instant.nanosecond then instant.nanosecond - 1000000000 else instant.nanosecond

theorem ofCalendar_eq {instant : Instant} (h : instant.WellFormed) :
    ofCalendar (Date.ofDayNumber instant.day) (instant.second / 3600) (instant.second / 60 % 60)
      instant.shownSecond instant.shownNanosecond 0 = instant := by
  obtain ⟨day, second, nanosecond⟩ := instant
  obtain ⟨hsecond, hnanosecond, -⟩ := h
  simp only at hsecond hnanosecond
  simp only [ofCalendar, shownSecond, shownNanosecond, toDayNumber_ofDayNumber]
  -- only the last second of a minute has a leap second behind it
  by_cases hleap : 1000000000 ≤ nanosecond
  · have hlast : second % 60 = 59 := by omega
    simp only [hleap, if_true, hlast]
    congr <;> omega
  · have hother : second % 60 ≠ 60 := by omega
    simp only [hleap, if_false, Nat.add_zero, hother]
    congr <;> omega

theorem daysInMonth_le (year : Int) (month : Nat) : daysInMonth year month ≤ 31 := by
  unfold daysInMonth
  split
  · split <;> decide
  all_goals decide

theorem shownSecond_le (instant : Instant) : instant.shownSecond ≤ 60 := by
  rw [shownSecond]
  split <;> omega

theorem shownNanosecond_lt {instant : Instant} (h : instant.WellFormed) :
    instant.shownNanosecond < 1000000000 := by
  have hnanosecond := h.nanosecond
  rw [shownNanosecond]
  split <;> omega

theorem toList_text (instant : Instant) :
    instant.text.toList = yearText (Date.ofDayNumber instant.day).year ++
      '-' :: (padded 2 (Date.ofDayNumber instant.day).month ++
      '-' :: (padded 2 (Date.ofDayNumber instant.day).day ++
      'T' :: (padded 2 (instant.second / 3600) ++ ':' :: (padded 2 (instant.second / 60 % 60) ++
      ':' :: (padded 2 instant.shownSecond ++
      (fractionText instant.shownNanosecond ++ ['Z'])))))) := by
  simp only [text, String.toList_ofList, List.append_assoc, List.cons_append]
  rfl

theorem parse_text {instant : Instant} (h : instant.WellFormed) :
    parse instant.text = .ok instant := by
  have hback := ofCalendar_eq h
  rw [parse, toList_text]
  generalize hdate : Date.ofDayNumber instant.day = date at hback ⊢
  -- every number that is written stands in its places and passes its check
  have hmonth : (1 ≤ date.month ∧ date.month ≤ 12) ∧ date.month < 100 := by
    have hrange := ofDayNumber_month instant.day
    rw [hdate] at hrange
    exact ⟨hrange, by omega⟩
  have hday : (1 ≤ date.day ∧ date.day ≤ 31) ∧ date.day < 100 ∧
      date.day ≤ daysInMonth date.year date.month := by
    have hrange := ofDayNumber_day instant.day
    rw [hdate] at hrange
    have hlength := daysInMonth_le date.year date.month
    exact ⟨by omega, by omega, hrange.2⟩
  have hyear : firstYear ≤ date.year ∧ date.year ≤ lastYear := hdate ▸ ofDayNumber_year h.counted
  have hyearSmall : -0x80000000 ≤ date.year ∧ date.year < 0x80000000 := by
    rw [firstYear, lastYear] at hyear
    omega
  have hsecond := h.second
  have hhour : instant.second / 3600 ≤ 23 ∧ instant.second / 3600 < 100 := by omega
  have hminute : instant.second / 60 % 60 ≤ 59 ∧ instant.second / 60 % 60 < 100 := by omega
  have hshown : instant.shownSecond ≤ 60 ∧ instant.shownSecond < 100 := by
    have hle := shownSecond_le instant
    omega
  have hseparator (rest : List Char) : separator ('T' :: rest) = .ok ((), rest) := rfl
  have hoffset : offset (Text.dropBlank ['Z']) = .ok (0, []) := rfl
  have hend : (Text.dropBlank []).isEmpty = true := rfl
  simp only [bind, Except.bind, ensure, decide_true, Bool.and_self, if_true, year_yearText,
    hyearSmall.1, hyearSmall.2, mark_cons (show Text.isBlank '-' = false by decide),
    mark_cons (show Text.isBlank ':' = false by decide), number_padded hmonth.2, hmonth.1.1,
    hmonth.1.2, number_padded hday.2.1, hday.1.1, hday.1.2, hseparator, number_padded hhour.2,
    hhour.1, number_padded hminute.2, hminute.1, number_padded hshown.2, hshown.1,
    fraction_fractionText (shownNanosecond_lt h), hoffset, hend, hyear.1, hyear.2, hday.2.2, hback,
    h.counted]
  rfl

theorem takes_toJson {instant : Instant} (h : instant.WellFormed) :
    Instant.read.Takes instant.toJson instant := by
  refine Reader.takes_parsed ?_
  rw [parse_text h]

end Rulebook.Instant
