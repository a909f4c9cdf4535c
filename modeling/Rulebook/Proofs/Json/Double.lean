import Rulebook.Proofs.Double.Shortest
import Rulebook.Proofs.Json.Numeral

namespace Rulebook

namespace Json

/-- One digit or more. -/
def Digits (cs : List Char) : Prop :=
  cs ≠ [] ∧ ∀ c ∈ cs, c.isDigit = true

/-- A numeral with digits wherever its text has to have some, and no zero in front of another digit
of the whole. -/
structure Numeral.Sound (n : Numeral) : Prop where
  whole : Digits n.whole
  leading : n.whole.head? = some '0' → n.whole = ['0']
  fraction : ∀ digits ∈ n.fraction, Digits digits
  power : ∀ power ∈ n.power, Digits power.2

def fractionChars : Option (List Char) → List Char
  | none => []
  | some digits => '.' :: digits

def powerChars : Option (Bool × List Char) → List Char
  | none => []
  | some (true, digits) => 'e' :: '-' :: digits
  | some (false, digits) => 'e' :: '+' :: digits

/-- The text of a numeral after its sign. -/
def Numeral.unsignedChars (n : Numeral) : List Char :=
  n.whole ++ (fractionChars n.fraction ++ powerChars n.power)

theorem spanDigits_digits {digits rest : List Char} (hdigits : Digits digits)
    (hrest : ∀ c ∈ rest.head?, c.isDigit = false) :
    spanDigits (digits ++ rest) = (digits, rest) := by
  rw [spanDigits, List.takeWhile_append_of_pos hdigits.2, List.dropWhile_append_of_pos hdigits.2]
  cases rest with
  | nil => simp
  | cons c rest => simp [hrest c rfl]

theorem scanWhole_digits {whole rest : List Char} (hwhole : Digits whole)
    (hleading : whole.head? = some '0' → whole = ['0'])
    (hrest : ∀ c ∈ rest.head?, c.isDigit = false) :
    scanWhole (whole ++ rest) = some (whole, rest) := by
  rw [scanWhole, spanDigits_digits hwhole hrest]
  simp only
  split
  · exact absurd rfl hwhole.1
  · cases hleading rfl
  · rfl

theorem scanPowerDigits_digits {digits : List Char} (h : Digits digits) (negative : Bool) :
    scanPowerDigits negative digits = some (some (negative, digits), []) := by
  have hspan : spanDigits (digits ++ []) = (digits, []) := spanDigits_digits h nofun
  rw [List.append_nil] at hspan
  simp [scanPowerDigits, hspan, h.1]

theorem scanPower_powerChars {power : Option (Bool × List Char)}
    (h : ∀ p ∈ power, Digits p.2) : scanPower (powerChars power) = some (power, []) := by
  match power with
  | none => rfl
  | some (true, digits) => exact scanPowerDigits_digits (h _ rfl) true
  | some (false, digits) => exact scanPowerDigits_digits (h _ rfl) false

theorem head?_powerChars (power : Option (Bool × List Char)) :
    ∀ c ∈ (powerChars power).head?, c = 'e' := by
  match power with
  | none => nofun
  | some (true, _) | some (false, _) => simp [powerChars]

theorem scanFraction_fractionChars {fraction : Option (List Char)}
    (h : ∀ digits ∈ fraction, Digits digits) (power : Option (Bool × List Char)) :
    scanFraction (fractionChars fraction ++ powerChars power) =
      some (fraction, powerChars power) := by
  have hpower := head?_powerChars power
  cases fraction with
  | none =>
      rw [fractionChars, List.nil_append]
      cases hchars : powerChars power with
      | nil => rfl
      | cons c cs =>
          rw [hchars] at hpower
          exact scanFraction_cons (by rw [hpower c rfl]; decide) cs
  | some digits =>
      have hspan : spanDigits (digits ++ powerChars power) = (digits, powerChars power) := by
        refine spanDigits_digits (h digits rfl) fun c hc => ?_
        rw [hpower c hc]
        decide
      simp [fractionChars, scanFraction, hspan, (h digits rfl).1]

theorem scanUnsigned_unsignedChars {n : Numeral} (h : n.Sound) :
    scanUnsigned n.negative n.unsignedChars = some (n, []) := by
  have hrest : ∀ c ∈ (fractionChars n.fraction ++ powerChars n.power).head?,
      c.isDigit = false := by
    intro c hc
    cases hfraction : n.fraction with
    | none =>
        rw [hfraction] at hc
        rw [head?_powerChars n.power c hc]
        decide
    | some digits =>
        rw [hfraction] at hc
        cases hc
        decide
  rw [scanUnsigned, Numeral.unsignedChars, scanWhole_digits h.whole h.leading hrest]
  simp only [Option.bind_eq_bind, Option.bind_some, scanFraction_fractionChars h.fraction,
    scanPower_powerChars h.power]
  rfl

/-- The power of ten behind the digits of a numeral. -/
def Numeral.exponent (n : Numeral) : Int :=
  match n.power with
  | none => 0
  | some (false, digits) => (Nat.ofDigitChars 10 digits 0 : Int)
  | some (true, digits) => -(Nat.ofDigitChars 10 digits 0 : Int)

/-- The magnitude that a numeral stands for. -/
def Numeral.magnitude (n : Numeral) : ℚ :=
  Nat.ofDigitChars 10 (n.whole ++ n.fraction.getD []) 0 *
    10 ^ (n.exponent - (n.fraction.getD []).length)

/-- The numeral has this text after its sign, stands for this magnitude, and is not written as an
integer. -/
structure Numeral.Writes (n : Numeral) (negative : Bool) (cs : List Char) (magnitude : ℚ) :
    Prop where
  sound : n.Sound
  negative_eq : n.negative = negative
  unsignedChars_eq : n.unsignedChars = cs
  magnitude_eq : n.magnitude = magnitude
  notInteger : n.fraction.isSome = true ∨ n.power.isSome = true

end Json

namespace Double

open Json

theorem digits_toDigits (n : Nat) : Digits (Nat.toDigits 10 n) :=
  ⟨Nat.toDigits_ne_nil, isDigit_of_mem_toDigits⟩

theorem digits_append {cs ds : List Char} (hcs : Digits cs) (hds : ∀ c ∈ ds, c.isDigit = true) :
    Digits (cs ++ ds) :=
  ⟨List.append_ne_nil_of_left_ne_nil hcs.1 ds, fun c hc =>
    (List.mem_append.mp hc).elim (hcs.2 c) (hds c)⟩

theorem digits_zero : Digits ['0'] :=
  ⟨List.cons_ne_nil _ _, List.forall_mem_singleton.mpr rfl⟩

theorem isDigit_replicate (n : Nat) : ∀ c ∈ List.replicate n '0', c.isDigit = true := by
  intro c hc
  rw [List.eq_of_mem_replicate hc]
  decide

/-- Digits of a decimal: there are some, and the first is not zero. -/
structure Leading (cs : List Char) : Prop where
  digits : Digits cs
  head?_ne : cs.head? ≠ some '0'

theorem leading_toDigits {n : Nat} (hn : n ≠ 0) : Leading (Nat.toDigits 10 n) where
  digits := digits_toDigits n
  head?_ne := by
    obtain ⟨c, cs, hdigits, hc⟩ := exists_toDigits_eq_cons (Nat.pos_of_ne_zero hn)
    rw [hdigits]
    exact fun heq => hc (Option.some.inj heq)

theorem Leading.head?_append_ne {cs : List Char} (h : Leading cs) (ds : List Char) :
    (cs ++ ds).head? ≠ some '0' := by
  rw [List.head?_append_of_ne_nil _ h.digits.1]
  exact h.head?_ne

variable {digits : List Char}

theorem writes_whole (h : Leading digits) (negative : Bool) (k : Nat) :
    (⟨negative, digits ++ List.replicate k '0', some ['0'], none⟩ : Numeral).Writes negative
      (digits ++ List.replicate k '0' ++ ['.', '0'])
      (Nat.ofDigitChars 10 digits 0 * 10 ^ (k : Int)) where
  sound := by
    refine ⟨digits_append h.digits (isDigit_replicate k), ?_, ?_, nofun⟩
    · intro hzero
      exact absurd hzero (h.head?_append_ne _)
    · rintro _ ⟨⟩
      exact digits_zero
  negative_eq := rfl
  unsignedChars_eq := by simp [Numeral.unsignedChars, fractionChars, powerChars]
  magnitude_eq := by
    have hvalue : Nat.ofDigitChars 10 (digits ++ List.replicate k '0' ++ ['0']) 0 =
        10 * (10 ^ k * Nat.ofDigitChars 10 digits 0) := by
      rw [Nat.ofDigitChars_append, Nat.ofDigitChars_append, Nat.ofDigitChars_replicate_zero]
      rfl
    simp only [Numeral.magnitude, Numeral.exponent, Option.getD_some, hvalue,
      List.length_singleton]
    push_cast
    rw [zpow_natCast, zpow_neg_one]
    field_simp
  notInteger := Or.inl rfl

theorem writes_split (h : Leading digits) (negative : Bool) {p : Nat} (hpos : 0 < p)
    (hlt : p < digits.length) :
    (⟨negative, digits.take p, some (digits.drop p), none⟩ : Numeral).Writes negative
      (digits.take p ++ '.' :: digits.drop p)
      (Nat.ofDigitChars 10 digits 0 * 10 ^ ((p : Int) - digits.length)) where
  sound := by
    have htake : digits.take p ≠ [] := by
      rw [Ne, List.take_eq_nil_iff, not_or]
      exact ⟨hpos.ne', h.digits.1⟩
    have hdrop : digits.drop p ≠ [] := by
      rw [Ne, List.drop_eq_nil_iff]
      omega
    refine ⟨⟨htake, fun c hc => h.digits.2 c (List.mem_of_mem_take hc)⟩, ?_, ?_, nofun⟩
    · rw [List.head?_take, if_neg hpos.ne']
      exact fun hzero => absurd hzero h.head?_ne
    · rintro _ ⟨⟩
      exact ⟨hdrop, fun c hc => h.digits.2 c (List.mem_of_mem_drop hc)⟩
  negative_eq := rfl
  unsignedChars_eq := by simp [Numeral.unsignedChars, fractionChars, powerChars]
  magnitude_eq := by
    have hexponent : (0 : Int) - (digits.length - p : Nat) = p - digits.length := by omega
    simp only [Numeral.magnitude, Numeral.exponent, Option.getD_some, List.take_append_drop,
      List.length_drop, hexponent]
  notInteger := Or.inl rfl

theorem writes_small (h : Leading digits) (negative : Bool) (zeros : Nat) :
    (⟨negative, ['0'], some (List.replicate zeros '0' ++ digits), none⟩ : Numeral).Writes negative
      (['0', '.'] ++ List.replicate zeros '0' ++ digits)
      (Nat.ofDigitChars 10 digits 0 * 10 ^ (-(zeros + digits.length : Nat) : Int)) where
  sound := by
    refine ⟨digits_zero, fun _ => rfl, ?_, nofun⟩
    rintro _ ⟨⟩
    exact ⟨List.append_ne_nil_of_right_ne_nil _ h.digits.1, fun c hc =>
      (List.mem_append.mp hc).elim (isDigit_replicate zeros c) (h.digits.2 c)⟩
  negative_eq := rfl
  unsignedChars_eq := by simp [Numeral.unsignedChars, fractionChars, powerChars]
  magnitude_eq := by
    simp only [Numeral.magnitude, Numeral.exponent, Option.getD_some, Nat.ofDigitChars_append,
      Nat.ofDigitChars_replicate_zero, Nat.ofDigitChars_cons, Nat.ofDigitChars_nil,
      List.length_append, List.length_replicate, zero_sub]
    rfl
  notInteger := Or.inl rfl

theorem exists_writes_plainText (h : Leading digits) (exponent : Int) (negative : Bool) :
    ∃ n : Numeral, n.Writes negative (plainText digits exponent)
      (Nat.ofDigitChars 10 digits 0 * 10 ^ exponent) := by
  rw [plainText]
  split
  · rename_i hpos
    obtain ⟨k, rfl⟩ := Int.eq_ofNat_of_zero_le hpos
    exact ⟨_, writes_whole h negative k⟩
  · split
    · rename_i hneg hpoint
      obtain ⟨p, hp⟩ := Int.eq_ofNat_of_zero_le hpoint.le
      have hexponent : exponent = p - digits.length := by omega
      rw [hp, Int.toNat_natCast, hexponent]
      exact ⟨_, writes_split h negative (by omega) (by omega)⟩
    · rename_i hpoint
      obtain ⟨zeros, hzeros⟩ :=
        Int.eq_ofNat_of_zero_le (show 0 ≤ -(digits.length + exponent) by omega)
      have hexponent : exponent = -(zeros + digits.length : Nat) := by omega
      rw [hzeros, Int.toNat_natCast, hexponent]
      exact ⟨_, writes_small h negative zeros⟩

theorem exists_powerChars (style : Style) (hmark : style.positiveMark = "+") (first : Int) :
    ∃ power : Bool × List Char, Digits power.2 ∧
      (∀ n : Numeral, n.power = some power → n.exponent = first) ∧
      powerChars (some power) = 'e' ::
        (if first < 0 then '-' :: Nat.toDigits 10 (-first).toNat
        else style.positiveMark.toList ++ Nat.toDigits 10 first.toNat) := by
  by_cases hneg : first < 0
  · refine ⟨(true, Nat.toDigits 10 (-first).toNat), digits_toDigits _, fun n hn => ?_, ?_⟩
    · rw [Numeral.exponent, hn]
      simp only [Nat.ofDigitChars_ten_toDigits]
      omega
    · rw [if_pos hneg]
      rfl
  · refine ⟨(false, Nat.toDigits 10 first.toNat), digits_toDigits _, fun n hn => ?_, ?_⟩
    · rw [Numeral.exponent, hn]
      simp only [Nat.ofDigitChars_ten_toDigits]
      omega
    · rw [if_neg hneg, hmark]
      rfl

theorem exists_writes_scientificText (style : Style) (hmark : style.positiveMark = "+")
    (h : Leading digits) (exponent : Int) (negative : Bool) :
    ∃ n : Numeral, n.Writes negative (scientificText style digits exponent)
      (Nat.ofDigitChars 10 digits 0 * 10 ^ exponent) := by
  obtain ⟨power, hpower, hexponent, hchars⟩ :=
    exists_powerChars style hmark ((digits.length : Int) + exponent - 1)
  have hsound : ∀ p ∈ some power, Digits p.2 := by
    rintro _ ⟨⟩
    exact hpower
  match digits, h with
  | [], h => exact absurd rfl h.digits.1
  | [d], h =>
      refine ⟨⟨negative, [d], none, some power⟩, ?_, rfl, ?_, ?_, Or.inr rfl⟩
      · exact ⟨h.digits, fun hzero => absurd hzero h.head?_ne, nofun, hsound⟩
      · simp only [Numeral.unsignedChars, hchars]
        rfl
      · rw [Numeral.magnitude, hexponent _ rfl]
        simp
  | d :: d' :: ds, h =>
      have hdigits := List.forall_mem_cons.mp h.digits.2
      refine ⟨⟨negative, [d], some (d' :: ds), some power⟩, ?_, rfl, ?_, ?_, Or.inr rfl⟩
      · refine ⟨⟨List.cons_ne_nil _ _, List.forall_mem_singleton.mpr hdigits.1⟩,
          fun hzero => absurd hzero h.head?_ne, ?_, hsound⟩
        rintro _ ⟨⟩
        exact ⟨List.cons_ne_nil _ _, hdigits.2⟩
      · simp only [Numeral.unsignedChars, hchars]
        rfl
      · have hfirst : ((d :: d' :: ds).length : Int) + exponent - 1 - (d' :: ds).length =
            exponent := by
          rw [List.length_cons]
          omega
        rw [Numeral.magnitude, hexponent _ rfl, Option.getD_some, List.singleton_append, hfirst]

/-- The magnitude that the text of a number shows. -/
def shown (d : Double) : ℚ :=
  if d.significand = 0 then 0 else d.shortest.value

theorem writes_zero (negative : Bool) :
    (⟨negative, ['0'], some ['0'], none⟩ : Numeral).Writes negative ['0', '.', '0'] 0 where
  sound := by
    refine ⟨digits_zero, fun _ => rfl, ?_, nofun⟩
    rintro _ ⟨⟩
    exact digits_zero
  negative_eq := rfl
  unsignedChars_eq := rfl
  magnitude_eq := by simp [Numeral.magnitude, Nat.ofDigitChars_cons]
  notInteger := Or.inl rfl

theorem exists_writes_text (d : Double) : ∃ n : Numeral, ∃ cs, n.Writes d.negative cs d.shown ∧
    d.text numberStyle = if d.negative then '-' :: cs else cs := by
  rw [text, shown]
  by_cases hzero : d.significand = 0
  · rw [if_pos hzero, if_pos hzero]
    exact ⟨_, _, writes_zero d.negative, rfl⟩
  · have hleading := leading_toDigits (shortest_spec hzero).2
    have hvalue : d.shortest.value =
        Nat.ofDigitChars 10 (Nat.toDigits 10 d.shortest.digits) 0 * 10 ^ d.shortest.exponent := by
      rw [Nat.ofDigitChars_ten_toDigits, Decimal.value]
    rw [if_neg hzero, if_neg hzero, hvalue]
    dsimp only
    by_cases hplain : numberStyle.isPlain
        ((Nat.toDigits 10 d.shortest.digits).length + d.shortest.exponent - 1) = true
    · obtain ⟨n, hn⟩ := exists_writes_plainText hleading d.shortest.exponent d.negative
      exact ⟨n, _, hn, by rw [if_pos hplain]⟩
    · obtain ⟨n, hn⟩ := exists_writes_scientificText numberStyle rfl hleading
        d.shortest.exponent d.negative
      exact ⟨n, _, hn, by rw [if_neg hplain]⟩

theorem shown_eq_zero_iff {d : Double} : d.shown = 0 ↔ d.significand = 0 := by
  rw [shown]
  by_cases hzero : d.significand = 0
  · simp [hzero]
  · have hdigits : (d.shortest.digits : ℚ) ≠ 0 := by exact_mod_cast (shortest_spec hzero).2
    rw [if_neg hzero, Decimal.value]
    refine iff_of_false (mul_ne_zero hdigits ?_) hzero
    positivity

/-- A number is known by its sign and the magnitude that its text shows: that magnitude rounds to
the number. -/
theorem eq_of_shown_eq {d d' : Double} (hnegative : d.negative = d'.negative)
    (hshown : d.shown = d'.shown) : d = d' := by
  have hparts : d.significand = d'.significand ∧ d.exponent = d'.exponent := by
    by_cases hzero : d.significand = 0
    · have hzero' : d'.significand = 0 := by
        rw [← shown_eq_zero_iff, ← hshown, shown_eq_zero_iff, hzero]
      have hleast := d.canonical.2.2.2
      have hleast' := d'.canonical.2.2.2
      omega
    · have hzero' : d'.significand ≠ 0 := by
        rwa [Ne, ← shown_eq_zero_iff, ← hshown, shown_eq_zero_iff]
      have hrounds := (shortest_spec hzero).1
      rw [shown, shown, if_neg hzero, if_neg hzero'] at hshown
      rw [hshown] at hrounds
      exact hrounds.unique (shortest_spec hzero').1
  cases d
  cases d'
  cases hnegative
  cases hparts.1
  cases hparts.2
  rfl

end Double

namespace Json

theorem Numeral.Writes.scanNumeral_eq {n : Numeral} {negative : Bool} {cs : List Char}
    {magnitude : ℚ} (h : n.Writes negative cs magnitude) :
    scanNumeral (if negative then '-' :: cs else cs) = some (n, []) := by
  have hscan := scanUnsigned_unsignedChars h.sound
  rw [h.negative_eq, h.unsignedChars_eq] at hscan
  cases negative with
  | true => exact hscan
  | false =>
      obtain ⟨c, whole, hwhole⟩ := List.exists_cons_of_ne_nil h.sound.whole.1
      have hchars := h.unsignedChars_eq
      rw [unsignedChars, hwhole, List.cons_append] at hchars
      have hc : c.isDigit = true := h.sound.whole.2 c (by rw [hwhole]; exact List.mem_cons_self)
      rw [← hchars] at hscan ⊢
      rw [if_neg (by decide), scanNumeral_of_isDigit hc]
      exact hscan

/-- What the numeral of a number tells about it. -/
def Numeral.Tells (numeral : Numeral) : JsonNumber → Prop
  | .integer i => numeral.fraction = none ∧ numeral.power = none ∧
      numeral.value? = some (.integer i)
  | .double d => (numeral.fraction.isSome = true ∨ numeral.power.isSome = true) ∧
      numeral.negative = d.negative ∧ numeral.magnitude = d.shown

theorem exists_scanNumeral_numberChars (n : JsonNumber) :
    ∃ numeral, scanNumeral (numberChars n) = some (numeral, []) ∧ numeral.Tells n := by
  cases n with
  | integer i =>
      exact ⟨_, scanNumeral_integerChars i.value, rfl, rfl, value?_integerNumeral i⟩
  | double d =>
      obtain ⟨numeral, cs, hwrites, htext⟩ := d.exists_writes_text
      refine ⟨numeral, ?_, hwrites.notInteger, hwrites.negative_eq, hwrites.magnitude_eq⟩
      rw [numberChars, htext]
      exact hwrites.scanNumeral_eq

theorem Numeral.Tells.unique {numeral : Numeral} {n m : JsonNumber} (hn : numeral.Tells n)
    (hm : numeral.Tells m) : n = m := by
  have hapart {i : WideInt} {d : Double} (hi : numeral.Tells (.integer i))
      (hd : numeral.Tells (.double d)) : False := by
    have hsome := hd.1
    rw [hi.1, hi.2.1] at hsome
    simp at hsome
  cases n with
  | integer i =>
      cases m with
      | integer j => exact Option.some.inj (hn.2.2.symm.trans hm.2.2)
      | double d => exact (hapart hn hm).elim
  | double d =>
      cases m with
      | integer j => exact (hapart hm hn).elim
      | double d' =>
          rw [Double.eq_of_shown_eq (hn.2.1.symm.trans hm.2.1) (hn.2.2.symm.trans hm.2.2)]

theorem numberChars_append_inj {n m : JsonNumber} {rest rest' : List Char} (hrest : Apart rest)
    (hrest' : Apart rest') (h : numberChars n ++ rest = numberChars m ++ rest') :
    n = m ∧ rest = rest' := by
  obtain ⟨numeral, hscan, hn⟩ := exists_scanNumeral_numberChars n
  obtain ⟨numeral', hscan', hm⟩ := exists_scanNumeral_numberChars m
  have heq := (scanNumeral_append hscan hrest).symm.trans
    ((congrArg scanNumeral h).trans (scanNumeral_append hscan' hrest'))
  obtain ⟨hnumeral, hbehind⟩ := Prod.mk.inj (Option.some.inj heq)
  rw [← hnumeral] at hm
  exact ⟨hn.unique hm, hbehind⟩

end Json

end Rulebook
