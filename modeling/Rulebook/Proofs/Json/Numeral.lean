import Mathlib.Data.List.Basic
import Rulebook.Proofs.Json.Reading

namespace Rulebook.Json

open Rulebook.Document

theorem le_ofDigitChars (digits : List Char) (start : Nat) :
    start ≤ Nat.ofDigitChars 10 digits start := by
  induction digits generalizing start with
  | nil => simp
  | cons c digits ih =>
      rw [Nat.ofDigitChars_cons]
      have hrest := ih (10 * start + (c.toNat - '0'.toNat))
      omega

theorem absorb_eq {digits : List Char} {start : Nat}
    (h : Nat.ofDigitChars 10 digits start < 0x10000000000000000) :
    absorb start digits = (Nat.ofDigitChars 10 digits start, digits.length) := by
  induction digits generalizing start with
  | nil => simp [absorb]
  | cons c digits ih =>
      rw [Nat.ofDigitChars_cons] at h ⊢
      have hnext : start * 10 + digitValue c = 10 * start + (c.toNat - '0'.toNat) := by
        rw [digitValue, Nat.mul_comm]
      have hle := le_ofDigitChars digits (10 * start + (c.toNat - '0'.toNat))
      rw [absorb, hnext]
      simp only [if_pos (Nat.lt_of_le_of_lt hle h), ih h, List.length_cons]

theorem exists_toDigits_eq_cons {n : Nat} (hn : 0 < n) :
    ∃ c cs, Nat.toDigits 10 n = c :: cs ∧ c ≠ '0' := by
  induction n using Nat.strongRecOn with
  | ind n ih =>
      by_cases hlt : n < 10
      · have hdigit : ∀ d < 10, 0 < d → d.digitChar ≠ '0' := by decide
        exact ⟨n.digitChar, [], Nat.toDigits_of_lt_base hlt, hdigit n hlt hn⟩
      · obtain ⟨c, cs, hdigits, hc⟩ := ih (n / 10) (by omega) (by omega)
        rw [Nat.toDigits_of_base_le (by decide) (by omega), hdigits]
        exact ⟨c, _, List.cons_append, hc⟩

theorem isDigit_of_mem_toDigits {n : Nat} : ∀ c ∈ Nat.toDigits 10 n, c.isDigit = true :=
  fun _ => Nat.isDigit_of_mem_toDigits (by decide) (by decide)

theorem scanFraction_cons {c : Char} (hc : c ≠ '.') (cs : List Char) :
    scanFraction (c :: cs) = some (none, c :: cs) := by
  rw [scanFraction]
  simpa using hc

theorem scanPower_cons {c : Char} (he : c ≠ 'e') (hE : c ≠ 'E') (cs : List Char) :
    scanPower (c :: cs) = some (none, c :: cs) := by
  unfold scanPower
  simp [he, hE]

section Apart

variable {cs left rest : List Char}

theorem scanFraction_of_apart (hrest : Apart rest) : scanFraction rest = some (none, rest) := by
  cases rest with
  | nil => rfl
  | cons c rest => exact scanFraction_cons (hrest c rfl).2.1 rest

theorem scanPower_of_apart (hrest : Apart rest) : scanPower rest = some (none, rest) := by
  cases rest with
  | nil => rfl
  | cons c rest => exact scanPower_cons (hrest c rfl).2.2.1 (hrest c rfl).2.2.2 rest

theorem spanDigits_append (cs : List Char) (hrest : Apart rest) :
    spanDigits (cs ++ rest) = ((spanDigits cs).1, (spanDigits cs).2 ++ rest) := by
  induction cs with
  | nil =>
      cases rest with
      | nil => rfl
      | cons c rest => simp [spanDigits, (hrest c rfl).1]
  | cons c cs ih =>
      simp only [spanDigits, Prod.mk.injEq] at ih ⊢
      rw [List.cons_append, List.takeWhile_cons, List.takeWhile_cons, List.dropWhile_cons,
        List.dropWhile_cons, ih.1, ih.2]
      cases c.isDigit <;> exact ⟨rfl, rfl⟩

theorem scanWhole_append {whole : List Char} (h : scanWhole cs = some (whole, left))
    (hrest : Apart rest) : scanWhole (cs ++ rest) = some (whole, left ++ rest) := by
  rw [scanWhole] at h
  rw [scanWhole, spanDigits_append cs hrest]
  revert h
  simp only
  split
  · nofun
  · nofun
  · rintro h
    cases h
    rfl

theorem scanFraction_append {fraction : Option (List Char)}
    (h : scanFraction cs = some (fraction, left)) (hrest : Apart rest) :
    scanFraction (cs ++ rest) = some (fraction, left ++ rest) := by
  cases cs with
  | nil =>
      cases h
      exact scanFraction_of_apart hrest
  | cons c cs =>
      by_cases hc : c = '.'
      · subst hc
        rw [scanFraction] at h
        rw [List.cons_append, scanFraction, spanDigits_append cs hrest]
        revert h
        simp only
        split
        · nofun
        · rintro h
          cases h
          rfl
      · rw [scanFraction_cons hc] at h
        cases h
        exact scanFraction_cons hc _

theorem scanPowerDigits_append {negative : Bool} {power : Option (Bool × List Char)}
    (h : scanPowerDigits negative cs = some (power, left)) (hrest : Apart rest) :
    scanPowerDigits negative (cs ++ rest) = some (power, left ++ rest) := by
  rw [scanPowerDigits] at h
  rw [scanPowerDigits, spanDigits_append cs hrest]
  revert h
  simp only
  split
  · nofun
  · rintro h
    cases h
    rfl

theorem ne_append_of_scanPowerDigits {power : Option (Bool × List Char)}
    (h : scanPowerDigits false cs = some (power, left)) {sign : Char}
    (hsign : ∀ cs', cs ≠ sign :: cs') (cs' : List Char) : cs ++ rest ≠ sign :: cs' := by
  cases cs with
  | nil => cases h
  | cons c cs =>
      intro heq
      exact hsign cs (by rw [(List.cons.inj heq).1])

theorem scanPower_append {power : Option (Bool × List Char)}
    (h : scanPower cs = some (power, left)) (hrest : Apart rest) :
    scanPower (cs ++ rest) = some (power, left ++ rest) := by
  fun_cases scanPower cs with
  | case1 cs | case2 cs =>
      have hdigits : scanPowerDigits true cs = some (power, left) := h
      exact scanPowerDigits_append hdigits hrest
  | case3 cs | case4 cs =>
      have hdigits : scanPowerDigits false cs = some (power, left) := h
      exact scanPowerDigits_append hdigits hrest
  | case5 cs hminus hplus | case6 cs hminus hplus =>
      rw [scanPower] at h
      · rw [List.cons_append, scanPower]
        · exact scanPowerDigits_append h hrest
        · exact ne_append_of_scanPowerDigits h hminus
        · exact ne_append_of_scanPowerDigits h hplus
      · exact hminus
      · exact hplus
  | case7 _ _ _ _ _ he hE =>
      cases cs with
      | nil =>
          cases h
          exact scanPower_of_apart hrest
      | cons c cs =>
          have hce : c ≠ 'e' := fun heq => he cs (by rw [heq])
          have hcE : c ≠ 'E' := fun heq => hE cs (by rw [heq])
          rw [scanPower_cons hce hcE] at h
          cases h
          exact scanPower_cons hce hcE _

theorem scanUnsigned_append {negative : Bool} {numeral : Numeral}
    (h : scanUnsigned negative cs = some (numeral, left)) (hrest : Apart rest) :
    scanUnsigned negative (cs ++ rest) = some (numeral, left ++ rest) := by
  simp only [scanUnsigned, Option.bind_eq_bind, Option.bind_eq_some_iff] at h
  obtain ⟨⟨whole, cs₁⟩, hwhole, ⟨fraction, cs₂⟩, hfraction, ⟨power, cs₃⟩, hpower, heq⟩ := h
  cases heq
  rw [scanUnsigned, scanWhole_append hwhole hrest]
  simp only [Option.bind_eq_bind, Option.bind_some, scanFraction_append hfraction hrest,
    scanPower_append hpower hrest]
  rfl

theorem scanNumeral_append {numeral : Numeral} (h : scanNumeral cs = some (numeral, left))
    (hrest : Apart rest) : scanNumeral (cs ++ rest) = some (numeral, left ++ rest) := by
  fun_cases scanNumeral cs with
  | case1 cs =>
      have hunsigned : scanUnsigned true cs = some (numeral, left) := h
      exact scanUnsigned_append hunsigned hrest
  | case2 _ hminus =>
      rw [scanNumeral] at h
      · rw [scanNumeral]
        · exact scanUnsigned_append h hrest
        · cases cs with
          | nil => cases h
          | cons c cs =>
              intro cs' heq
              exact hminus cs (by rw [(List.cons.inj heq).1])
      · exact hminus

theorem numberNode_append {n : JsonNumber} (h : numberNode cs = (.number n, left))
    (hrest : Apart rest) : numberNode (cs ++ rest) = (.number n, left ++ rest) := by
  rw [numberNode] at h
  cases hscan : scanNumeral cs with
  | none =>
      rw [hscan] at h
      cases h
  | some scanned =>
      obtain ⟨numeral, behind⟩ := scanned
      rw [hscan] at h
      rw [numberNode, scanNumeral_append hscan hrest]
      cases hvalue : numeral.value? with
      | none =>
          simp only [hvalue] at h
          cases h
      | some read =>
          simp only [hvalue] at h ⊢
          cases h
          rfl

end Apart

theorem Legible.of_numberNode {n read : JsonNumber} (hplain : Plain (numberChars n))
    (hhead : ∃ c cs, numberChars n = c :: cs ∧ (c = '-' ∨ c.isDigit))
    (hnode : numberNode (numberChars n) = (.number read, [])) : Legible n where
  plain := hplain
  head := hhead
  node := by
    intro rest hrest
    rw [numberNode_append hnode hrest, rereadNumber, hnode, List.nil_append]

theorem scanWhole_toDigits (n : Nat) :
    scanWhole (Nat.toDigits 10 n) = some (Nat.toDigits 10 n, []) := by
  have hdigits := isDigit_of_mem_toDigits (n := n)
  have hspan : spanDigits (Nat.toDigits 10 n ++ []) = (Nat.toDigits 10 n, []) := by
    rw [spanDigits, List.takeWhile_append_of_pos hdigits, List.dropWhile_append_of_pos hdigits]
    simp
  rw [List.append_nil] at hspan
  rw [scanWhole, hspan]
  by_cases hn : n = 0
  · subst hn
    rfl
  · obtain ⟨c, cs, hdigits, hc⟩ := exists_toDigits_eq_cons (Nat.pos_of_ne_zero hn)
    simp only [hdigits]
    split
    · rename_i heq
      cases heq
    · rename_i heq
      exact absurd (List.cons.inj heq).1 hc
    · rfl

theorem scanUnsigned_toDigits (negative : Bool) (n : Nat) :
    scanUnsigned negative (Nat.toDigits 10 n) =
      some (⟨negative, Nat.toDigits 10 n, none, none⟩, []) := by
  rw [scanUnsigned, scanWhole_toDigits]
  rfl

theorem ofInt?_value (i : WideInt) : WideInt.ofInt? i.value = some i := by
  rw [WideInt.ofInt?, dif_pos i.inRange]

theorem value?_toDigits {negative : Bool} {n : Nat} {i : WideInt}
    (hvalue : i.value = if negative then -(n : Int) else n) (hsign : negative = true → n ≠ 0) :
    (⟨negative, Nat.toDigits 10 n, none, none⟩ : Numeral).value? = some (.integer i) := by
  have hn : n < 0x10000000000000000 := by
    have hrange := i.inRange
    split at hvalue <;> omega
  have habsorb : absorb 0 (Nat.toDigits 10 n) = (n, (Nat.toDigits 10 n).length) := by
    rw [absorb_eq] <;> rw [Nat.ofDigitChars_toDigits (by decide) (by decide)]
    exact hn
  have hint := ofInt?_value i
  rw [hvalue] at hint
  cases negative with
  | false =>
      rw [if_neg (by decide)] at hint
      simp [Numeral.value?, habsorb, hint]
  | true =>
      rw [if_pos rfl] at hint
      simp [Numeral.value?, habsorb, hint, hsign rfl]

theorem numberNode_of_scan {cs rest : List Char} {numeral : Numeral} {n : JsonNumber}
    (hscan : scanNumeral cs = some (numeral, rest)) (hvalue : numeral.value? = some n) :
    numberNode cs = (.number n, rest) := by
  rw [numberNode, hscan]
  simp only [hvalue]

theorem plain_toDigits (n : Nat) : Plain (Nat.toDigits 10 n) := by
  intro c hc
  have hzero : '0'.toNat ≤ c.toNat :=
    (Char.isDigit_iff_toNat.mp (isDigit_of_mem_toDigits c hc)).1
  exact Nat.le_trans (by decide) hzero

theorem Legible.readsBack {n : JsonNumber} (h : Legible n) (hread : rereadNumber n = n) :
    ReadsBack n where
  plain := h.plain
  head := h.head
  node := by
    have hnode := h.node
    rwa [hread] at hnode

theorem scanNumeral_of_isDigit {c : Char} (hc : c.isDigit = true) (cs : List Char) :
    scanNumeral (c :: cs) = scanUnsigned false (c :: cs) := by
  rw [scanNumeral]
  rintro cs' hminus
  rw [(List.cons.inj hminus).1] at hc
  cases hc

theorem exists_toDigits_isDigit (n : Nat) :
    ∃ c cs, Nat.toDigits 10 n = c :: cs ∧ c.isDigit = true := by
  obtain ⟨c, cs, hdigits⟩ := List.exists_cons_of_ne_nil (Nat.toDigits_ne_nil (n := n) (b := 10))
  exact ⟨c, cs, hdigits, isDigit_of_mem_toDigits c (by rw [hdigits]; exact List.mem_cons_self)⟩

/-- The numeral that an integer is written as. -/
def integerNumeral (i : Int) : Numeral :=
  ⟨decide (i < 0), Nat.toDigits 10 i.natAbs, none, none⟩

theorem scanNumeral_integerChars (i : Int) :
    scanNumeral (integerChars i) = some (integerNumeral i, []) := by
  rw [integerChars, integerNumeral]
  by_cases hneg : i < 0
  · rw [if_pos hneg, decide_eq_true hneg]
    exact scanUnsigned_toDigits true i.natAbs
  · obtain ⟨c, cs, hdigits, hc⟩ := exists_toDigits_isDigit i.natAbs
    have hscan := scanUnsigned_toDigits false i.natAbs
    rw [hdigits] at hscan
    rw [if_neg hneg, decide_eq_false hneg, hdigits, scanNumeral_of_isDigit hc]
    exact hscan

theorem value?_integerNumeral (i : WideInt) :
    (integerNumeral i.value).value? = some (.integer i) := by
  refine value?_toDigits ?_ ?_
  · by_cases hneg : i.value < 0
    · rw [decide_eq_true hneg, if_pos rfl]
      omega
    · rw [decide_eq_false hneg, if_neg (by decide)]
      omega
  · rw [decide_eq_true_iff]
    omega

theorem readsBack_integer (i : WideInt) : ReadsBack (.integer i) := by
  have hnode : numberNode (numberChars (.integer i)) = (.number (.integer i), []) :=
    numberNode_of_scan (scanNumeral_integerChars i.value) (value?_integerNumeral i)
  have hplain : Plain (numberChars (.integer i)) := by
    rw [numberChars, integerChars]
    split
    · rw [plain_cons]
      exact ⟨by decide, plain_toDigits _⟩
    · exact plain_toDigits _
  have hhead : ∃ c cs, numberChars (.integer i) = c :: cs ∧ (c = '-' ∨ c.isDigit) := by
    rw [numberChars, integerChars]
    split
    · exact ⟨'-', _, rfl, Or.inl rfl⟩
    · obtain ⟨c, cs, hdigits, hc⟩ := exists_toDigits_isDigit i.value.natAbs
      exact ⟨c, cs, hdigits, Or.inr hc⟩
  refine (Legible.of_numberNode hplain hhead hnode).readsBack ?_
  rw [rereadNumber, hnode]

end Rulebook.Json
