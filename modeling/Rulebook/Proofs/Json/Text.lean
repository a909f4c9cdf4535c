import Mathlib.Data.List.Basic
import Rulebook.Json.Parser
import Rulebook.Json.Printer

namespace Rulebook.Json

open Rulebook.Document

/-- What is read from the written form of a character stands for it, whatever follows. -/
structure StandsFor (piece : Piece) (c : Char) : Prop where
  scanned : ∀ cs, scanPieces (escaped c ++ cs) =
    (scanPieces cs).map fun (pieces, rest) => (piece :: pieces, rest)
  joined : ∀ pieces, joinPieces (piece :: pieces) = (joinPieces pieces).map (c :: ·)

theorem joinPieces_char (c : Char) (pieces : List Piece) :
    joinPieces (.char c :: pieces) = (joinPieces pieces).map (c :: ·) := by
  rw [joinPieces]
  rfl

theorem joinPieces_control {n : Nat} (hn : n < 0x20) (pieces : List Piece) :
    joinPieces (.unit n :: pieces) = (joinPieces pieces).map (Char.ofNat n :: ·) := by
  have hleading : isLeading n = false := by simp [isLeading]; omega
  have htrailing : isTrailing n = false := by simp [isTrailing]; omega
  cases pieces with
  | nil => simp [joinPieces, hleading, htrailing]
  | cons piece pieces => cases piece <;> simp [joinPieces, hleading, htrailing]

theorem scanPieces_unit {n : Nat} (hn : n < 0x20) (cs : List Char) :
    scanPieces
        ('\\' :: 'u' :: '0' :: '0' :: Nat.digitChar (n / 16) :: Nat.digitChar (n % 16) :: cs) =
      (scanPieces cs).map fun (pieces, rest) => (.unit n :: pieces, rest) := by
  have hnumber : ∀ n < 0x20, Text.hexNumber? 0
      ['0', '0', Nat.digitChar (n / 16), Nat.digitChar (n % 16)] = some n := by decide
  rw [scanPieces, hnumber n hn]
  cases scanPieces cs <;> rfl

theorem scanPieces_short {e c : Char} (he : e ≠ 'u') (hc : shortEscape? e = some c)
    (cs : List Char) :
    scanPieces ('\\' :: e :: cs) =
      (scanPieces cs).map fun (pieces, rest) => (.char c :: pieces, rest) := by
  rw [scanPieces]
  · rw [hc]
    cases scanPieces cs <;> rfl
  · simp [he]

theorem scanPieces_bare {c : Char} (hquote : c ≠ '"') (hslash : c ≠ '\\') (hc : ¬ c.toNat < 0x20)
    (cs : List Char) :
    scanPieces (c :: cs) = (scanPieces cs).map fun (pieces, rest) => (.char c :: pieces, rest) := by
  rw [scanPieces]
  · rw [if_neg (by simp [hslash, hc])]
    cases scanPieces cs <;> rfl
  · exact hquote
  · simp [hslash]
  · simp [hslash]

theorem escaped_cases (c : Char) :
    (∃ e, e ≠ 'u' ∧ shortEscape? e = some c ∧ escaped c = ['\\', e]) ∨
    (c.toNat < 0x20 ∧ escaped c =
      ['\\', 'u', '0', '0', Nat.digitChar (c.toNat / 16), Nat.digitChar (c.toNat % 16)]) ∨
    (c ≠ '"' ∧ c ≠ '\\' ∧ ¬ c.toNat < 0x20 ∧ escaped c = [c]) := by
  rw [escaped]
  split
  case isTrue h => exact Or.inl ⟨'"', by decide, by rw [h]; rfl, rfl⟩
  case isFalse hquote =>
    split
    case isTrue h => exact Or.inl ⟨'\\', by decide, by rw [h]; rfl, rfl⟩
    case isFalse hslash =>
      split
      case isTrue h => exact Or.inl ⟨'b', by decide, by rw [h]; rfl, rfl⟩
      split
      case isTrue h => exact Or.inl ⟨'f', by decide, by rw [h]; rfl, rfl⟩
      split
      case isTrue h => exact Or.inl ⟨'n', by decide, by rw [h]; rfl, rfl⟩
      split
      case isTrue h => exact Or.inl ⟨'r', by decide, by rw [h]; rfl, rfl⟩
      split
      case isTrue h => exact Or.inl ⟨'t', by decide, by rw [h]; rfl, rfl⟩
      split
      case isTrue h => exact Or.inr (Or.inl ⟨h, rfl⟩)
      case isFalse h => exact Or.inr (Or.inr ⟨hquote, hslash, h, rfl⟩)

theorem exists_standsFor (c : Char) : ∃ piece, StandsFor piece c := by
  rcases escaped_cases c with ⟨e, he, hc, hform⟩ | ⟨hc, hform⟩ | ⟨hquote, hslash, hc, hform⟩
  · refine ⟨.char c, fun cs => ?_, joinPieces_char c⟩
    rw [hform]
    exact scanPieces_short he hc cs
  · refine ⟨.unit c.toNat, fun cs => ?_, fun pieces => ?_⟩
    · rw [hform]
      exact scanPieces_unit hc cs
    · rw [joinPieces_control hc, Char.ofNat_toNat]
  · refine ⟨.char c, fun cs => ?_, joinPieces_char c⟩
    rw [hform]
    exact scanPieces_bare hquote hslash hc cs

theorem scanPieces_flatMap_escaped (cs rest : List Char) :
    ∃ pieces, scanPieces (cs.flatMap escaped ++ '"' :: rest) = some (pieces, rest) ∧
      joinPieces pieces = some cs := by
  induction cs with
  | nil => exact ⟨[], rfl, rfl⟩
  | cons c cs ih =>
      obtain ⟨pieces, hscan, hjoin⟩ := ih
      obtain ⟨piece, hpiece⟩ := exists_standsFor c
      refine ⟨piece :: pieces, ?_, ?_⟩
      · rw [List.flatMap_cons, List.append_assoc, hpiece.scanned, hscan]
        rfl
      · rw [hpiece.joined, hjoin]
        rfl

/-- A written text reads back, and what follows it is left. -/
theorem textNode_textChars (s : String) (rest : List Char) :
    textNode (s.toList.flatMap escaped ++ '"' :: rest) = (.text s, rest) := by
  obtain ⟨pieces, hscan, hjoin⟩ := scanPieces_flatMap_escaped s.toList rest
  rw [textNode, hscan]
  simp only [hjoin, String.ofList_toList]

/-- No control character stands bare in the text. -/
def Plain (cs : List Char) : Prop :=
  ∀ c ∈ cs, 0x20 ≤ c.toNat

instance (cs : List Char) : Decidable (Plain cs) :=
  List.decidableBAll _ cs

theorem plain_nil : Plain [] := by
  simp [Plain]

theorem plain_cons {c : Char} {cs : List Char} : Plain (c :: cs) ↔ 0x20 ≤ c.toNat ∧ Plain cs :=
  List.forall_mem_cons

theorem plain_append {cs ds : List Char} : Plain (cs ++ ds) ↔ Plain cs ∧ Plain ds :=
  List.forall_mem_append

theorem plain_escaped (c : Char) : Plain (escaped c) := by
  rcases escaped_cases c with ⟨e, -, hc, hform⟩ | ⟨hc, hform⟩ | ⟨-, -, hc, hform⟩
  · -- the letters of the short escapes are no control characters
    have he : 0x20 ≤ e.toNat := by
      unfold shortEscape? at hc
      split at hc
      case h_9 => cases hc
      all_goals decide
    rw [hform]
    exact plain_cons.mpr ⟨by decide, plain_cons.mpr ⟨he, plain_nil⟩⟩
  · have hdigits : ∀ n < 0x20,
        Plain ['\\', 'u', '0', '0', Nat.digitChar (n / 16), Nat.digitChar (n % 16)] := by
      decide
    rw [hform]
    exact hdigits c.toNat hc
  · rw [hform]
    exact plain_cons.mpr ⟨Nat.le_of_not_lt hc, plain_nil⟩

theorem plain_textChars (s : String) : Plain (textChars s) := by
  have hinner : Plain (s.toList.flatMap escaped) := by
    intro d hd
    obtain ⟨c, -, hc⟩ := List.mem_flatMap.mp hd
    exact plain_escaped c d hc
  rw [textChars, List.cons_append, plain_cons, plain_append]
  exact ⟨by decide, hinner, plain_cons.mpr ⟨by decide, plain_nil⟩⟩

end Rulebook.Json
