import Mathlib.Algebra.Group.Nat.Defs
import Mathlib.Data.List.Basic
import Rulebook.Proofs.Document.Written
import Rulebook.Uuid

namespace Rulebook.Text

theorem hexValue?_digitChar : ∀ n < 16, hexValue? (Nat.digitChar n) = some n := by
  decide

theorem hexNumber?_append (start : Nat) (cs ds : List Char) :
    hexNumber? start (cs ++ ds) = (hexNumber? start cs).bind fun n => hexNumber? n ds := by
  induction cs generalizing start with
  | nil => rfl
  | cons c cs ih =>
      rw [List.cons_append, hexNumber?, hexNumber?]
      cases hexValue? c with
      | none => rfl
      | some value => exact ih (start * 16 + value)

theorem length_hexDigits (width n : Nat) : (hexDigits width n).length = width := by
  induction width generalizing n with
  | zero => rfl
  | succ width ih => rw [hexDigits, List.length_append, ih, List.length_singleton]

theorem exists_of_mem_hexDigits {width n : Nat} {c : Char} (h : c ∈ hexDigits width n) :
    ∃ digit < 16, c = Nat.digitChar digit := by
  induction width generalizing n with
  | zero => cases h
  | succ width ih =>
      rcases List.mem_append.mp h with h | h
      · exact ih h
      · exact ⟨n % 16, Nat.mod_lt n (by decide), List.mem_singleton.mp h⟩

theorem hexNumber?_hexDigits (start width n : Nat) :
    hexNumber? start (hexDigits width n) = some (start * 16 ^ width + n % 16 ^ width) := by
  induction width generalizing n with
  | zero => simp [hexDigits, hexNumber?, Nat.mod_one]
  | succ width ih =>
      have hlast (front : Nat) :
          hexNumber? front [Nat.digitChar (n % 16)] = some (front * 16 + n % 16) := by
        rw [hexNumber?, hexValue?_digitChar _ (Nat.mod_lt n (by decide))]
        rfl
      have hsplit : n % 16 ^ (width + 1) = n / 16 % 16 ^ width * 16 + n % 16 := by
        rw [Nat.pow_succ, Nat.mul_comm (16 ^ width), Nat.mod_mul]
        omega
      rw [hexDigits, hexNumber?_append, ih, Option.bind_some, hlast, hsplit, Nat.pow_succ]
      congr 1
      rw [Nat.add_mul, Nat.mul_assoc, Nat.add_assoc]

end Rulebook.Text

namespace Rulebook.Uuid

open Rulebook.Document

theorem length_digits (id : Uuid) : id.digits.length = 32 :=
  Text.length_hexDigits 32 _

theorem ofDigits?_digits (id : Uuid) : ofDigits? id.digits = some id := by
  have hsmall : id.bits.toNat % 16 ^ 32 = id.bits.toNat := by
    have hbound := id.bits.isLt
    omega
  rw [ofDigits?, if_pos (length_digits id), digits, Text.hexNumber?_hexDigits, hsmall]
  simp

theorem hyphenate_groups {a b c d : List Char} (ha : a.length = 8) (hb : b.length = 4)
    (hc : c.length = 4) (hd : d.length = 4) (e : List Char) :
    hyphenate (a ++ (b ++ (c ++ (d ++ e)))) =
      a ++ '-' :: (b ++ '-' :: (c ++ '-' :: (d ++ '-' :: e))) := by
  simp [hyphenate, ha, hb, hc, hd, List.drop_append, List.drop_eq_nil_of_le]

theorem exists_groups {digits : List Char} (h : digits.length = 32) :
    ∃ a b c d e, digits = a ++ (b ++ (c ++ (d ++ e))) ∧ a.length = 8 ∧ b.length = 4 ∧
      c.length = 4 ∧ d.length = 4 := by
  have hcut (m n : Nat) (hn : m + 4 = n) :
      (digits.drop m).take 4 ++ digits.drop n = digits.drop m := by
    rw [← hn, ← List.drop_drop, List.take_append_drop]
  refine ⟨digits.take 8, (digits.drop 8).take 4, (digits.drop 12).take 4, (digits.drop 16).take 4,
    digits.drop 20, ?_, ?_, ?_, ?_, ?_⟩
  · rw [hcut 16 20 rfl, hcut 12 16 rfl, hcut 8 12 rfl, List.take_append_drop]
  all_goals simp [h]

theorem ofGroups?_hyphenate {digits : List Char} (h : digits.length = 32) :
    ofGroups? (hyphenate digits) = ofDigits? digits := by
  obtain ⟨a, b, c, d, e, rfl, ha, hb, hc, hd⟩ := exists_groups h
  have hdigits : (hyphenate (a ++ (b ++ (c ++ (d ++ e))))).take 8 ++
      ((hyphenate (a ++ (b ++ (c ++ (d ++ e))))).drop 9).take 4 ++
      ((hyphenate (a ++ (b ++ (c ++ (d ++ e))))).drop 14).take 4 ++
      ((hyphenate (a ++ (b ++ (c ++ (d ++ e))))).drop 19).take 4 ++
      (hyphenate (a ++ (b ++ (c ++ (d ++ e))))).drop 24 = a ++ (b ++ (c ++ (d ++ e))) := by
    rw [hyphenate_groups ha hb hc hd]
    simp [ha, hb, hc, hd, List.drop_append, List.drop_eq_nil_of_le]
  rw [ofGroups?, hdigits, if_pos rfl]

theorem unwrap_hyphenate (id : Uuid) :
    unwrap (hyphenate id.digits) = (hyphenate id.digits, 0, true) := by
  have hdigit : ∀ n < 16, Nat.digitChar n ≠ 'u' ∧ Nat.digitChar n ≠ '\x7b' := by decide
  cases hdigits : id.digits with
  | nil => exact absurd (length_digits id) (by rw [hdigits]; decide)
  | cons c rest =>
      have hc : c ∈ id.digits := hdigits ▸ List.mem_cons_self
      obtain ⟨n, hn, rfl⟩ := Text.exists_of_mem_hexDigits hc
      obtain ⟨cs, hcs⟩ : ∃ cs, hyphenate (Nat.digitChar n :: rest) = Nat.digitChar n :: cs :=
        ⟨_, rfl⟩
      rw [hcs]
      unfold unwrap
      split
      · rename_i h
        exact absurd (List.cons.inj h).1 (hdigit n hn).1
      · rename_i h
        exact absurd (List.cons.inj h).1 (hdigit n hn).2
      · rfl

theorem parse_text (id : Uuid) : parse id.text = .ok id := by
  have hlong : (hyphenate id.digits).length ≠ 32 := by
    simp [hyphenate, length_digits]
  have hplain : ofDigits? (hyphenate id.digits) = none := by
    rw [ofDigits?, if_neg hlong]
  have hgroups : ofGroups? (hyphenate id.digits) = some id := by
    rw [ofGroups?_hyphenate (length_digits id), ofDigits?_digits]
  rw [parse, text, String.toList_ofList, unwrap_hyphenate]
  simp only [if_true, hplain, hgroups]
  rfl

theorem takes_toJson (id : Uuid) : Uuid.read.Takes id.toJson id := by
  refine Reader.takes_parsed ?_
  rw [parse_text]

end Rulebook.Uuid
