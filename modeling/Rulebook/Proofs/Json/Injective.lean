import Rulebook.Proofs.Json.Double

/-!
Different values have different written forms. A written value shows by its first character of which
kind it is, and by its text alone where it ends, so that two written values can be told apart from
the front, whatever stands behind them.
-/

namespace Rulebook.Json

/-- What a value is without what is in it. -/
inductive Kind where
  | null
  | boolean (value : Bool)
  | number
  | text
  | array
  | object
  deriving DecidableEq

def kind : Json → Kind
  | .null => .null
  | .boolean b => .boolean b
  | .number _ => .number
  | .text _ => .text
  | .array _ => .array
  | .object _ => .object

/-- The kind of the values whose written form starts with a character. -/
def kindFrom (c : Char) : Option Kind :=
  if c = 'n' then some .null
  else if c = 't' then some (.boolean true)
  else if c = 'f' then some (.boolean false)
  else if c = '"' then some .text
  else if c = '[' then some .array
  else if c = '\x7b' then some .object
  else if c = '-' ∨ c.isDigit then some .number
  else none

theorem kindFrom_number {c : Char} (hc : c = '-' ∨ c.isDigit = true) :
    kindFrom c = some .number := by
  have hne {d : Char} (hd : d ≠ '-' ∧ d.isDigit = false) : c ≠ d := by
    rintro rfl
    simp [hd] at hc
  rw [kindFrom, if_neg (hne (by decide)), if_neg (hne (by decide)), if_neg (hne (by decide)),
    if_neg (hne (by decide)), if_neg (hne (by decide)), if_neg (hne (by decide)), if_pos hc]

theorem start_of_scanNumeral {cs : List Char} {scanned : Numeral × List Char}
    (h : scanNumeral cs = some scanned) :
    ∃ c cs', cs = c :: cs' ∧ (c = '-' ∨ c.isDigit = true) := by
  cases cs with
  | nil => cases h
  | cons c cs =>
      refine ⟨c, cs, rfl, ?_⟩
      by_contra hc
      rw [not_or] at hc
      rw [scanNumeral] at h
      · simp [scanUnsigned, scanWhole, spanDigits, hc.2] at h
      · rintro cs' heq
        exact hc.1 (List.cons.inj heq).1

theorem exists_chars_kindFrom (j : Json) :
    ∃ c cs, chars j = c :: cs ∧ kindFrom c = some j.kind := by
  cases j with
  | null => exact ⟨_, _, chars.eq_1, by decide⟩
  | boolean b =>
      cases b
      · exact ⟨_, _, chars.eq_3, by decide⟩
      · exact ⟨_, _, chars.eq_2, by decide⟩
  | number n =>
      obtain ⟨numeral, hscan, -⟩ := exists_scanNumeral_numberChars n
      obtain ⟨c, cs, hchars, hc⟩ := start_of_scanNumeral hscan
      exact ⟨c, cs, by rw [chars, hchars], kindFrom_number hc⟩
  | text s => exact ⟨_, _, by rw [chars, textChars, List.cons_append], rfl⟩
  | array items => exact ⟨_, _, chars_array items, rfl⟩
  | object members => exact ⟨_, _, chars_object members, rfl⟩

variable {rest rest' : List Char}

theorem kind_eq_of_chars_append_eq {i j : Json} (h : chars i ++ rest = chars j ++ rest') :
    i.kind = j.kind := by
  obtain ⟨c, cs, hi, hc⟩ := exists_chars_kindFrom i
  obtain ⟨d, ds, hj, hd⟩ := exists_chars_kindFrom j
  rw [hi, hj, List.cons_append, List.cons_append] at h
  rw [(List.cons.inj h).1, hd] at hc
  exact (Option.some.inj hc).symm

theorem textChars_append_inj {s t : String}
    (h : textChars s ++ rest = textChars t ++ rest') : s = t ∧ rest = rest' := by
  simp only [textChars, List.cons_append, List.append_assoc, List.nil_append] at h
  have hnode := congrArg textNode (List.cons.inj h).2
  rw [textNode_textChars, textNode_textChars] at hnode
  obtain ⟨htext, hrest⟩ := Prod.mk.inj hnode
  exact ⟨Document.Node.text.inj htext, hrest⟩

theorem apart_itemsTail (items : List Json) (rest : List Char) :
    Apart (itemsTail items ++ rest) := by
  rw [← laidItemsTail_compact 0]
  exact apart_laidItemsTail Layout.blank_compact 0 items rest

theorem apart_membersTail (members : List (String × Json)) (rest : List Char) :
    Apart (membersTail members ++ rest) := by
  rw [← laidMembersTail_compact 0]
  exact apart_laidMembersTail Layout.blank_compact 0 members rest

theorem chars_of_tail {α : Type} (tail written : List α → List Char) (mark : Char)
    (hmark : mark ≠ ',') (hend : tail [] = [mark]) (hend' : written [] = [mark])
    (hnext : ∀ a as, tail (a :: as) = ',' :: written (a :: as)) {as bs : List α}
    (h : tail as ++ rest = tail bs ++ rest') : written as ++ rest = written bs ++ rest' := by
  cases as with
  | nil =>
      cases bs with
      | nil =>
          rw [hend] at h
          rwa [hend']
      | cons b bs =>
          rw [hend, hnext] at h
          exact absurd (List.cons.inj h).1 hmark
  | cons a as =>
      rw [hnext] at h
      cases bs with
      | nil =>
          rw [hend] at h
          exact absurd (List.cons.inj h).1.symm hmark
      | cons b bs =>
          rw [hnext] at h
          exact (List.cons.inj h).2

theorem chars_append_ne_bracket (j : Json) : chars j ++ rest ≠ ']' :: rest' := by
  obtain ⟨c, cs, hchars, hc⟩ := exists_chars_kindFrom j
  rw [hchars]
  intro h
  rw [(List.cons.inj h).1] at hc
  cases hc

mutual

/-- Two written values with something behind them that does not go on with a number are the same
only when the values are and when what is behind them is. -/
theorem chars_append_inj : (i j : Json) → {rest rest' : List Char} → Apart rest → Apart rest' →
    chars i ++ rest = chars j ++ rest' → i = j ∧ rest = rest'
  | .null, j, _, _, _, _, h => by
      cases j with
      | null => exact ⟨rfl, List.append_cancel_left h⟩
      | _ => cases kind_eq_of_chars_append_eq h
  | .boolean b, j, _, _, _, _, h => by
      cases j with
      | boolean b' =>
          cases kind_eq_of_chars_append_eq h
          exact ⟨rfl, List.append_cancel_left h⟩
      | _ => cases kind_eq_of_chars_append_eq h
  | .number n, j, _, _, hrest, hrest', h => by
      cases j with
      | number m =>
          rw [chars, chars] at h
          obtain ⟨rfl, heq⟩ := numberChars_append_inj hrest hrest' h
          exact ⟨rfl, heq⟩
      | _ => cases kind_eq_of_chars_append_eq h
  | .text s, j, _, _, _, _, h => by
      cases j with
      | text t =>
          rw [chars, chars] at h
          obtain ⟨rfl, heq⟩ := textChars_append_inj h
          exact ⟨rfl, heq⟩
      | _ => cases kind_eq_of_chars_append_eq h
  | .array items, j, _, _, _, _, h => by
      cases j with
      | array items' =>
          rw [chars_array, chars_array] at h
          obtain ⟨rfl, heq⟩ := itemsChars_append_inj items items' (List.cons.inj h).2
          exact ⟨rfl, heq⟩
      | _ => cases kind_eq_of_chars_append_eq h
  | .object members, j, _, _, _, _, h => by
      cases j with
      | object members' =>
          rw [chars_object, chars_object] at h
          obtain ⟨rfl, heq⟩ := membersChars_append_inj members members' (List.cons.inj h).2
          exact ⟨rfl, heq⟩
      | _ => cases kind_eq_of_chars_append_eq h

theorem itemsChars_append_inj : (items items' : List Json) → {rest rest' : List Char} →
    itemsChars items ++ rest = itemsChars items' ++ rest' → items = items' ∧ rest = rest'
  | [], [], _, _, h => ⟨rfl, List.append_cancel_left h⟩
  | [], item' :: items', _, _, h => by
      rw [itemsChars, itemsChars, List.append_assoc] at h
      exact absurd h.symm (chars_append_ne_bracket item')
  | item :: items, [], _, _, h => by
      rw [itemsChars, itemsChars, List.append_assoc] at h
      exact absurd h (chars_append_ne_bracket item)
  | item :: items, item' :: items', _, _, h => by
      rw [itemsChars, itemsChars, List.append_assoc, List.append_assoc] at h
      obtain ⟨rfl, htail⟩ :=
        chars_append_inj item item' (apart_itemsTail _ _) (apart_itemsTail _ _) h
      have hnext := chars_of_tail itemsTail itemsChars ']' (by decide) rfl rfl itemsTail_cons htail
      obtain ⟨rfl, heq⟩ := itemsChars_append_inj items items' hnext
      exact ⟨rfl, heq⟩

theorem membersChars_append_inj : (members members' : List (String × Json)) →
    {rest rest' : List Char} → membersChars members ++ rest = membersChars members' ++ rest' →
    members = members' ∧ rest = rest'
  | [], [], _, _, h => ⟨rfl, List.append_cancel_left h⟩
  | [], (name', value') :: members', _, _, h => by
      rw [membersChars_eq_cons] at h
      cases (List.cons.inj h).1
  | (name, value) :: members, [], _, _, h => by
      rw [membersChars_eq_cons] at h
      cases (List.cons.inj h).1
  | (name, value) :: members, (name', value') :: members', _, _, h => by
      simp only [membersChars, List.append_assoc, List.cons_append] at h
      obtain ⟨rfl, hvalue⟩ := textChars_append_inj h
      obtain ⟨rfl, htail⟩ := chars_append_inj value value' (apart_membersTail _ _)
        (apart_membersTail _ _) (List.cons.inj hvalue).2
      have hnext := chars_of_tail membersTail membersChars '\x7d' (by decide) rfl rfl
        membersTail_cons htail
      obtain ⟨rfl, heq⟩ := membersChars_append_inj members members' hnext
      exact ⟨rfl, heq⟩

end

theorem compact_injective : Function.Injective compact := by
  intro i j h
  have hchars : chars i ++ [] = chars j ++ [] := by
    rw [List.append_nil, List.append_nil]
    exact String.ofList_inj.mp h
  exact (chars_append_inj i j apart_nil apart_nil hchars).1

end Rulebook.Json
