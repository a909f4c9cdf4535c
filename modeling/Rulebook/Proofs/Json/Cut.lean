import Mathlib.Data.List.Basic
import Mathlib.Tactic.IntervalCases
import Rulebook.Proofs.Json.Reading

/-!
Written values that are cut off. What stands behind the cut, nothing or another written object, does
not close any array or object that was open there.
-/

namespace Rulebook.Json

open Rulebook.Document

/-- No array or object goes on with the text. -/
def Stuck (rest : List Char) : Prop :=
  ∀ c ∈ (skipGaps rest).head?, c ≠ ',' ∧ c ≠ ':' ∧ c ≠ ']' ∧ c ≠ '\x7d'

/-- Behind a cut the text mends nothing: it starts with an opening brace, if there is any of it,
and neither a text that was open at the cut nor a value that starts there ends where an array or
object could go on. The depth is that of the value. -/
structure Breaks (rest : List Char) (depth : Nat) : Prop where
  head : ∀ c ∈ rest.head?, c = '\x7b'
  text : ∀ {pieces behind}, scanPieces rest = some (pieces, behind) → Stuck behind
  node : ∀ {fuel level}, rest.length ≤ fuel → level + depth ≤ deepestLevel →
    Stuck (scanNode fuel level rest).2

theorem stuck_nil : Stuck [] := by
  simp [Stuck, skipGaps]

theorem Breaks.skipGaps_eq {rest : List Char} {depth : Nat} (h : Breaks rest depth) :
    skipGaps rest = rest := by
  cases rest with
  | nil => rfl
  | cons c cs =>
      rw [h.head c rfl]
      exact skipGaps_cons (by decide) cs

theorem Breaks.stuck {rest : List Char} {depth : Nat} (h : Breaks rest depth) : Stuck rest := by
  intro c hc
  rw [h.skipGaps_eq] at hc
  rw [h.head c hc]
  decide

theorem Breaks.apart {rest : List Char} {depth : Nat} (h : Breaks rest depth) : Apart rest := by
  intro c hc
  rw [h.head c hc]
  decide

/-- An object that is written behind the cut breaks the text, unless a text that was open could end
in front of its first name and leave a mark there. -/
theorem breaks_object {name : String} {value : Json} {members : List (String × Json)}
    (hnumbers : AllNumbers ReadsBack (.object ((name, value) :: members)))
    (hname : ∀ rest, Stuck (name.toList.flatMap escaped ++ '"' :: rest)) :
    Breaks (chars (.object ((name, value) :: members)))
      (depth (.object ((name, value) :: members))) where
  head := by
    rw [chars_object]
    simp
  text := by
    rw [chars_object, membersChars_eq_cons]
    intro pieces behind hscan
    rw [scanPieces_bare (by decide) (by decide) (by decide), scanPieces] at hscan
    obtain ⟨-, rfl⟩ := Prod.mk.inj (Option.some.inj hscan)
    exact hname _
  node := by
    intro fuel level hfuel hlevel
    have hscan := scanNode_chars fuel _ level [] hnumbers hfuel hlevel apart_nil
    rw [List.append_nil] at hscan
    rw [hscan]
    exact stuck_nil

theorem breaks_nil : Breaks [] 0 where
  head := nofun
  text := nofun
  node := by
    intro fuel level _ _
    cases fuel <;> exact stuck_nil

theorem hexNumber?_eq_none {c : Char} (hc : Text.hexValue? c = none) {cs : List Char}
    (hmem : c ∈ cs) (start : Nat) : Text.hexNumber? start cs = none := by
  induction cs generalizing start with
  | nil => cases hmem
  | cons d cs ih =>
      rw [Text.hexNumber?]
      rcases List.mem_cons.mp hmem with rfl | hmem
      · rw [hc]
        rfl
      · cases hd : Text.hexValue? d with
        | none => rfl
        | some n => exact ih hmem _

theorem scanPieces_unit_eq_none {cs : List Char}
    (h : ∀ a b c d rest, cs = a :: b :: c :: d :: rest → Text.hexNumber? 0 [a, b, c, d] = none) :
    scanPieces ('\\' :: 'u' :: cs) = none := by
  rcases cs with _ | ⟨a, _ | ⟨b, _ | ⟨c, _ | ⟨d, rest⟩⟩⟩⟩
  case cons.cons.cons.cons =>
    rw [scanPieces, h a b c d rest rfl]
    rfl
  all_goals
    rw [scanPieces]
    · rfl
    · simp

theorem scanPieces_slash {rest : List Char} {n : Nat} (h : Breaks rest n) :
    scanPieces ('\\' :: rest) = none := by
  cases rest with
  | nil => rfl
  | cons c cs =>
      rw [h.head c rfl, scanPieces]
      · rfl
      · simp

theorem scanPieces_unit_cut {rest front : List Char} {n : Nat} (h : Breaks rest n)
    (hfront : front.length < 4) : scanPieces ('\\' :: 'u' :: (front ++ rest)) = none := by
  refine scanPieces_unit_eq_none fun a b c d behind heq => ?_
  refine hexNumber?_eq_none (c := '\x7b') (by decide) ?_ 0
  cases rest with
  | nil =>
      have hlength := congrArg List.length heq
      simp only [List.append_nil, List.length_cons] at hlength
      omega
  | cons x rest =>
      obtain rfl : x = '\x7b' := h.head x rfl
      have htake : [a, b, c, d] = (front ++ '\x7b' :: rest).take 4 := by
        rw [heq]
        rfl
      have hmem : '\x7b' ∈ ('\x7b' :: rest).take (4 - front.length) := by
        rw [show 4 - front.length = 4 - front.length - 1 + 1 by omega, List.take_succ_cons]
        exact List.mem_cons_self
      rw [htake, List.take_append]
      exact List.mem_append_right _ hmem

theorem scanPieces_escaped_cut {rest front back : List Char} {n : Nat} (h : Breaks rest n)
    (c : Char) (hcut : front ++ back = escaped c) (hfront : front ≠ []) (hback : back ≠ []) :
    scanPieces (front ++ rest) = none := by
  obtain ⟨a, front, rfl⟩ := List.exists_cons_of_ne_nil hfront
  rcases escaped_cases c with ⟨e, -, -, hform⟩ | ⟨-, hform⟩ | ⟨-, -, -, hform⟩ <;>
    rw [hform, List.cons_append, List.cons.injEq] at hcut <;> obtain ⟨rfl, hcut⟩ := hcut
  case inl =>
    -- behind the backslash there is nothing but the letter
    have hlength := congrArg List.length hcut
    have hpos := List.length_pos_of_ne_nil hback
    simp only [List.length_append, List.length_singleton] at hlength
    obtain rfl := List.length_eq_zero_iff.mp (show front.length = 0 by omega)
    exact scanPieces_slash h
  case inr.inl =>
    cases front with
    | nil => exact scanPieces_slash h
    | cons b front =>
        rw [List.cons_append, List.cons.injEq] at hcut
        obtain ⟨rfl, hcut⟩ := hcut
        have hlength := congrArg List.length hcut
        have hpos := List.length_pos_of_ne_nil hback
        simp only [List.length_append, List.length_cons, List.length_nil] at hlength
        exact scanPieces_unit_cut h (by omega)
  case inr.inr => exact absurd (List.append_eq_nil_iff.mp hcut).2 hback

theorem stuck_scanPieces_cut {rest : List Char} {n : Nat} (h : Breaks rest n)
    {cs front back : List Char} (hcut : front ++ back = cs.flatMap escaped)
    {pieces : List Piece} {behind : List Char}
    (hscan : scanPieces (front ++ rest) = some (pieces, behind)) : Stuck behind := by
  induction cs generalizing front pieces with
  | nil =>
      rw [List.flatMap_nil, List.append_eq_nil_iff] at hcut
      rw [hcut.1] at hscan
      exact h.text hscan
  | cons c cs ih =>
      -- behind the whole of the first character the rest is cut, else the character itself
      have hwhole (front' : List Char) (hfront : front = escaped c ++ front')
          (hcut' : front' ++ back = cs.flatMap escaped) : Stuck behind := by
        obtain ⟨piece, hpiece⟩ := exists_standsFor c
        rw [hfront, List.append_assoc, hpiece.scanned, Option.map_eq_some_iff] at hscan
        obtain ⟨⟨pieces', behind'⟩, hscan', heq⟩ := hscan
        obtain ⟨-, rfl⟩ := Prod.mk.inj heq
        exact ih hcut' hscan'
      rw [List.flatMap_cons, List.append_eq_append_iff] at hcut
      rcases hcut with ⟨inner, hc, hback⟩ | ⟨front', hfront, hcut'⟩
      · by_cases hinner : inner = []
        · rw [hinner, List.append_nil] at hc
          rw [hinner, List.nil_append] at hback
          exact hwhole [] (by rw [hc, List.append_nil]) hback
        · by_cases hfront : front = []
          · rw [hfront] at hscan
            exact h.text hscan
          · rw [scanPieces_escaped_cut h c hc.symm hfront hinner] at hscan
            cases hscan
      · exact hwhole front' hfront hcut'.symm

theorem stuck_textNode_cut {rest : List Char} {n : Nat} (h : Breaks rest n)
    {cs front back : List Char} (hcut : front ++ back = cs.flatMap escaped) :
    Stuck (textNode (front ++ rest)).2 := by
  rw [textNode]
  cases hscan : scanPieces (front ++ rest) with
  | none => exact stuck_nil
  | some found =>
      obtain ⟨pieces, behind⟩ := found
      have hstuck := stuck_scanPieces_cut h hcut hscan
      dsimp only
      split <;> exact hstuck

theorem stuck_scanNode_text_cut {rest : List Char} {n : Nat} (h : Breaks rest n) {s : String}
    {front back : List Char} (hcut : '"' :: front ++ back = textChars s) (hback : back ≠ [])
    (fuel level : Nat) : Stuck (scanNode fuel level ('"' :: front ++ rest)).2 := by
  cases fuel with
  | zero => exact stuck_nil
  | succ fuel =>
      obtain ⟨back, c, rfl⟩ := (List.eq_nil_or_concat back).resolve_left hback
      rw [textChars_eq_cons, List.concat_eq_append, List.cons_append, List.cons.injEq,
        ← List.append_assoc] at hcut
      have hinner : front ++ back = s.toList.flatMap escaped :=
        (List.append_inj' hcut.2 rfl).1
      rw [List.cons_append, scanNode, skipGaps_cons (by decide)]
      exact stuck_textNode_cut h hinner

theorem scanNode_word_cut {rest : List Char} {n : Nat} (h : Breaks rest n)
    {word front back : List Char}
    (hword : word ∈ [['n', 'u', 'l', 'l'], ['t', 'r', 'u', 'e'], ['f', 'a', 'l', 's', 'e']])
    (hcut : front ++ back = word) (hfront : front ≠ []) (hback : back ≠ []) (fuel level : Nat) :
    (scanNode fuel level (front ++ rest)).2 = [] := by
  have hrest : rest = [] ∨ ∃ behind, rest = '\x7b' :: behind := by
    cases rest with
    | nil => exact Or.inl rfl
    | cons c behind => exact Or.inr ⟨behind, by rw [h.head c rfl]⟩
  have hfrontEq : front = word.take front.length := by
    rw [← hcut, List.take_left]
  have hlt : front.length < word.length := by
    have hlength := congrArg List.length hcut
    have hpos := List.length_pos_of_ne_nil hback
    rw [List.length_append] at hlength
    omega
  have hpos := List.length_pos_of_ne_nil hfront
  generalize front.length = k at hfrontEq hlt hpos
  cases fuel with
  | zero => rfl
  | succ fuel =>
  simp only [List.mem_cons, List.not_mem_nil, or_false] at hword
  rcases hword with rfl | rfl | rfl <;> simp only [List.length_cons, List.length_nil] at hlt <;>
    interval_cases k <;> rcases hrest with rfl | ⟨behind, rfl⟩ <;> subst hfrontEq <;> rfl

theorem scanItems_of_stuck {fuel level : Nat} {cs : List Char}
    (h : Stuck (scanNode fuel level cs).2) : (scanItems (fuel + 1) level cs).2 = (false, []) := by
  rw [scanItems]
  dsimp only
  split
  · rename_i hcs
    exact absurd rfl (h ',' (by rw [hcs]; rfl)).1
  · rename_i hcs
    exact absurd rfl (h ']' (by rw [hcs]; rfl)).2.2.1
  · rfl

theorem scanMembers_of_stuck_name {fuel level : Nat} {cs : List Char}
    (h : Stuck (scanNode fuel level cs).2) :
    (scanMembers (fuel + 1) level cs).2 = (false, []) := by
  rw [scanMembers]
  dsimp only
  split
  · split
    · rename_i hcs
      exact absurd rfl (h ':' (by rw [hcs]; rfl)).2.1
    · rfl
  · rfl

theorem scanMembers_of_stuck_value {fuel level : Nat} {cs behind : List Char} {name : String}
    (hname : scanNode fuel level cs = (.text name, ':' :: behind))
    (h : Stuck (scanNode fuel level behind).2) :
    (scanMembers (fuel + 1) level cs).2 = (false, []) := by
  rw [scanMembers, hname]
  simp only [Node.isName, if_true, skipGaps_cons (c := ':') (by decide)]
  split
  · rename_i hcs
    exact absurd rfl (h ',' (by rw [hcs]; rfl)).1
  · rename_i hcs
    exact absurd rfl (h '\x7d' (by rw [hcs]; rfl)).2.2.2
  · rfl

/-- No number stands anywhere in the value. -/
def NoNumbers (j : Json) : Prop :=
  AllNumbers (fun _ => False) j

theorem NoNumbers.readsBack {j : Json} (h : NoNumbers j) : AllNumbers ReadsBack j :=
  AllNumbers.imp (fun _ => False.elim) j h

theorem append_cut {front back first second : List Char} (h : front ++ back = first ++ second) :
    (∃ inner, inner ≠ [] ∧ front ++ inner = first) ∨
      ∃ front', front = first ++ front' ∧ front' ++ back = second := by
  rcases List.append_eq_append_iff.mp h with ⟨inner, hfirst, hback⟩ | ⟨front', hfront, hsecond⟩
  · by_cases hinner : inner = []
    · subst hinner
      rw [List.append_nil] at hfirst
      rw [List.nil_append] at hback
      exact Or.inr ⟨[], by rw [hfirst, List.append_nil], hback⟩
    · exact Or.inl ⟨inner, hinner, hfirst.symm⟩
  · exact Or.inr ⟨front', hfront, hsecond.symm⟩

theorem tail_cut {front back more : List Char} {c : Char} (hcut : front ++ back = c :: more) :
    front = [] ∨ ∃ front', front = c :: front' ∧ front' ++ back = more := by
  cases front with
  | nil => exact Or.inl rfl
  | cons d front =>
      rw [List.cons_append, List.cons.injEq] at hcut
      exact Or.inr ⟨front, by rw [hcut.1], hcut.2⟩

theorem singleton_cut {front back : List Char} {c : Char} (hcut : front ++ back = [c])
    (hback : back ≠ []) : front = [] := by
  refine (tail_cut hcut).resolve_right ?_
  rintro ⟨front', -, hend⟩
  exact hback (List.append_eq_nil_iff.mp hend).2

theorem skipGaps_cut_ne {rest front back cs : List Char} {n : Nat} (h : Breaks rest n) {c d : Char}
    (hcut : front ++ back = c :: cs) (hgap : isGap c = false) (hc : c ≠ d) (hd : d ≠ '\x7b')
    (behind : List Char) : skipGaps (front ++ rest) ≠ d :: behind := by
  intro heq
  rcases tail_cut hcut with rfl | ⟨front', rfl, -⟩
  · rw [List.nil_append, h.skipGaps_eq] at heq
    exact hd (h.head d (by rw [heq]; rfl))
  · rw [List.cons_append, skipGaps_cons hgap] at heq
    exact hc (List.cons.inj heq).1

section Cut

variable {rest : List Char} {n : Nat}

theorem skipGaps_itemsChars_cut_ne (hrest : Breaks rest n) {items : List Json}
    {front back : List Char} (hnumbers : AllNumbersItems (fun _ => False) items)
    (hcut : front ++ back = itemsChars items) (hback : back ≠ []) (behind : List Char) :
    skipGaps (front ++ rest) ≠ ']' :: behind := by
  cases items with
  | nil =>
      obtain rfl := singleton_cut hcut hback
      rw [List.nil_append]
      intro heq
      exact absurd rfl (hrest.stuck ']' (by rw [heq]; rfl)).2.2.1
  | cons item items =>
      obtain ⟨c, cs, hchars, hgap, hend, -⟩ :=
        exists_chars_eq_cons (NoNumbers.readsBack (j := item) hnumbers.1).legible
      rw [itemsChars, hchars] at hcut
      exact skipGaps_cut_ne hrest hcut hgap hend (by decide) behind

theorem skipGaps_membersChars_cut_ne (hrest : Breaks rest n) {members : List (String × Json)}
    {front back : List Char} (hcut : front ++ back = membersChars members) (hback : back ≠ [])
    (behind : List Char) : skipGaps (front ++ rest) ≠ '\x7d' :: behind := by
  cases members with
  | nil =>
      obtain rfl := singleton_cut hcut hback
      rw [List.nil_append]
      intro heq
      exact absurd rfl (hrest.stuck '\x7d' (by rw [heq]; rfl)).2.2.2
  | cons member members =>
      obtain ⟨name, value⟩ := member
      rw [membersChars_eq_cons] at hcut
      exact skipGaps_cut_ne hrest hcut (by decide) (by decide) (by decide) behind

theorem itemsTail_cut {items : List Json} {front back : List Char}
    (hcut : front ++ back = itemsTail items) (hback : back ≠ []) :
    front = [] ∨ ∃ front', front = ',' :: front' ∧ front' ++ back = itemsChars items := by
  cases items with
  | nil => exact Or.inl (singleton_cut hcut hback)
  | cons item items => exact tail_cut (by rw [hcut, itemsTail_cons])

theorem membersTail_cut {members : List (String × Json)} {front back : List Char}
    (hcut : front ++ back = membersTail members) (hback : back ≠ []) :
    front = [] ∨ ∃ front', front = ',' :: front' ∧ front' ++ back = membersChars members := by
  cases members with
  | nil => exact Or.inl (singleton_cut hcut hback)
  | cons member members => exact tail_cut (by rw [hcut, membersTail_cons])

mutual

/-- Where a value without numbers is cut off, the scan of it stops at a place where nothing goes
on. -/
theorem stuck_scanNode_cut (hrest : Breaks rest n) : (fuel : Nat) → (j : Json) → (level : Nat) →
    (front back : List Char) → NoNumbers j → front ++ back = chars j → back ≠ [] →
    2 * (front ++ rest).length < fuel → level + depth j + n ≤ deepestLevel →
    Stuck (scanNode fuel level (front ++ rest)).2
  | 0, _, _, _, _, _, _, _, hfuel, _ => absurd hfuel (Nat.not_lt_zero _)
  | fuel + 1, _, level, [], _, _, _, _, hfuel, hdepth =>
      hrest.node (by rw [List.nil_append] at hfuel; omega) (by omega)
  | fuel + 1, .null, level, c :: front, back, _, hcut, hback, _, _ => by
      rw [scanNode_word_cut hrest (by simp [chars]) hcut (by simp) hback]
      exact stuck_nil
  | fuel + 1, .boolean true, level, c :: front, back, _, hcut, hback, _, _ => by
      rw [scanNode_word_cut hrest (by simp [chars]) hcut (by simp) hback]
      exact stuck_nil
  | fuel + 1, .boolean false, level, c :: front, back, _, hcut, hback, _, _ => by
      rw [scanNode_word_cut hrest (by simp [chars]) hcut (by simp) hback]
      exact stuck_nil
  | _ + 1, .number _, _, _ :: _, _, hnumbers, _, _, _, _ => hnumbers.elim
  | fuel + 1, .text s, level, c :: front, back, _, hcut, hback, _, _ => by
      rw [chars] at hcut
      obtain rfl : c = '"' := by
        rw [textChars_eq_cons, List.cons_append] at hcut
        exact (List.cons.inj hcut).1
      exact stuck_scanNode_text_cut hrest hcut hback _ level
  | fuel + 1, .array items, level, c :: front, back, hnumbers, hcut, hback, hfuel, hdepth => by
      rw [chars_array, List.cons_append, List.cons.injEq] at hcut
      obtain ⟨rfl, hcut⟩ := hcut
      rw [List.cons_append, List.length_cons] at hfuel
      rw [depth] at hdepth
      have hitems := scanItems_cut hrest fuel items (level + 1) front back hnumbers hcut hback
        (by omega) (by omega)
      rw [List.cons_append,
        scanNode_array (skipGaps_itemsChars_cut_ne hrest hnumbers hcut hback), hitems]
      exact stuck_nil
  | fuel + 1, .object members, level, c :: front, back, hnumbers, hcut, hback, hfuel, hdepth => by
      rw [chars_object, List.cons_append, List.cons.injEq] at hcut
      obtain ⟨rfl, hcut⟩ := hcut
      rw [List.cons_append, List.length_cons] at hfuel
      rw [depth] at hdepth
      have hmembers := scanMembers_cut hrest fuel members (level + 1) front back hnumbers hcut hback
        (by omega) (by omega)
      rw [List.cons_append,
        scanNode_object (skipGaps_membersChars_cut_ne hrest hcut hback), hmembers]
      exact stuck_nil

theorem scanItems_cut (hrest : Breaks rest n) : (fuel : Nat) → (items : List Json) →
    (level : Nat) → (front back : List Char) → AllNumbersItems (fun _ => False) items →
    front ++ back = itemsChars items → back ≠ [] → 2 * (front ++ rest).length + 1 < fuel →
    level + itemsDepth items + n ≤ deepestLevel →
    (scanItems fuel level (front ++ rest)).2 = (false, [])
  | 0, _, _, _, _, _, _, _, hfuel, _ => absurd hfuel (Nat.not_lt_zero _)
  | fuel + 1, [], level, front, back, _, hcut, hback, hfuel, hdepth => by
      obtain rfl := singleton_cut hcut hback
      rw [List.nil_append] at hfuel ⊢
      exact scanItems_of_stuck (hrest.node (by omega) (by omega))
  | fuel + 1, item :: items, level, front, back, hnumbers, hcut, hback, hfuel, hdepth => by
      rw [itemsDepth] at hdepth
      rcases append_cut hcut with ⟨inner, hinner, hitem⟩ | ⟨front', rfl, htail⟩
      · exact scanItems_of_stuck (stuck_scanNode_cut hrest fuel item level front inner hnumbers.1
          hitem hinner (by omega) (by omega))
      rw [List.append_assoc, List.length_append] at hfuel
      have hscan {behind : List Char} (hbehind : Apart behind) :
          scanNode fuel level (chars item ++ behind) = (Node.ofJson item, behind) :=
        scanNode_chars fuel item level behind (NoNumbers.readsBack hnumbers.1) (by omega) (by omega)
          hbehind
      rw [List.append_assoc]
      rcases itemsTail_cut htail hback with rfl | ⟨front', rfl, hcut'⟩
      · refine scanItems_of_stuck ?_
        rw [List.nil_append, hscan hrest.apart]
        exact hrest.stuck
      · rw [List.cons_append, List.length_cons] at hfuel
        have hitems := scanItems_cut hrest fuel items level front' back hnumbers.2 hcut' hback
          (by omega) (by omega)
        rw [List.cons_append, scanItems, hscan (apart_cons (by decide) _)]
        simp only [skipGaps_cons (c := ',') (by decide), hitems]

theorem scanMembers_cut (hrest : Breaks rest n) : (fuel : Nat) → (members : List (String × Json)) →
    (level : Nat) → (front back : List Char) → AllNumbersMembers (fun _ => False) members →
    front ++ back = membersChars members → back ≠ [] → 2 * (front ++ rest).length + 1 < fuel →
    level + membersDepth members + n ≤ deepestLevel →
    (scanMembers fuel level (front ++ rest)).2 = (false, [])
  | 0, _, _, _, _, _, _, _, hfuel, _ => absurd hfuel (Nat.not_lt_zero _)
  | fuel + 1, [], level, front, back, _, hcut, hback, hfuel, hdepth => by
      obtain rfl := singleton_cut hcut hback
      rw [List.nil_append] at hfuel ⊢
      exact scanMembers_of_stuck_name (hrest.node (by omega) (by omega))
  | fuel + 1, (name, value) :: members, level, front, back, hnumbers, hcut, hback, hfuel,
    hdepth => by
      rw [membersDepth] at hdepth
      rw [membersChars_eq] at hcut
      rcases append_cut hcut with ⟨inner, hinner, hname⟩ | ⟨front', rfl, hcolon⟩
      · exact scanMembers_of_stuck_name (stuck_scanNode_cut hrest fuel (.text name) level front
          inner trivial hname hinner (by omega) (by rw [depth]; omega))
      have hname := scanNode_text name (show 0 < fuel by omega) level
      rw [List.append_assoc, List.length_append] at hfuel
      rw [List.append_assoc]
      rcases tail_cut hcolon with rfl | ⟨front, rfl, hbehind⟩
      · refine scanMembers_of_stuck_name ?_
        rw [List.nil_append, hname]
        exact hrest.stuck
      rw [List.cons_append, List.length_cons] at hfuel
      rw [List.cons_append]
      rcases append_cut hbehind with ⟨inner, hinner, hvalue⟩ | ⟨front', rfl, htail⟩
      · exact scanMembers_of_stuck_value (hname _) (stuck_scanNode_cut hrest fuel value level front
          inner hnumbers.1 hvalue hinner (by omega) (by omega))
      rw [List.append_assoc, List.length_append] at hfuel
      have hscan {behind : List Char} (hbehind : Apart behind) :
          scanNode fuel level (chars value ++ behind) = (Node.ofJson value, behind) :=
        scanNode_chars fuel value level behind (NoNumbers.readsBack hnumbers.1) (by omega)
          (by omega) hbehind
      rw [List.append_assoc]
      rcases membersTail_cut htail hback with rfl | ⟨front, rfl, hcut'⟩
      · refine scanMembers_of_stuck_value (hname _) ?_
        rw [List.nil_append, hscan hrest.apart]
        exact hrest.stuck
      · rw [List.cons_append, List.length_cons] at hfuel
        have hmembers := scanMembers_cut hrest fuel members level front back hnumbers.2 hcut' hback
          (by omega) (by omega)
        rw [List.cons_append, scanMembers, hname]
        simp only [Node.isName, if_true, skipGaps_cons (c := ':') (by decide),
          hscan (apart_cons (c := ',') (by decide) _), skipGaps_cons (c := ',') (by decide),
          hmembers]

end

theorem exists_document_cut (hrest : Breaks rest n) {members : List (String × Json)}
    {front back : List Char} (hnumbers : NoNumbers (.object members))
    (hdepth : depth (.object members) + n ≤ deepestLevel)
    (hcut : front ++ back = chars (.object members)) (hfront : front ≠ []) (hback : back ≠ []) :
    ∃ nodes behind, document (String.ofList (front ++ rest)) = (.object nodes false, behind) := by
  obtain ⟨c, front, rfl⟩ := List.exists_cons_of_ne_nil hfront
  rw [chars_object, List.cons_append, List.cons.injEq] at hcut
  obtain ⟨rfl, hcut⟩ := hcut
  rw [depth] at hdepth
  rw [document, String.toList_ofList, List.cons_append, List.length_cons,
    scanNode_object (skipGaps_membersChars_cut_ne hrest hcut hback),
    scanMembers_cut hrest _ members 1 front back hnumbers hcut hback (by omega) (by omega),
    atLevel_of_le (by decide)]
  exact ⟨_, _, rfl⟩

end Cut

end Rulebook.Json
