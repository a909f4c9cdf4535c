import Mathlib.Data.List.Basic
import Rulebook.Json.Basic
import Rulebook.Proofs.Json.Layout
import Rulebook.Proofs.Json.Text

namespace Rulebook.Json

open Rulebook.Document

mutual

/-- Every number in the value has the property. -/
def AllNumbers (P : JsonNumber → Prop) : Json → Prop
  | .number n => P n
  | .array items => AllNumbersItems P items
  | .object members => AllNumbersMembers P members
  | .null | .boolean _ | .text _ => True

def AllNumbersItems (P : JsonNumber → Prop) : List Json → Prop
  | [] => True
  | item :: items => AllNumbers P item ∧ AllNumbersItems P items

def AllNumbersMembers (P : JsonNumber → Prop) : List (String × Json) → Prop
  | [] => True
  | (_, value) :: members => AllNumbers P value ∧ AllNumbersMembers P members

end

mutual

/-- How many arrays and objects stand inside each other. -/
def depth : Json → Nat
  | .array items => itemsDepth items + 1
  | .object members => membersDepth members + 1
  | .null | .boolean _ | .number _ | .text _ => 0

def itemsDepth : List Json → Nat
  | [] => 0
  | item :: items => max (depth item) (itemsDepth items)

def membersDepth : List (String × Json) → Nat
  | [] => 0
  | (_, value) :: members => max (depth value) (membersDepth members)

end

theorem allNumbersMembers_iff {P : JsonNumber → Prop} {members : List (String × Json)} :
    AllNumbersMembers P members ↔ ∀ member ∈ members, AllNumbers P member.2 := by
  induction members with
  | nil => simp [AllNumbersMembers]
  | cons member members ih =>
      obtain ⟨name, value⟩ := member
      simp [AllNumbersMembers, ih]

theorem allNumbersItems_iff {P : JsonNumber → Prop} {items : List Json} :
    AllNumbersItems P items ↔ ∀ item ∈ items, AllNumbers P item := by
  induction items with
  | nil => simp [AllNumbersItems]
  | cons item items ih => simp [AllNumbersItems, ih]

mutual

theorem AllNumbers.imp {P Q : JsonNumber → Prop} (himp : ∀ n, P n → Q n) :
    (j : Json) → AllNumbers P j → AllNumbers Q j
  | .null, _ | .boolean _, _ | .text _, _ => trivial
  | .number n, h => himp n h
  | .array items, h => AllNumbersItems.imp himp items h
  | .object members, h => AllNumbersMembers.imp himp members h

theorem AllNumbersItems.imp {P Q : JsonNumber → Prop} (himp : ∀ n, P n → Q n) :
    (items : List Json) → AllNumbersItems P items → AllNumbersItems Q items
  | [], _ => trivial
  | item :: items, h => ⟨AllNumbers.imp himp item h.1, AllNumbersItems.imp himp items h.2⟩

theorem AllNumbersMembers.imp {P Q : JsonNumber → Prop} (himp : ∀ n, P n → Q n) :
    (members : List (String × Json)) → AllNumbersMembers P members → AllNumbersMembers Q members
  | [], _ => trivial
  | (_, value) :: members, h =>
      ⟨AllNumbers.imp himp value h.1, AllNumbersMembers.imp himp members h.2⟩

end

section

variable {P : JsonNumber → Prop} [DecidablePred P]

mutual

def decidableAllNumbers : (j : Json) → Decidable (AllNumbers P j)
  | .null | .boolean _ | .text _ => .isTrue trivial
  | .number n => inferInstanceAs (Decidable (P n))
  | .array items => decidableAllNumbersItems items
  | .object members => decidableAllNumbersMembers members

def decidableAllNumbersItems : (items : List Json) → Decidable (AllNumbersItems P items)
  | [] => .isTrue trivial
  | item :: items =>
      have := decidableAllNumbers item
      have := decidableAllNumbersItems items
      inferInstanceAs (Decidable (_ ∧ _))

def decidableAllNumbersMembers : (members : List (String × Json)) →
    Decidable (AllNumbersMembers P members)
  | [] => .isTrue trivial
  | (_, value) :: members =>
      have := decidableAllNumbers value
      have := decidableAllNumbersMembers members
      inferInstanceAs (Decidable (_ ∧ _))

end

instance (j : Json) : Decidable (AllNumbers P j) :=
  decidableAllNumbers j

end

theorem itemsDepth_le_iff {items : List Json} {n : Nat} :
    itemsDepth items ≤ n ↔ ∀ item ∈ items, depth item ≤ n := by
  induction items with
  | nil => simp [itemsDepth]
  | cons item items ih => rw [itemsDepth, Nat.max_le, ih, List.forall_mem_cons]

theorem membersDepth_le_iff {members : List (String × Json)} {n : Nat} :
    membersDepth members ≤ n ↔ ∀ member ∈ members, depth member.2 ≤ n := by
  induction members with
  | nil => simp [membersDepth]
  | cons member members ih =>
      obtain ⟨name, value⟩ := member
      rw [membersDepth, Nat.max_le, ih, List.forall_mem_cons]

theorem allNumbers_texts (P : JsonNumber → Prop) (items : List String) :
    AllNumbers P (texts items) := by
  rw [texts, AllNumbers]
  induction items with
  | nil => trivial
  | cons item items ih => exact ⟨trivial, ih⟩

theorem depth_texts (items : List String) : depth (texts items) = 1 := by
  rw [texts, depth]
  induction items with
  | nil => rfl
  | cons item items ih =>
      rw [List.map_cons, itemsDepth, depth, Nat.zero_max]
      exact ih

/-- No number in front of the text could go on with it. -/
def Apart (rest : List Char) : Prop :=
  ∀ c ∈ rest.head?, c.isDigit = false ∧ c ≠ '.' ∧ c ≠ 'e' ∧ c ≠ 'E'

/-- The written number is a number text and stands for the number it was written for. -/
structure ReadsBack (n : JsonNumber) : Prop where
  plain : Plain (numberChars n)
  head : ∃ c cs, numberChars n = c :: cs ∧ (c = '-' ∨ c.isDigit)
  node : ∀ rest, Apart rest → numberNode (numberChars n ++ rest) = (.number n, rest)

theorem apart_nil : Apart [] := by
  simp [Apart]

/-- The number that the written number is read as. -/
def rereadNumber (n : JsonNumber) : JsonNumber :=
  match (numberNode (numberChars n)).1 with
  | .number read => read
  | _ => n

/-- The written number is a number text, whatever number it is read as. -/
structure Legible (n : JsonNumber) : Prop where
  plain : Plain (numberChars n)
  head : ∃ c cs, numberChars n = c :: cs ∧ (c = '-' ∨ c.isDigit)
  node : ∀ rest, Apart rest → numberNode (numberChars n ++ rest) = (.number (rereadNumber n), rest)

theorem ReadsBack.rereadNumber_eq {n : JsonNumber} (h : ReadsBack n) : rereadNumber n = n := by
  have hnode := h.node [] apart_nil
  rw [List.append_nil] at hnode
  rw [rereadNumber, hnode]

theorem ReadsBack.legible {n : JsonNumber} (h : ReadsBack n) : Legible n where
  plain := h.plain
  head := h.head
  node := by
    rw [h.rereadNumber_eq]
    exact h.node

theorem AllNumbers.legible {j : Json} (h : AllNumbers ReadsBack j) : AllNumbers Legible j :=
  AllNumbers.imp (fun _ => ReadsBack.legible) j h

mutual

/-- The value with every number replaced by the one that the written number is read as. -/
def reread : Json → Json
  | .null => .null
  | .boolean b => .boolean b
  | .number n => .number (rereadNumber n)
  | .text s => .text s
  | .array items => .array (rereadItems items)
  | .object members => .object (rereadMembers members)

def rereadItems : List Json → List Json
  | [] => []
  | item :: items => reread item :: rereadItems items

def rereadMembers : List (String × Json) → List (String × Json)
  | [] => []
  | (name, value) :: members => (name, reread value) :: rereadMembers members

end

mutual

theorem reread_eq : (j : Json) → AllNumbers ReadsBack j → reread j = j
  | .null, _ | .boolean _, _ | .text _, _ => by rw [reread]
  | .number _, h => by rw [reread, ReadsBack.rereadNumber_eq h]
  | .array items, h => by rw [reread, rereadItems_eq items h]
  | .object members, h => by rw [reread, rereadMembers_eq members h]

theorem rereadItems_eq : (items : List Json) → AllNumbersItems ReadsBack items →
    rereadItems items = items
  | [], _ => rfl
  | item :: items, h => by rw [rereadItems, reread_eq item h.1, rereadItems_eq items h.2]

theorem rereadMembers_eq : (members : List (String × Json)) →
    AllNumbersMembers ReadsBack members → rereadMembers members = members
  | [], _ => rfl
  | (name, value) :: members, h => by
      rw [rereadMembers, reread_eq value h.1, rereadMembers_eq members h.2]

end

theorem apart_cons {c : Char} (hc : c = ',' ∨ c = ']' ∨ c = '\x7d') (cs : List Char) :
    Apart (c :: cs) := by
  rcases hc with rfl | rfl | rfl <;> simp [Apart]

theorem skipGaps_cons {c : Char} (hc : isGap c = false) (cs : List Char) :
    skipGaps (c :: cs) = c :: cs := by
  rw [skipGaps, List.dropWhile_cons, hc]
  rfl

/-- The items of an array without the opening bracket, the closing one included. -/
def itemsChars : List Json → List Char
  | [] => [']']
  | item :: items => chars item ++ itemsTail items

def membersChars : List (String × Json) → List Char
  | [] => ['\x7d']
  | (name, value) :: members => textChars name ++ ':' :: chars value ++ membersTail members

theorem chars_array (items : List Json) : chars (.array items) = '[' :: itemsChars items := by
  cases items with
  | nil => rfl
  | cons item items => rw [chars, itemsChars, List.cons_append]

theorem chars_object (members : List (String × Json)) :
    chars (.object members) = '\x7b' :: membersChars members := by
  cases members with
  | nil => rfl
  | cons member members =>
      obtain ⟨name, value⟩ := member
      simp [chars, membersChars]

theorem itemsTail_cons (item : Json) (items : List Json) :
    itemsTail (item :: items) = ',' :: itemsChars (item :: items) := by
  rw [itemsTail, itemsChars, List.cons_append]

theorem membersTail_cons (member : String × Json) (members : List (String × Json)) :
    membersTail (member :: members) = ',' :: membersChars (member :: members) := by
  obtain ⟨name, value⟩ := member
  simp [membersTail, membersChars]

theorem exists_chars_eq_cons {j : Json} (hnumbers : AllNumbers Legible j) :
    ∃ c cs, chars j = c :: cs ∧ isGap c = false ∧ c ≠ ']' ∧ c ≠ '\x7d' := by
  cases j with
  | null => exact ⟨_, _, chars.eq_1, by decide, by decide, by decide⟩
  | boolean b =>
      cases b
      · exact ⟨_, _, chars.eq_3, by decide, by decide, by decide⟩
      · exact ⟨_, _, chars.eq_2, by decide, by decide, by decide⟩
  | text s => exact ⟨_, _, by rw [chars, textChars, List.cons_append], by decide, by decide,
      by decide⟩
  | array items => exact ⟨_, _, chars_array items, by decide, by decide, by decide⟩
  | object members => exact ⟨_, _, chars_object members, by decide, by decide, by decide⟩
  | number n =>
      rw [AllNumbers] at hnumbers
      obtain ⟨c, cs, hchars, hc⟩ := hnumbers.head
      refine ⟨c, cs, by rw [chars, hchars], ?_⟩
      rcases hc with rfl | hc
      · decide
      · have hne {d : Char} (hd : d.isDigit = false) : c ≠ d := by
          rintro rfl
          rw [hc] at hd
          cases hd
        refine ⟨?_, hne (by decide), hne (by decide)⟩
        simp [isGap, hne (d := ' '), hne (d := '\n'), hne (d := '\t'), hne (d := '\r')]

theorem atLevel_of_le {level : Nat} (h : level ≤ deepestLevel) (node : Node) :
    atLevel level node = node := by
  rw [atLevel, if_pos h]

/-- The characters that the nodes start with that are no numbers. -/
def nodeStarts : List Char :=
  ['n', 't', 'f', '"', '[', '\x7b']

theorem notMem_nodeStarts {p : Char → Bool} (hstarts : nodeStarts.all (! p ·) = true) {c : Char}
    (hc : p c = true) : c ∉ nodeStarts := by
  intro hmem
  have hstart := List.all_eq_true.mp hstarts c hmem
  rw [hc] at hstart
  cases hstart

theorem scanNode_of_notMem {cs rest : List Char} {c : Char} (hcs : skipGaps cs = c :: rest)
    (hc : c ∉ nodeStarts) (fuel level : Nat) :
    scanNode (fuel + 1) level cs =
      if c = '-' ∨ c.isDigit then numberNode (c :: rest) else (.torn, []) := by
  rw [scanNode]
  split
  case h_7 h =>
    rw [hcs] at h
    obtain ⟨rfl, rfl⟩ := List.cons.inj h
    rfl
  case h_8 h =>
    rw [hcs] at h
    cases h
  all_goals
    rename_i h
    rw [hcs] at h
    refine absurd ?_ hc
    rw [(List.cons.inj h).1]
    decide

theorem scanNode_number {n : JsonNumber} (hn : Legible n) {fuel level : Nat} {rest : List Char}
    (hrest : Apart rest) :
    scanNode (fuel + 1) level (numberChars n ++ rest) =
      (.number (rereadNumber n), rest) := by
  obtain ⟨c, cs, hchars, hc⟩ := hn.head
  have hnode := hn.node rest hrest
  rw [hchars, List.cons_append] at hnode ⊢
  have hgap : isGap c = false := by
    obtain ⟨c', cs', hchars', hgap, -⟩ :=
      exists_chars_eq_cons (show AllNumbers Legible (.number n) from hn)
    rw [chars, hchars] at hchars'
    rw [(List.cons.inj hchars').1]
    exact hgap
  have hother : c ∉ nodeStarts := by
    rcases hc with rfl | hdigit
    · decide
    · exact notMem_nodeStarts (p := Char.isDigit) (by decide) hdigit
  rw [scanNode_of_notMem (skipGaps_cons hgap _) hother, if_pos hc, hnode]

theorem scanNode_text (s : String) {fuel : Nat} (hfuel : 0 < fuel) (level : Nat)
    (rest : List Char) : scanNode fuel level (textChars s ++ rest) = (.text s, rest) := by
  obtain ⟨fuel, rfl⟩ := Nat.exists_eq_succ_of_ne_zero (Nat.ne_of_gt hfuel)
  have hchars : textChars s ++ rest = '"' :: (s.toList.flatMap escaped ++ '"' :: rest) := by
    simp [textChars]
  rw [hchars, Nat.succ_eq_add_one, scanNode, skipGaps_cons (by decide)]
  exact textNode_textChars s rest

theorem textChars_eq_cons (s : String) :
    textChars s = '"' :: (s.toList.flatMap escaped ++ ['"']) := by
  rw [textChars, List.cons_append]

theorem membersChars_eq (name : String) (value : Json) (members : List (String × Json)) :
    membersChars ((name, value) :: members) =
      textChars name ++ ':' :: (chars value ++ membersTail members) := by
  rw [membersChars, List.append_assoc, List.cons_append]

theorem membersChars_eq_cons (name : String) (value : Json) (members : List (String × Json)) :
    membersChars ((name, value) :: members) = '"' :: (name.toList.flatMap escaped ++
      '"' :: ':' :: (chars value ++ membersTail members)) := by
  simp [membersChars_eq, textChars]

theorem skipGaps_append {gap : List Char} (hgap : ∀ c ∈ gap, isGap c = true) (cs : List Char) :
    skipGaps (gap ++ cs) = skipGaps cs :=
  List.dropWhile_append_of_pos hgap

theorem scanNode_gap {gap : List Char} (hgap : ∀ c ∈ gap, isGap c = true) (fuel level : Nat)
    (cs : List Char) : scanNode fuel level (gap ++ cs) = scanNode fuel level cs := by
  cases fuel with
  | zero => rw [scanNode, scanNode]
  | succ fuel => rw [scanNode, scanNode, skipGaps_append hgap]

theorem scanItems_gap {gap : List Char} (hgap : ∀ c ∈ gap, isGap c = true) (fuel level : Nat)
    (cs : List Char) : scanItems fuel level (gap ++ cs) = scanItems fuel level cs := by
  cases fuel with
  | zero => rw [scanItems, scanItems]
  | succ fuel => rw [scanItems, scanItems, scanNode_gap hgap]

theorem scanMembers_gap {gap : List Char} (hgap : ∀ c ∈ gap, isGap c = true) (fuel level : Nat)
    (cs : List Char) : scanMembers fuel level (gap ++ cs) = scanMembers fuel level cs := by
  cases fuel with
  | zero => rw [scanMembers, scanMembers]
  | succ fuel => rw [scanMembers, scanMembers, scanNode_gap hgap]

theorem scanNode_array {cs : List Char} (h : ∀ behind, skipGaps cs ≠ ']' :: behind)
    (fuel level : Nat) :
    scanNode (fuel + 1) level ('[' :: cs) =
      (atLevel (level + 1) (.array (scanItems fuel (level + 1) cs).1
        (scanItems fuel (level + 1) cs).2.1), (scanItems fuel (level + 1) cs).2.2) := by
  simp only [scanNode, skipGaps_cons (c := '[') (by decide)]

theorem scanNode_object {cs : List Char} (h : ∀ behind, skipGaps cs ≠ '\x7d' :: behind)
    (fuel level : Nat) :
    scanNode (fuel + 1) level ('\x7b' :: cs) =
      (atLevel (level + 1) (.object (scanMembers fuel (level + 1) cs).1
        (scanMembers fuel (level + 1) cs).2.1), (scanMembers fuel (level + 1) cs).2.2) := by
  simp only [scanNode, skipGaps_cons (c := '\x7b') (by decide)]

theorem apart_gap {gap cs : List Char} (hgap : ∀ c ∈ gap, isGap c = true) (hcs : Apart cs) :
    Apart (gap ++ cs) := by
  cases gap with
  | nil => exact hcs
  | cons c gap =>
      intro d hd
      obtain rfl := Option.some.inj hd
      have hc := hgap c List.mem_cons_self
      simp only [isGap, Bool.or_eq_true, beq_iff_eq] at hc
      rcases hc with ((rfl | rfl) | rfl) | rfl <;> decide

section Layout

variable {layout : Layout} (hblank : layout.Blank)

include hblank

theorem apart_laidItemsTail (level : Nat) (items : List Json) (rest : List Char) :
    Apart (laidItemsTail layout level items ++ rest) := by
  cases items with
  | nil =>
      rw [laidItemsTail, List.append_assoc]
      exact apart_gap (hblank.newline level) (apart_cons (by decide) _)
  | cons item items => exact apart_cons (by decide) _

theorem apart_laidMembersTail (level : Nat) (members : List (String × Json)) (rest : List Char) :
    Apart (laidMembersTail layout level members ++ rest) := by
  cases members with
  | nil =>
      rw [laidMembersTail, List.append_assoc]
      exact apart_gap (hblank.newline level) (apart_cons (by decide) _)
  | cons member members =>
      obtain ⟨name, value⟩ := member
      exact apart_cons (by decide) _

omit hblank in
variable (layout) in
theorem exists_laid_eq_cons {j : Json} (hnumbers : AllNumbers Legible j) (level : Nat) :
    ∃ c cs, laid layout level j = c :: cs ∧ isGap c = false ∧ c ≠ ']' ∧ c ≠ '\x7d' := by
  cases j with
  | array items => cases items <;> exact ⟨_, _, by rw [laid], by decide, by decide, by decide⟩
  | object members => cases members <;> exact ⟨_, _, by rw [laid], by decide, by decide, by decide⟩
  | boolean b => cases b <;> exact ⟨_, _, by rw [laid], by decide, by decide, by decide⟩
  | null | text | number => simpa only [laid, chars] using exists_chars_eq_cons hnumbers

mutual

/-- A written value is scanned as its document, and what follows it is left. Every part of a value
is shorter than the value, so fuel for each of its characters is enough for all of its parts. -/
theorem scanNode_laid : (fuel : Nat) → (j : Json) → (level : Nat) → (rest : List Char) →
    AllNumbers Legible j → (laid layout level j).length ≤ fuel → level + depth j ≤ deepestLevel →
    Apart rest → scanNode fuel level (laid layout level j ++ rest) = (Node.ofJson (reread j), rest)
  | 0, j, level, _, hnumbers, hfuel, _, _ => by
      obtain ⟨c, cs, hchars, -⟩ := exists_laid_eq_cons layout hnumbers level
      rw [hchars] at hfuel
      cases hfuel
  | fuel + 1, .null, level, rest, _, _, _, _ => by
      rw [laid, scanNode]
      rfl
  | fuel + 1, .boolean true, level, rest, _, _, _, _ => by
      rw [laid, scanNode]
      rfl
  | fuel + 1, .boolean false, level, rest, _, _, _, _ => by
      rw [laid, scanNode]
      rfl
  | fuel + 1, .number n, level, rest, hnumbers, _, _, hrest => by
      rw [laid]
      exact scanNode_number hnumbers hrest
  | fuel + 1, .text s, level, rest, _, _, _, _ => by
      rw [laid]
      exact scanNode_text s fuel.succ_pos level rest
  | fuel + 1, .array [], level, rest, _, _, hdepth, _ => by
      have hlevel : level + 1 ≤ deepestLevel := hdepth
      rw [laid, scanNode]
      exact congrArg (·, rest) (atLevel_of_le hlevel _)
  | fuel + 1, .object [], level, rest, _, _, hdepth, _ => by
      have hlevel : level + 1 ≤ deepestLevel := hdepth
      rw [laid, scanNode]
      exact congrArg (·, rest) (atLevel_of_le hlevel _)
  | fuel + 1, .array (item :: items), level, rest, hnumbers, hfuel, hdepth, _ => by
      rw [laid, List.length_cons, List.length_append] at hfuel
      rw [depth] at hdepth
      have hitems := scanItems_laid fuel item items level rest hnumbers (by omega) (by omega)
      obtain ⟨c, cs, hchars, hgap, hend, -⟩ :=
        exists_laid_eq_cons layout hnumbers.1 (level + 1)
      have hfirst (behind : List Char) : skipGaps (layout.newline (level + 1) ++
          (laid layout (level + 1) item ++ (laidItemsTail layout level items ++ rest))) ≠
          ']' :: behind := by
        rw [skipGaps_append (hblank.newline _), hchars, List.cons_append, skipGaps_cons hgap]
        exact fun heq => hend (List.cons.inj heq).1
      rw [laid, List.cons_append, List.append_assoc, List.append_assoc, scanNode_array hfirst,
        scanItems_gap (hblank.newline _), hitems, atLevel_of_le (by omega)]
      rfl
  | fuel + 1, .object ((name, value) :: members), level, rest, hnumbers, hfuel, hdepth, _ => by
      rw [laid, List.length_cons, List.length_append] at hfuel
      rw [depth] at hdepth
      have hmembers := scanMembers_laid fuel name value members level rest hnumbers (by omega)
        (by omega)
      have hfirst (behind : List Char) : skipGaps (layout.newline (level + 1) ++ (textChars name ++
          ':' :: (layout.space ++ (laid layout (level + 1) value ++
            (laidMembersTail layout level members ++ rest))))) ≠ '\x7d' :: behind := by
        rw [skipGaps_append (hblank.newline _), textChars_eq_cons, List.cons_append,
          skipGaps_cons (by decide)]
        exact fun heq => absurd (List.cons.inj heq).1 (by decide)
      simp only [laid, List.cons_append, List.append_assoc]
      rw [scanNode_object hfirst, scanMembers_gap (hblank.newline _), hmembers,
        atLevel_of_le (by omega)]
      rfl

theorem scanItems_laid : (fuel : Nat) → (item : Json) → (items : List Json) →
    (level : Nat) → (rest : List Char) → AllNumbersItems Legible (item :: items) →
    (laid layout (level + 1) item ++ laidItemsTail layout level items).length ≤ fuel →
    level + 1 + itemsDepth (item :: items) ≤ deepestLevel →
    scanItems fuel (level + 1)
        (laid layout (level + 1) item ++ (laidItemsTail layout level items ++ rest)) =
      (Node.ofJsonItems (rereadItems (item :: items)), true, rest)
  | 0, item, items, level, _, hnumbers, hfuel, _ => by
      obtain ⟨c, cs, hchars, -⟩ := exists_laid_eq_cons layout hnumbers.1 (level + 1)
      rw [hchars] at hfuel
      cases hfuel
  | fuel + 1, item, [], level, rest, hnumbers, hfuel, hdepth => by
      rw [laidItemsTail, List.length_append, List.length_append, List.length_singleton] at hfuel
      rw [itemsDepth] at hdepth
      have hitem := scanNode_laid fuel item (level + 1) _ hnumbers.1 (by omega) (by omega)
        (apart_laidItemsTail hblank level [] rest)
      rw [scanItems, hitem, laidItemsTail, List.append_assoc]
      simp only [skipGaps_append (hblank.newline _), List.cons_append,
        skipGaps_cons (c := ']') (by decide)]
      rfl
  | fuel + 1, item, next :: items, level, rest, hnumbers, hfuel, hdepth => by
      rw [laidItemsTail, List.length_append, List.length_cons, List.length_append] at hfuel
      rw [itemsDepth] at hdepth
      have hitem := scanNode_laid fuel item (level + 1) _ hnumbers.1 (by omega) (by omega)
        (apart_laidItemsTail hblank level (next :: items) rest)
      have hitems := scanItems_laid fuel next items level rest hnumbers.2 (by omega) (by omega)
      rw [scanItems, hitem, laidItemsTail]
      simp only [List.cons_append, List.append_assoc, skipGaps_cons (c := ',') (by decide),
        scanItems_gap (hblank.newline _), hitems]
      rfl

theorem scanMembers_laid : (fuel : Nat) → (name : String) → (value : Json) →
    (members : List (String × Json)) → (level : Nat) → (rest : List Char) →
    AllNumbersMembers Legible ((name, value) :: members) →
    (textChars name ++ ':' :: (layout.space ++
      (laid layout (level + 1) value ++ laidMembersTail layout level members))).length ≤ fuel →
    level + 1 + membersDepth ((name, value) :: members) ≤ deepestLevel →
    scanMembers fuel (level + 1) (textChars name ++ ':' :: (layout.space ++
      (laid layout (level + 1) value ++ (laidMembersTail layout level members ++ rest)))) =
      (Node.ofJsonMembers (rereadMembers ((name, value) :: members)), true, rest)
  | 0, name, value, members, _, _, _, hfuel, _ => by
      rw [textChars_eq_cons] at hfuel
      cases hfuel
  | fuel + 1, name, value, members, level, rest, hnumbers, hfuel, hdepth => by
      rw [textChars_eq_cons, List.cons_append, List.length_cons, List.length_append] at hfuel
      simp only [List.length_cons, List.length_append] at hfuel
      rw [membersDepth] at hdepth
      have hname := scanNode_text name (show 0 < fuel by omega) (level + 1)
      have hvalue := scanNode_laid fuel value (level + 1) _ hnumbers.1 (by omega) (by omega)
        (apart_laidMembersTail hblank level members rest)
      rw [scanMembers, hname]
      simp only [Node.isName, if_true, skipGaps_cons (c := ':') (by decide),
        scanNode_gap hblank.space, hvalue]
      match members with
      | [] =>
          simp only [laidMembersTail, List.append_assoc, skipGaps_append (hblank.newline _),
            List.cons_append, skipGaps_cons (c := '\x7d') (by decide)]
          rfl
      | (nextName, nextValue) :: members =>
          rw [laidMembersTail] at hfuel
          simp only [List.length_cons, List.length_append] at hfuel
          rw [membersDepth] at hdepth
          have hmembers := scanMembers_laid fuel nextName nextValue members level rest
            hnumbers.2 (by simp only [List.length_cons, List.length_append]; omega)
            (by rw [membersDepth]; omega)
          simp only [laidMembersTail, List.cons_append, List.append_assoc,
            skipGaps_cons (c := ',') (by decide), scanMembers_gap (hblank.newline _), hmembers]
          rfl

end

end Layout

theorem scanNode_chars (fuel : Nat) (j : Json) (level : Nat) (rest : List Char)
    (hnumbers : AllNumbers ReadsBack j) (hfuel : (chars j).length ≤ fuel)
    (hdepth : level + depth j ≤ deepestLevel) (hrest : Apart rest) :
    scanNode fuel level (chars j ++ rest) = (Node.ofJson j, rest) := by
  rw [← laid_compact level j] at hfuel ⊢
  rw [scanNode_laid Layout.blank_compact fuel j level rest hnumbers.legible hfuel hdepth hrest,
    reread_eq j hnumbers]

mutual

theorem plain_chars : (j : Json) → AllNumbers ReadsBack j → Plain (chars j)
  | .null, _ | .boolean true, _ | .boolean false, _ => by
      rw [chars]
      decide
  | .number n, hnumber => by
      rw [chars]
      exact hnumber.plain
  | .text s, _ => by
      rw [chars]
      exact plain_textChars s
  | .array items, hnumbers => by
      rw [chars_array, plain_cons]
      exact ⟨by decide, plain_itemsChars items hnumbers⟩
  | .object members, hnumbers => by
      rw [chars_object, plain_cons]
      exact ⟨by decide, plain_membersChars members hnumbers⟩

theorem plain_itemsChars :
    (items : List Json) → AllNumbersItems ReadsBack items → Plain (itemsChars items)
  | [], _ => by
      rw [itemsChars]
      decide
  | [item], hnumbers => by
      rw [itemsChars, plain_append, itemsTail, plain_cons]
      exact ⟨plain_chars item hnumbers.1, by decide, plain_nil⟩
  | item :: next :: items, hnumbers => by
      rw [itemsChars, plain_append, itemsTail_cons, plain_cons]
      exact ⟨plain_chars item hnumbers.1, by decide, plain_itemsChars (next :: items) hnumbers.2⟩

theorem plain_membersChars : (members : List (String × Json)) →
    AllNumbersMembers ReadsBack members → Plain (membersChars members)
  | [], _ => by
      rw [membersChars]
      decide
  | [(name, value)], hnumbers => by
      rw [membersChars_eq, plain_append, plain_cons, plain_append, membersTail, plain_cons]
      exact ⟨plain_textChars name, by decide, plain_chars value hnumbers.1, by decide, plain_nil⟩
  | (name, value) :: next :: members, hnumbers => by
      rw [membersChars_eq, plain_append, plain_cons, plain_append, membersTail_cons, plain_cons]
      exact ⟨plain_textChars name, by decide, plain_chars value hnumbers.1, by decide,
        plain_membersChars (next :: members) hnumbers.2⟩

end

theorem newline_notMem_compact {j : Json} (hnumbers : AllNumbers ReadsBack j) :
    '\n' ∉ j.compact.toList := by
  rw [compact, String.toList_ofList]
  intro h
  exact absurd (plain_chars j hnumbers _ h) (by decide)

theorem return_notMem_compact {j : Json} (hnumbers : AllNumbers ReadsBack j) :
    '\r' ∉ j.compact.toList := by
  rw [compact, String.toList_ofList]
  intro h
  exact absurd (plain_chars j hnumbers _ h) (by decide)

theorem document_laid_gap {layout : Layout} (hblank : layout.Blank) {j : Json}
    (hnumbers : AllNumbers Legible j) (hdepth : depth j ≤ deepestLevel) {gap : List Char}
    (hgap : ∀ c ∈ gap, isGap c = true) :
    document (String.ofList (laid layout 0 j ++ gap)) = (Node.ofJson (reread j), gap) := by
  have hapart := apart_gap hgap apart_nil
  rw [List.append_nil] at hapart
  have hfuel : (laid layout 0 j).length ≤ 2 * (laid layout 0 j ++ gap).length + 2 := by
    rw [List.length_append]
    omega
  rw [document, String.toList_ofList]
  exact scanNode_laid hblank _ j 0 gap hnumbers hfuel (by omega) hapart

theorem document_laid {layout : Layout} (hblank : layout.Blank) {j : Json}
    (hnumbers : AllNumbers ReadsBack j) (hdepth : depth j ≤ deepestLevel) :
    document (String.ofList (laid layout 0 j)) = (Node.ofJson j, []) := by
  have hdocument := document_laid_gap hblank hnumbers.legible hdepth (List.forall_mem_nil _)
  rwa [List.append_nil, reread_eq j hnumbers] at hdocument

theorem document_compact {j : Json} (hnumbers : AllNumbers ReadsBack j)
    (hdepth : depth j ≤ deepestLevel) : document j.compact = (Node.ofJson j, []) := by
  rw [compact, ← laid_compact 0]
  exact document_laid Layout.blank_compact hnumbers hdepth

theorem document_indented {j : Json} (hnumbers : AllNumbers ReadsBack j)
    (hdepth : depth j ≤ deepestLevel) : document j.indented = (Node.ofJson j, []) := by
  rw [indented, ← laid_indented 0]
  exact document_laid Layout.blank_indented hnumbers hdepth

theorem read_compact {α : Type} (reader : Reader α) {j : Json} (hnumbers : AllNumbers ReadsBack j)
    (hdepth : depth j ≤ deepestLevel) : read reader j.compact = reader .json (Node.ofJson j) := by
  rw [read, document_compact hnumbers hdepth]
  simp [skipGaps]

theorem read_indented {α : Type} (reader : Reader α) {j : Json}
    (hnumbers : AllNumbers ReadsBack j) (hdepth : depth j ≤ deepestLevel) :
    read reader j.indented = reader .json (Node.ofJson j) := by
  rw [read, document_indented hnumbers hdepth]
  simp [skipGaps]

theorem read_indented_line {α : Type} (reader : Reader α) {j : Json}
    (hnumbers : AllNumbers Legible j) (hdepth : depth j ≤ deepestLevel) :
    read reader (j.indented ++ "\n") = reader .json (Node.ofJson (reread j)) := by
  have hline : j.indented ++ "\n" = String.ofList (laid .indented 0 j ++ ['\n']) := by
    rw [indented, laid_indented, String.ofList_append]
  rw [read, hline, document_laid_gap Layout.blank_indented hnumbers hdepth (by simp [isGap])]
  simp [skipGaps, isGap]

end Rulebook.Json
