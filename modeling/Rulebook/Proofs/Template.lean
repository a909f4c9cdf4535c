import Mathlib.Data.List.Basic
import Rulebook.Template

/-!
Filling a template goes over its text once. The text falls into literal pieces and slots, whatever
the values of the slots are, and the filled text is the same pieces with the values in the places of
the slots, so no value is ever looked at again.
-/

namespace Rulebook.Template

def opening : List Char :=
  ['\x7b', '\x7b']

def closing : List Char :=
  ['\x7d', '\x7d']

/-- A piece of a template: text that stays as it is, or a slot. -/
inductive Piece where
  | literal (cs : List Char)
  | slot (name : List Char)

namespace Piece

/-- How the piece is written in the template. -/
def source : Piece → List Char
  | .literal cs => cs
  | .slot name => opening ++ name ++ closing

/-- What stands in the place of the piece when the slots have values. -/
def filled (value? : String → Option String) : Piece → List Char
  | .literal cs => cs
  | .slot name =>
      match value? (String.ofList name) with
      | some value => value.toList
      | none => opening ++ name ++ closing

/-- Pieces with one more character in front. -/
def consChar (c : Char) : List Piece → List Piece
  | .literal cs :: pieces => .literal (c :: cs) :: pieces
  | pieces => .literal [c] :: pieces

theorem flatMap_source_consChar (c : Char) (pieces : List Piece) :
    (consChar c pieces).flatMap source = c :: pieces.flatMap source := by
  cases pieces with
  | nil => rfl
  | cons piece pieces => cases piece <;> rfl

theorem flatMap_filled_consChar (value? : String → Option String) (c : Char)
    (pieces : List Piece) :
    (consChar c pieces).flatMap (filled value?) = c :: pieces.flatMap (filled value?) := by
  cases pieces with
  | nil => rfl
  | cons piece pieces => cases piece <;> rfl

theorem filled_none (piece : Piece) : piece.filled (fun _ => none) = piece.source := by
  cases piece <;> rfl

end Piece

/-- The pieces of a text. -/
def pieces (cs : List Char) : List Piece :=
  match cs with
  | [] => [.literal []]
  | '\x7b' :: '\x7b' :: inner =>
      match _h : scanName inner with
      | none => [.literal ('\x7b' :: '\x7b' :: inner)]
      | some (name, rest) => .literal [] :: .slot name :: pieces rest
  | c :: rest => Piece.consChar c (pieces rest)
termination_by cs.length
decreasing_by
  · have := scanName_length _h
    simp only [List.length_cons]
    omega
  · simp

theorem source_of_scanName {cs name rest : List Char} (h : scanName cs = some (name, rest)) :
    cs = name ++ closing ++ rest := by
  fun_induction scanName cs generalizing name with
  | case1 => cases h
  | case2 rest' =>
      obtain ⟨rfl, rfl⟩ := Prod.mk.inj (Option.some.inj h)
      rfl
  | case3 c cs _ ih =>
      obtain ⟨⟨name', rest'⟩, hscan, heq⟩ := Option.bind_eq_some_iff.mp h
      obtain ⟨rfl, rfl⟩ := Prod.mk.inj (Option.some.inj heq)
      rw [ih hscan]
      rfl

theorem flatMap_source_pieces (cs : List Char) : (pieces cs).flatMap Piece.source = cs := by
  fun_induction pieces cs with
  | case1 => rfl
  | case2 inner => simp [Piece.source]
  | case3 inner name rest h ih =>
      rw [List.flatMap_cons, List.flatMap_cons, ih, Piece.source, Piece.source, List.nil_append,
        source_of_scanName h]
      simp [opening]
  | case4 c rest _ ih => rw [Piece.flatMap_source_consChar, ih]

theorem not_prefix_pair {a c : Char} {cs : List Char}
    (h : ∀ rest, c = a → cs = a :: rest → False) : ¬ [a, a] <+: c :: cs := by
  rintro ⟨rest, heq⟩
  obtain ⟨hhead, htail⟩ := List.cons.inj heq
  exact h rest hhead.symm htail.symm

theorem isInfix_of_cons {mark cs : List Char} {c : Char} (hc : ¬ mark <+: c :: cs)
    (h : mark <:+: c :: cs) : mark <:+: cs :=
  (List.infix_cons_iff.mp h).resolve_left hc

section

variable (value? : String → Option String) {inner name rest : List Char}

theorem substitute_unclosed (h : scanName inner = none) :
    substitute value? ('\x7b' :: '\x7b' :: inner) = '\x7b' :: '\x7b' :: inner := by
  rw [substitute]
  split
  · rfl
  · rename_i hscan
    rw [h] at hscan
    cases hscan

theorem substitute_slot (h : scanName inner = some (name, rest)) :
    substitute value? ('\x7b' :: '\x7b' :: inner) =
      (Piece.slot name).filled value? ++ substitute value? rest := by
  rw [substitute]
  split
  · rename_i hscan
    rw [h] at hscan
    cases hscan
  · rename_i hscan
    rw [h] at hscan
    cases hscan
    rw [Piece.filled]
    cases value? (String.ofList name) <;> rfl

theorem substitute_char {c : Char} (h : ¬ opening <+: c :: rest) :
    substitute value? (c :: rest) = c :: substitute value? rest := by
  rw [substitute]
  rintro inner rfl rfl
  exact h ⟨inner, rfl⟩

/-- Filling replaces the slots among the pieces and leaves all else as it is. -/
theorem substitute_eq (cs : List Char) :
    substitute value? cs = (pieces cs).flatMap (Piece.filled value?) := by
  fun_induction pieces cs with
  | case1 => rw [substitute]; rfl
  | case2 inner h => rw [substitute_unclosed value? h]; simp [Piece.filled]
  | case3 inner name rest h ih =>
      rw [substitute_slot value? h, ih, List.flatMap_cons, List.flatMap_cons]
      rfl
  | case4 c rest hopen ih =>
      rw [substitute_char value? (not_prefix_pair hopen), ih, Piece.flatMap_filled_consChar]

end

/-- The mark stands in the text between two parts of it and nowhere further to the left. -/
structure FirstIn (mark before after cs : List Char) : Prop where
  eq : cs = before ++ mark ++ after
  leftmost : ∀ before' after', cs = before' ++ mark ++ after' → before.length ≤ before'.length

/-- How a text falls into pieces: a slot goes from the leftmost opening to the first closing behind
it, what stands before it is literal, and so is all of the text when there is no opening or the
leftmost one is never closed. -/
inductive Splits : List Char → List Piece → Prop
  | plain {cs : List Char} : ¬ opening <:+: cs → Splits cs [.literal cs]
  | unclosed {cs before inner : List Char} : FirstIn opening before inner cs →
      ¬ closing <:+: inner → Splits cs [.literal cs]
  | slot {cs before inner name rest : List Char} {pieces : List Piece} :
      FirstIn opening before inner cs → FirstIn closing name rest inner → Splits rest pieces →
      Splits cs (.literal before :: .slot name :: pieces)

namespace FirstIn

variable {mark before after before' after' cs : List Char}

theorem isInfix (h : FirstIn mark before after cs) : mark <:+: cs :=
  ⟨before, after, h.eq.symm⟩

theorem head (mark after : List Char) : FirstIn mark [] after (mark ++ after) :=
  ⟨rfl, fun _ _ _ => Nat.zero_le _⟩

theorem cons (h : FirstIn mark before after cs) {c : Char} (hc : ¬ mark <+: c :: cs) :
    FirstIn mark (c :: before) after (c :: cs) := by
  refine ⟨by rw [h.eq]; rfl, ?_⟩
  intro before' after' heq
  cases before' with
  | nil => exact absurd ⟨after', heq.symm⟩ hc
  | cons c' before' =>
      obtain ⟨-, hrest⟩ := List.cons.inj heq
      exact Nat.succ_le_succ (h.leftmost before' after' hrest)

theorem unique (h : FirstIn mark before after cs) (h' : FirstIn mark before' after' cs) :
    before = before' ∧ after = after' := by
  have hlength : before.length = before'.length :=
    Nat.le_antisymm (h.leftmost _ _ h'.eq) (h'.leftmost _ _ h.eq)
  have heq := h.eq.symm.trans h'.eq
  rw [List.append_assoc, List.append_assoc] at heq
  obtain ⟨hbefore, hafter⟩ := List.append_inj heq hlength
  exact ⟨hbefore, List.append_cancel_left hafter⟩

end FirstIn

theorem firstIn_of_scanName {cs name rest : List Char} (h : scanName cs = some (name, rest)) :
    FirstIn closing name rest cs := by
  fun_induction scanName cs generalizing name with
  | case1 => cases h
  | case2 rest' =>
      obtain ⟨rfl, rfl⟩ := Prod.mk.inj (Option.some.inj h)
      exact FirstIn.head closing rest'
  | case3 c cs hclose ih =>
      obtain ⟨⟨name', rest'⟩, hscan, heq⟩ := Option.bind_eq_some_iff.mp h
      obtain ⟨rfl, rfl⟩ := Prod.mk.inj (Option.some.inj heq)
      exact (ih hscan).cons (not_prefix_pair hclose)

theorem not_isInfix_of_scanName {cs : List Char} (h : scanName cs = none) :
    ¬ closing <:+: cs := by
  fun_induction scanName cs with
  | case1 => decide
  | case2 => cases h
  | case3 c cs hclose ih =>
      have hscan : scanName cs = none := by
        cases hscan : scanName cs with
        | none => rfl
        | some found => rw [hscan] at h; cases h
      exact fun hinfix => ih hscan (isInfix_of_cons (not_prefix_pair hclose) hinfix)

theorem Splits.consChar {cs : List Char} {pieces : List Piece} (h : Splits cs pieces) {c : Char}
    (hc : ¬ opening <+: c :: cs) : Splits (c :: cs) (Piece.consChar c pieces) := by
  cases h with
  | plain hplain => exact .plain fun hinfix => hplain (isInfix_of_cons hc hinfix)
  | unclosed hopen hclose => exact .unclosed (hopen.cons hc) hclose
  | slot hopen hclose hrest => exact .slot (hopen.cons hc) hclose hrest

theorem splits_pieces (cs : List Char) : Splits cs (pieces cs) := by
  fun_induction pieces cs with
  | case1 => exact .plain (by decide)
  | case2 inner h => exact .unclosed (FirstIn.head opening inner) (not_isInfix_of_scanName h)
  | case3 inner name rest h ih =>
      exact .slot (FirstIn.head opening inner) (firstIn_of_scanName h) ih
  | case4 c rest hopen ih => exact ih.consChar (not_prefix_pair hopen)

/-- A text falls into pieces in one way. -/
theorem Splits.unique {cs : List Char} {left right : List Piece} (hleft : Splits cs left)
    (hright : Splits cs right) : left = right := by
  induction hleft generalizing right with
  | plain hplain =>
      cases hright with
      | plain => rfl
      | unclosed => rfl
      | slot hopen => exact absurd hopen.isInfix hplain
  | unclosed hopen hclose =>
      cases hright with
      | plain => rfl
      | unclosed => rfl
      | slot hopen' hclose' =>
          obtain ⟨-, rfl⟩ := hopen.unique hopen'
          exact absurd hclose'.isInfix hclose
  | slot hopen hclose _ ih =>
      cases hright with
      | plain hplain => exact absurd hopen.isInfix hplain
      | unclosed hopen' hclose' =>
          obtain ⟨-, rfl⟩ := hopen.unique hopen'
          exact absurd hclose.isInfix hclose'
      | slot hopen' hclose' hrest' =>
          obtain ⟨rfl, rfl⟩ := hopen.unique hopen'
          obtain ⟨rfl, rfl⟩ := hclose.unique hclose'
          rw [ih hrest']

section

variable {value? : String → Option String} {lit : List Char}

theorem substitute_literal (h : '\x7b' ∉ lit) (rest : List Char) :
    substitute value? (lit ++ rest) = lit ++ substitute value? rest := by
  induction lit with
  | nil => rfl
  | cons c lit ih =>
      obtain ⟨hc, hlit⟩ := not_or.mp (mt List.mem_cons.mpr h)
      rw [List.cons_append, substitute_char, ih hlit, List.cons_append]
      exact not_prefix_pair fun _ heq _ => hc heq.symm

theorem substitute_of_notMem (h : '\x7b' ∉ lit) : substitute value? lit = lit := by
  have hlit : substitute value? (lit ++ []) = _ := substitute_literal h []
  rwa [List.append_nil, substitute, List.append_nil] at hlit

theorem scanName_closed {name : List Char} (h : '\x7d' ∉ name) (rest : List Char) :
    scanName (name ++ closing ++ rest) = some (name, rest) := by
  induction name with
  | nil => rfl
  | cons c name ih =>
      obtain ⟨hc, hname⟩ := not_or.mp (mt List.mem_cons.mpr h)
      rw [List.cons_append, List.cons_append, scanName, ih hname]
      · rfl
      · rintro _ rfl
        exact absurd rfl hc

theorem substitute_slotChars {name value : String} (hname : '\x7d' ∉ name.toList)
    (hvalue : value? name = some value) (rest : List Char) :
    substitute value? (slotChars name.toList ++ rest) = value.toList ++ substitute value? rest := by
  have hslot : slotChars name.toList ++ rest =
      '\x7b' :: '\x7b' :: (name.toList ++ closing ++ rest) := by
    simp [slotChars, closing]
  rw [hslot, substitute_slot value? (scanName_closed hname rest), Piece.filled,
    String.ofList_toList, hvalue]

end

theorem fill_standard (intent : Intent) (rules : List Rule) (constraints : ConstraintMap)
    (stack : String) :
    standard.fill intent rules constraints stack =
      "# " ++ intent.label ++ " CONTRACT\n\n" ++
      "You are performing a " ++ intent.label ++ " task. Follow every rule below.\n\n" ++
      "## Rules\n" ++ ruleLines rules ++ "\n\n" ++
      "## Constraints\n" ++ constraintLines constraints ++ "\n\n" ++
      "## Context\nStack: " ++ stack ++ "\n\n" ++
      "## Stop Conditions\n" ++ bullets stopConditions ++ "\n" := by
  let value? := slotValue? intent rules constraints stack
  have hslot (name : String) {value : String} (hname : '\x7d' ∉ name.toList)
      (hvalue : value? name = some value) (rest : List Char) :
      substitute value? (slotChars name.toList ++ rest) = value.toList ++ substitute value? rest :=
    substitute_slotChars hname hvalue rest
  have hlabel := hslot "INTENT_LABEL" (by decide) rfl
  have hrules := hslot "RULES" (by decide) rfl
  have hconstraints := hslot "CONSTRAINTS" (by decide) rfl
  have hstack := hslot "STACK" (by decide) rfl
  have hstop := hslot "STOP_CONDITIONS" (by decide) rfl
  rw [fill, standard, ← String.toList_inj]
  simp (disch := decide) only [String.toList_append, String.toList_ofList, List.append_assoc, slot,
    substitute_literal, substitute_of_notMem, value?, hlabel, hrules, hconstraints, hstack, hstop]

theorem ruleLines_eq (rules : List Rule) :
    ruleLines rules =
      if rules = [] then "- No specific rules applied."
      else "\n".intercalate (rules.map fun rule => "- " ++ rule.directive) := by
  cases rules with
  | nil => rfl
  | cons rule rules => rw [ruleLines, bullets, List.map_map]; rfl

/-- What a contract calls an intent. -/
def heading : Intent → String
  | .generate => "CODE GENERATION"
  | .refactor => "CODE REFACTORING"
  | .review => "CODE REVIEW"

theorem label_eq_heading (intent : Intent) : intent.label = heading intent := by
  cases intent <;> rfl

/-- What a contract says of a value: a text as it stands, anything else as it is in compact JSON. -/
def valueText : Json → String
  | .text s => s
  | .null => "null"
  | .boolean true => "true"
  | .boolean false => "false"
  | .number n => (Json.number n).compact
  | .array items => (Json.array items).compact
  | .object members => (Json.object members).compact

theorem showValue_eq_valueText (value : Json) : showValue value = valueText value := by
  cases value with
  | boolean b => cases b <;> rfl
  | _ => rfl

theorem constraintLines_eq (constraints : ConstraintMap) :
    constraintLines constraints =
      if constraints.entries = [] then "- No specific constraints applied."
      else "\n".intercalate
        (constraints.entries.map fun entry => "- " ++ (entry.1 ++ ": " ++ valueText entry.2)) := by
  rw [constraintLines, ConstraintMap.isEmpty, bullets, List.map_map]
  simp only [← showValue_eq_valueText]
  cases constraints.entries <;> rfl

/-- Filling is a single pass: a text falls into literal pieces and slots in one way, and the filled
text is these pieces with the values in the places of the slots that have one. So nothing changes
when no name has a value, and in a filled standard template stands what was given, as it was
given. -/
theorem substitute_verbatim :
    (∀ body, ∃ pieces, Splits body pieces ∧ (∀ others, Splits body others → others = pieces) ∧
      pieces.flatMap Piece.source = body ∧
      ∀ value?, substitute value? body = pieces.flatMap (Piece.filled value?)) ∧
    (∀ body, substitute (fun _ => none) body = body) ∧
    ∀ intent rules constraints stack,
      standard.fill intent rules constraints stack =
        "# " ++ heading intent ++ " CONTRACT\n\n" ++
        "You are performing a " ++ heading intent ++ " task. Follow every rule below.\n\n" ++
        "## Rules\n" ++
        (if rules = [] then "- No specific rules applied."
          else "\n".intercalate (rules.map fun rule => "- " ++ rule.directive)) ++ "\n\n" ++
        "## Constraints\n" ++
        (if constraints.entries = [] then "- No specific constraints applied."
          else "\n".intercalate (constraints.entries.map fun entry =>
            "- " ++ (entry.1 ++ ": " ++ valueText entry.2))) ++ "\n\n" ++
        "## Context\nStack: " ++ stack ++ "\n\n" ++
        "## Stop Conditions\n" ++
        "- Stop and ask for clarification if the request is ambiguous or would require " ++
        "violating a rule.\n" ++
        "- Stop and report if the change cannot be completed within the constraints above.\n" := by
  refine ⟨?_, ?_, ?_⟩
  · intro body
    exact ⟨pieces body, splits_pieces body, fun _ h => h.unique (splits_pieces body),
      flatMap_source_pieces body, fun value? => substitute_eq value? body⟩
  · intro body
    have hsource : Piece.filled (fun _ => none) = Piece.source := funext Piece.filled_none
    rw [substitute_eq, hsource, flatMap_source_pieces]
  · intro intent rules constraints stack
    have hstop : bullets stopConditions ++ "\n" =
        "- Stop and ask for clarification if the request is ambiguous or would require " ++
        "violating a rule.\n" ++
        "- Stop and report if the change cannot be completed within the constraints above.\n" := by
      decide +kernel
    rw [fill_standard, label_eq_heading, ruleLines_eq, constraintLines_eq]
    simp only [String.append_assoc, hstop]

/-- Constraints of several kinds, one of them with a slot in its value. -/
def mixedConstraints : ConstraintMap :=
  .ofMembers
    [("style", .text "say \"\x7b\x7bRULES\x7d\x7d\""), ("strict", .boolean true), ("owner", .null),
      ("limit", .number (.integer ⟨-3, by decide⟩)),
      ("paths", .array [.text "src", .object [("deep", .boolean false)]])]

def bracedRule : Rule :=
  (Rule.new "small" .warn).withDirective "Keep \x7b\x7bSTACK\x7d\x7d small."

example :
    standard.fill .refactor [bracedRule] mixedConstraints "Rust" =
      "# CODE REFACTORING CONTRACT\n\n" ++
      "You are performing a CODE REFACTORING task. Follow every rule below.\n\n" ++
      "## Rules\n- Keep \x7b\x7bSTACK\x7d\x7d small.\n\n" ++
      "## Constraints\n- style: say \"\x7b\x7bRULES\x7d\x7d\"\n- strict: true\n- owner: null\n" ++
      "- limit: -3\n- paths: [\"src\",\x7b\"deep\":false\x7d]\n\n" ++
      "## Context\nStack: Rust\n\n" ++
      "## Stop Conditions\n" ++
      "- Stop and ask for clarification if the request is ambiguous or would require " ++
      "violating a rule.\n" ++
      "- Stop and report if the change cannot be completed within the constraints above.\n" := by
  rw [fill_standard]
  decide +kernel

/-- A value that looks like a slot is left alone, and so are a slot without a value and an opening
that is never closed. -/
example :
    substitute (fun name => if name = "X" then some "\x7b\x7bX\x7d\x7d" else none)
        "a \x7b\x7bX\x7d\x7d b \x7b\x7bY\x7d\x7d \x7b\x7b".toList =
      "a \x7b\x7bX\x7d\x7d b \x7b\x7bY\x7d\x7d \x7b\x7b".toList := by
  cbv

end Rulebook.Template
