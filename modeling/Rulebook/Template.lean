import Rulebook.Catalog.Definition
import Rulebook.Json.Printer

/-!
Contract templates: texts with named slots between double braces. A template is filled in one pass
from front to back, so what is put into a slot is never looked at again.
-/

namespace Rulebook

/-- A text with slots, under a name. -/
structure Template where
  name : String
  body : String
  deriving DecidableEq

namespace Template

/-- The name that ends at the next pair of closing braces, and what follows them. -/
def scanName : List Char → Option (List Char × List Char)
  | [] => none
  | '\x7d' :: '\x7d' :: rest => some ([], rest)
  | c :: cs => do
      let (name, rest) ← scanName cs
      return (c :: name, rest)

theorem scanName_length {cs name rest : List Char} (h : scanName cs = some (name, rest)) :
    rest.length < cs.length := by
  fun_induction scanName cs generalizing name with
  | case1 => simp at h
  | case2 rest' =>
      obtain ⟨rfl, rfl⟩ := Prod.mk.inj (Option.some.inj h)
      simp only [List.length_cons]
      omega
  | case3 c cs _ ih =>
      cases hscan : scanName cs with
      | none => simp [hscan] at h
      | some found =>
          obtain ⟨name', rest'⟩ := found
          simp [hscan] at h
          obtain ⟨-, rfl⟩ := h
          have := ih hscan
          simp only [List.length_cons]
          omega

def slotChars (name : List Char) : List Char :=
  '\x7b' :: '\x7b' :: name ++ ['\x7d', '\x7d']

/-- Puts values into the slots. A slot without a value stays as it is written, and so does an
opening pair of braces that is never closed. -/
def substitute (value? : String → Option String) (cs : List Char) : List Char :=
  match cs with
  | [] => []
  | '\x7b' :: '\x7b' :: inner =>
      match _h : scanName inner with
      | none => '\x7b' :: '\x7b' :: inner
      | some (name, rest) =>
          (((value? (String.ofList name)).map String.toList).getD (slotChars name)) ++
            substitute value? rest
  | c :: rest => c :: substitute value? rest
termination_by cs.length
decreasing_by
  · have := scanName_length _h
    simp only [List.length_cons]
    omega
  · simp

def slot (name : String) : String :=
  String.ofList (slotChars name.toList)

/-- What every contract tells its reader to do when the task cannot be finished. -/
def stopConditions : List String :=
  ["Stop and ask for clarification if the request is ambiguous or would require violating a rule.",
    "Stop and report if the change cannot be completed within the constraints above."]

def noRules : String :=
  "- No specific rules applied."

def noConstraints : String :=
  "- No specific constraints applied."

def standard : Template where
  name := defaultTemplateName
  body :=
    "# " ++ slot "INTENT_LABEL" ++ " CONTRACT\n\n" ++
    "You are performing a " ++ slot "INTENT_LABEL" ++ " task. Follow every rule below.\n\n" ++
    "## Rules\n" ++ slot "RULES" ++ "\n\n" ++
    "## Constraints\n" ++ slot "CONSTRAINTS" ++ "\n\n" ++
    "## Context\nStack: " ++ slot "STACK" ++ "\n\n" ++
    "## Stop Conditions\n" ++ slot "STOP_CONDITIONS" ++ "\n"

def all : List Template :=
  [standard]

def named? (name : String) : Option Template :=
  all.find? fun template => template.name == name

/-- Lines, each behind a dash. -/
def bullets (lines : List String) : String :=
  "\n".intercalate (lines.map ("- " ++ ·))

/-- The directives of rules, one a line. -/
def ruleLines (rules : List Rule) : String :=
  if rules.isEmpty then noRules else bullets (rules.map Rule.directive)

/-- A value behind its constraint: a text without quotes, anything else as compact JSON. -/
def showValue : Json → String
  | .text s => s
  | value => value.compact

/-- Constraints and their values, one a line. -/
def constraintLines (constraints : ConstraintMap) : String :=
  if constraints.isEmpty then noConstraints
  else bullets (constraints.entries.map fun (name, value) => name ++ ": " ++ showValue value)

def slotValue? (intent : Intent) (rules : List Rule) (constraints : ConstraintMap)
    (stack : String) : String → Option String
  | "INTENT_LABEL" => some intent.label
  | "RULES" => some (ruleLines rules)
  | "CONSTRAINTS" => some (constraintLines constraints)
  | "STACK" => some stack
  | "STOP_CONDITIONS" => some (bullets stopConditions)
  | _ => none

def fill (template : Template) (intent : Intent) (rules : List Rule) (constraints : ConstraintMap)
    (stack : String) : String :=
  String.ofList
    (substitute (slotValue? intent rules constraints stack) template.body.toList)

end Template

end Rulebook
