import Rulebook.Json.Basic

/-!
Documents as their readers meet them. A document is read from front to back, and what is wrong with
it counts only when the reader gets there, so a node also says where its text stops being a
document (`torn`, an array or object that is not `closed`) and which of its parts are sound to pass
over but not to take in (`unreadable`).
-/

namespace Rulebook.Document

/-- A number word of a document that names no finite number. -/
inductive Word where
  | infinity (negative : Bool)
  | notANumber
  deriving DecidableEq

/-- A part of a document. Member names are nodes, so that a reader which expects a name can say
what stands there instead. -/
inductive Node where
  /-- The text is no document from here on. -/
  | torn
  /-- Sound text without a value: a number that is too large, half of a surrogate pair, or an array
  or object that is nested too deep. -/
  | unreadable
  | null
  | boolean (value : Bool)
  | number (value : JsonNumber)
  | word (value : Word)
  | text (value : String)
  /-- A date, a time or both, as it is written. -/
  | moment (written : String)
  | array (items : List Node) (closed : Bool)
  | object (members : List (Node × Node)) (closed : Bool)

/-- The name under which a date or time is kept where values have no other place for it. -/
def momentName : String :=
  "$__toml_private_datetime"

namespace Node

/-- Whether a node may stand as the name of a member in sound text. -/
def isName : Node → Bool
  | .text _ | .unreadable => true
  | _ => false

mutual

/-- Whether the text of the node is sound to its end. -/
def isWhole : Node → Bool
  | .torn => false
  | .array items closed => areWholeItems items && closed
  | .object members closed => areWholeMembers members && closed
  | .unreadable | .null | .boolean _ | .number _ | .word _ | .text _ | .moment _ => true

def areWholeItems : List Node → Bool
  | [] => true
  | item :: items => isWhole item && areWholeItems items

def areWholeMembers : List (Node × Node) → Bool
  | [] => true
  | (name, value) :: members => isName name && isWhole value && areWholeMembers members

end

mutual

/-- The value of a node, repeated member names and all; nothing unless every part of it can be
taken in. -/
def toJson? : Node → Option Json
  | .torn | .unreadable => none
  | .null | .word _ => some .null
  | .boolean b => some (.boolean b)
  | .number n => some (.number n)
  | .text s => some (.text s)
  | .moment s => some (.object [(momentName, .text s)])
  | .array items closed => do
      let items ← itemsToJson? items
      if closed then some (.array items) else none
  | .object members closed => do
      let members ← membersToJson? members
      if closed then some (.object members) else none

def itemsToJson? : List Node → Option (List Json)
  | [] => some []
  | item :: items => do return (← toJson? item) :: (← itemsToJson? items)

def membersToJson? : List (Node × Node) → Option (List (String × Json))
  | [] => some []
  | (.text name, value) :: members => do
      return (name, ← toJson? value) :: (← membersToJson? members)
  | _ :: _ => none

end

mutual

def ofJson : Json → Node
  | .null => .null
  | .boolean b => .boolean b
  | .number n => .number n
  | .text s => .text s
  | .array items => .array (ofJsonItems items) true
  | .object members => .object (ofJsonMembers members) true

def ofJsonItems : List Json → List Node
  | [] => []
  | item :: items => ofJson item :: ofJsonItems items

def ofJsonMembers : List (String × Json) → List (Node × Node)
  | [] => []
  | (name, value) :: members => (.text name, ofJson value) :: ofJsonMembers members

end

mutual

theorem toJson?_ofJson : (j : Json) → toJson? (ofJson j) = some j
  | .null | .boolean _ | .number _ | .text _ => rfl
  | .array items => by simp [ofJson, toJson?, itemsToJson?_ofJsonItems items]
  | .object members => by simp [ofJson, toJson?, membersToJson?_ofJsonMembers members]

theorem itemsToJson?_ofJsonItems :
    (items : List Json) → itemsToJson? (ofJsonItems items) = some items
  | [] => rfl
  | item :: items => by
      simp [ofJsonItems, itemsToJson?, toJson?_ofJson item, itemsToJson?_ofJsonItems items]

theorem membersToJson?_ofJsonMembers :
    (members : List (String × Json)) → membersToJson? (ofJsonMembers members) = some members
  | [] => rfl
  | (name, value) :: members => by
      simp [ofJsonMembers, membersToJson?, toJson?_ofJson value,
        membersToJson?_ofJsonMembers members]

end

end Node

end Rulebook.Document
