import Rulebook.Document.Reader

namespace Rulebook.Document

/-- A field of a record: its name, how its value is read, the value it has where it is left out,
for a field that may be, and a second name that it answers to, if it has one. -/
structure Field (α : Type) where
  name : String
  read : Reader α
  absent : Option α
  otherName : Option String

/-- A field that must be there. -/
def Field.required {α : Type} (name : String) (read : Reader α) : Field α :=
  ⟨name, read, none, none⟩

def Field.defaulted {α : Type} (name : String) (read : Reader α) (absent : α) : Field α :=
  ⟨name, read, some absent, none⟩

/-- A field that may be left out or written as `null`. -/
def Field.optional {α : Type} (name : String) (read : Reader α) : Field (Option α) :=
  ⟨name, Reader.optional read, some none, none⟩

/-- Whether a member of this name is meant for the field. -/
def Field.answersTo {α : Type} (field : Field α) (name : String) : Bool :=
  field.name == name || field.otherName == some name

/-- The fields of a record in their declared order. -/
inductive Fields : List Type → Type 1 where
  | nil : Fields []
  | cons {α : Type} {types : List Type} (field : Field α) (rest : Fields types) :
      Fields (α :: types)

/-- One value per field. -/
def Values : List Type → Type
  | [] => Unit
  | α :: types => α × Values types

/-- One place per field, filled or still empty. -/
def Slots : List Type → Type
  | [] => Unit
  | α :: types => Option α × Slots types

namespace Fields

def count {types : List Type} : Fields types → Nat
  | .nil => 0
  | .cons _ rest => rest.count + 1

def empty : {types : List Type} → Fields types → Slots types
  | _, .nil => ()
  | _, .cons _ rest => (none, rest.empty)

/-- Reads a member into the place of its field, which must still be empty; nothing when no field
answers to its name. -/
def put (origin : Origin) (name : String) (node : Node) :
    {types : List Type} → Fields types → Slots types → Except Fault (Option (Slots types))
  | _, .nil, _ => .ok none
  | _, .cons field rest, (slot, slots) =>
      if field.answersTo name then
        match slot with
        | some _ => .error (.duplicateField field.name)
        | none => do
            let a ← field.read origin node
            return some (some a, slots)
      else do
        let filled ← rest.put origin name node slots
        return filled.map fun slots => (slot, slots)

/-- Reads the members of an object one after the other and passes over those of other names. -/
def fill {types : List Type} (fields : Fields types) (origin : Origin) :
    Slots types → List (Node × Node) → Except Fault (Slots types)
  | slots, [] => .ok slots
  | slots, (.text name, node) :: rest => do
      match ← fields.put origin name node slots with
      | some slots => fields.fill origin slots rest
      | none => if node.isWhole then fields.fill origin slots rest else .error .malformed
  | _, _ :: _ => .error .malformed

/-- The values of all fields; the first one that is neither filled nor may be left out is
missing. -/
def finish : {types : List Type} → Fields types → Slots types → Except Fault (Values types)
  | _, .nil, _ => .ok ()
  | _, .cons field rest, (slot, slots) =>
      match slot <|> field.absent with
      | none => .error (.missingField field.name)
      | some a => do return (a, ← rest.finish slots)

/-- Reads fields from the items of an array and returns the items left over. The place of a missing
one is counted from `position`. -/
def fillItems (origin : Origin) (closed : Bool) (wanted : String) :
    {types : List Type} → Fields types → Nat → List Node →
      Except Fault (Values types × List Node)
  | _, .nil, _, rest => .ok ((), rest)
  | _, .cons field fields, position, node :: nodes => do
      let a ← field.read origin node
      let (values, rest) ← fields.fillItems origin closed wanted (position + 1) nodes
      return ((a, values), rest)
  | _, .cons field fields, position, [] =>
      if closed then
        match field.absent with
        | none => .error (.invalidLength position wanted)
        | some a => do
            let (values, rest) ← fields.fillItems origin closed wanted (position + 1) []
            return ((a, values), rest)
      else .error .malformed

/-- A number of elements, in words. -/
def elements (n : Nat) : String :=
  if n = 1 then "1 element" else toString n ++ " elements"

/-- What may follow the last field in an array: nothing in a JSON text, anything in TOML. -/
def checkSurplus {types : List Type} (fields : Fields types) (origin : Origin) (closed : Bool)
    (surplus : List Node) : Except Fault Unit :=
  match origin with
  | .json => if surplus.isEmpty && closed then .ok () else .error .malformed
  | .toml => .ok ()
  | .held =>
      if surplus.isEmpty then .ok ()
      else .error (.invalidLength (fields.count + surplus.length)
        (elements fields.count ++ " in sequence"))

def read {types : List Type} (fields : Fields types) (name : String) : Reader (Values types)
  | origin, .object members closed => do
      let slots ← fields.fill origin fields.empty members
      if closed then fields.finish slots else .error .malformed
  | origin, .moment s => do
      fields.finish (← fields.fill origin fields.empty [(.text momentName, .text s)])
  | origin, .array nodes closed => do
      let wanted := "struct " ++ name ++ " with " ++ elements fields.count
      let (values, surplus) ← fields.fillItems origin closed wanted 0 nodes
      fields.checkSurplus origin closed surplus
      return values
  | _, node => .error (node.mismatch ("struct " ++ name))

end Fields

end Rulebook.Document
