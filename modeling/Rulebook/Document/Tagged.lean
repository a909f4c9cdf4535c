import Rulebook.Document.Reader

namespace Rulebook.Document

namespace Node

mutual

/-- A node as it is held back until it is known what it should be; nothing unless every part of it
can be taken in. -/
def hold? : Node → Option Node
  | .torn | .unreadable => none
  | .null => some .null
  | .boolean b => some (.boolean b)
  | .number n => some (.number n)
  | .word w => some (.word w)
  | .text s => some (.text s)
  | .moment s => some (.object [(.text momentName, .text s)] true)
  | .array items closed => do
      let items ← holdItems? items
      if closed then some (.array items true) else none
  | .object members closed => do
      let members ← holdMembers? members
      if closed then some (.object members true) else none

/-- The items of an array, held back. -/
def holdItems? : List Node → Option (List Node)
  | [] => some []
  | item :: items => do return (← hold? item) :: (← holdItems? items)

/-- The members of an object, held back. -/
def holdMembers? : List (Node × Node) → Option (List (Node × Node))
  | [] => some []
  | (.text name, value) :: members => do
      return (.text name, ← hold? value) :: (← holdMembers? members)
  | _ :: _ => none

end

end Node

/-- Finds the tag among the members of an object and holds the other members back. -/
def splitTag {κ : Type} (tagName : String) (kinds : List (String × κ)) :
    Option κ → List (Node × Node) → Except Fault (Option κ × List (Node × Node))
  | found, [] => .ok (found, [])
  | found, (.text name, node) :: rest =>
      if name = tagName then
        match found with
        | some _ => .error (.duplicateField tagName)
        | none => do splitTag tagName kinds (some (← Reader.variantAt kinds node)) rest
      else
        match node.hold? with
        | none => .error .malformed
        | some held => do
            let (found, members) ← splitTag tagName kinds found rest
            return (found, (.text name, held) :: members)
  | _, _ :: _ => .error .malformed

def taggedObject {κ α : Type} (tagName : String) (kinds : List (String × κ))
    (content : κ → Reader α) (members : List (Node × Node)) (closed : Bool) :
    Except Fault α := do
  let (found, held) ← splitTag tagName kinds none members
  if !closed then throw .malformed
  match found with
  | none => throw (.missingField tagName)
  | some kind => content kind .held (.object held true)

/-- Reads a value of one of several kinds; what is not the tag is read as the kind asks. -/
def tagged {κ α : Type} (name tagName : String) (kinds : List (String × κ))
    (content : κ → Reader α) : Reader α
  | _, .object members closed => taggedObject tagName kinds content members closed
  | _, .moment s => taggedObject tagName kinds content [(.text momentName, .text s)] true
  | _, .array [] closed => .error (if closed then .missingField tagName else .malformed)
  | _, .array (tag :: items) closed => do
      let kind ← Reader.variantAt kinds tag
      match Node.holdItems? items with
      | none => .error .malformed
      | some held =>
          if closed then content kind .held (.array held true) else .error .malformed
  | _, node => .error (node.mismatch ("internally tagged enum " ++ name))

end Rulebook.Document
