import Rulebook.Double.Basic
import Rulebook.OrderedMap

namespace Rulebook

/-- An integer that JSON numbers keep exactly: it fits 64 bits, signed or unsigned. -/
structure WideInt where
  value : Int
  inRange : -0x8000000000000000 ≤ value ∧ value < 0x10000000000000000
  deriving DecidableEq

/-- The integer, when it is in range. -/
def WideInt.ofInt? (value : Int) : Option WideInt :=
  if h : -0x8000000000000000 ≤ value ∧ value < 0x10000000000000000 then some ⟨value, h⟩ else none

/-- A JSON number: an integer kept exactly or a finite floating-point number. -/
inductive JsonNumber where
  | integer (value : WideInt)
  | double (value : Double)
  deriving DecidableEq

/-- A JSON value. -/
inductive Json where
  | null
  | boolean (value : Bool)
  | number (value : JsonNumber)
  | text (value : String)
  | array (items : List Json)
  | object (members : List (String × Json))

namespace Json

mutual

/-- No object of the value has two members of one name. -/
def Distinct : Json → Prop
  | .array items => DistinctItems items
  | .object members => (OrderedMap.keys members).Nodup ∧ DistinctMembers members
  | .null | .boolean _ | .number _ | .text _ => True

def DistinctItems : List Json → Prop
  | [] => True
  | item :: items => Distinct item ∧ DistinctItems items

def DistinctMembers : List (String × Json) → Prop
  | [] => True
  | (_, value) :: members => Distinct value ∧ DistinctMembers members

end

mutual

/-- Gives every repeated member name its first place and its last value. -/
def settle : Json → Json
  | .null => .null
  | .boolean b => .boolean b
  | .number n => .number n
  | .text s => .text s
  | .array items => .array (settleItems items)
  | .object members => .object (OrderedMap.overlay [] (settleMembers members))

def settleItems : List Json → List Json
  | [] => []
  | item :: items => settle item :: settleItems items

def settleMembers : List (String × Json) → List (String × Json)
  | [] => []
  | (name, value) :: members => (name, settle value) :: settleMembers members

end

theorem distinctMembers_iff (members : List (String × Json)) :
    DistinctMembers members ↔ ∀ member ∈ members, Distinct member.2 := by
  induction members with
  | nil => simp [DistinctMembers]
  | cons member members ih =>
      obtain ⟨name, value⟩ := member
      simp [DistinctMembers, ih]

theorem distinctMembers_overlay {base layer : List (String × Json)}
    (hbase : DistinctMembers base) (hlayer : DistinctMembers layer) :
    DistinctMembers (OrderedMap.overlay base layer) := by
  rw [distinctMembers_iff] at *
  intro member hmem
  rcases OrderedMap.mem_overlay hmem with h | ⟨entry, hentry, heq⟩
  · exact hbase member h
  · exact heq ▸ hlayer entry hentry

theorem distinct_overlay {base layer : List (String × Json)}
    (hbase : Distinct (.object base)) (hlayer : Distinct (.object layer)) :
    Distinct (.object (OrderedMap.overlay base layer)) :=
  ⟨OrderedMap.keys_overlay_nodup _ _ hbase.1, distinctMembers_overlay hbase.2 hlayer.2⟩

mutual

theorem settle_distinct : (j : Json) → (settle j).Distinct
  | .null | .boolean _ | .number _ | .text _ => trivial
  | .array items => settleItems_distinct items
  | .object members =>
      ⟨OrderedMap.keys_overlay_nodup _ _ List.nodup_nil,
        distinctMembers_overlay trivial (settleMembers_distinct members)⟩

theorem settleItems_distinct : (items : List Json) → DistinctItems (settleItems items)
  | [] => trivial
  | item :: items => ⟨settle_distinct item, settleItems_distinct items⟩

theorem settleMembers_distinct :
    (members : List (String × Json)) → DistinctMembers (settleMembers members)
  | [] => trivial
  | (_, value) :: members => ⟨settle_distinct value, settleMembers_distinct members⟩

end

def texts (items : List String) : Json :=
  .array (items.map .text)

def textMember (name value : String) : List (String × Json) :=
  [(name, .text value)]

/-- A member that is written only when it has a value. -/
def optionalMember {α : Type} (name : String) (toJson : α → Json) :
    Option α → List (String × Json)
  | none => []
  | some a => [(name, toJson a)]

/-- A member that is written only when its list has an item. -/
def textsMember (name : String) (items : List String) : List (String × Json) :=
  if items.isEmpty then [] else [(name, texts items)]

/-- A text, or `null` in place of none. -/
def textOrNull : Option String → Json
  | none => .null
  | some s => .text s

end Json

end Rulebook
