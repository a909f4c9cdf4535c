import Rulebook.Proofs.Document.Written
import Rulebook.Proofs.Json.Depth

namespace Rulebook.Document

/-- The value is the one that the field has when it is left out, or it was read from a part of
which `P` holds. -/
def Field.Gives {α : Type} (field : Field α) (origin : Origin) (P : Node → Prop) (a : α) : Prop :=
  field.absent = some a ∨ ∃ part, P part ∧ field.read origin part = .ok a

namespace Fields

/-- Every field gives its value. -/
def Give (origin : Origin) (P : Node → Prop) :
    {types : List Type} → Fields types → Values types → Prop
  | _, .nil, _ => True
  | _, .cons field rest, (a, values) => field.Gives origin P a ∧ rest.Give origin P values

/-- What fills the places was read from parts of which `P` holds. -/
def Filled (origin : Origin) (P : Node → Prop) :
    {types : List Type} → Fields types → Slots types → Prop
  | _, .nil, _ => True
  | _, .cons field rest, (slot, slots) =>
      (∀ a, slot = some a → ∃ part, P part ∧ field.read origin part = .ok a) ∧
        rest.Filled origin P slots

variable {types : List Type} {origin : Origin} {P : Node → Prop}

theorem filled_empty (fields : Fields types) : fields.Filled origin P fields.empty := by
  induction fields with
  | nil => trivial
  | cons field rest ih => exact ⟨nofun, ih⟩

theorem Filled.put {fields : Fields types} {slots slots' : Slots types} {name : String}
    {node : Node} (h : fields.Filled origin P slots) (hnode : P node)
    (hput : fields.put origin name node slots = .ok (some slots')) :
    fields.Filled origin P slots' := by
  induction fields with
  | nil => cases hput
  | cons field rest ih =>
      obtain ⟨slot, slots⟩ := slots
      rcases put_cons_eq_ok hput with ⟨-, -, a, hread, heq⟩ | ⟨-, others, hrest, heq⟩
      · cases heq
        refine ⟨fun b hb => ?_, h.2⟩
        cases hb
        exact ⟨node, hnode, hread⟩
      · cases others with
        | none => cases heq
        | some others =>
            cases heq
            exact ⟨h.1, ih h.2 hrest⟩

theorem Filled.fill {fields : Fields types} {slots slots' : Slots types}
    {members : List (Node × Node)} (h : fields.Filled origin P slots)
    (hmembers : ∀ member ∈ members, P member.2)
    (hfill : fields.fill origin slots members = .ok slots') : fields.Filled origin P slots' := by
  induction members generalizing slots with
  | nil =>
      cases hfill
      exact h
  | cons member members ih =>
      have hrest : ∀ member ∈ members, P member.2 :=
        fun member hmem => hmembers member (List.mem_cons_of_mem _ hmem)
      obtain ⟨name, -, ⟨filled, hput, hfill⟩ | ⟨-, hfill⟩⟩ := fill_cons_eq_ok hfill
      · exact ih (h.put (hmembers _ List.mem_cons_self) hput) hrest hfill
      · exact ih h hrest hfill

theorem Filled.finish {fields : Fields types} {slots : Slots types} {values : Values types}
    (h : fields.Filled origin P slots) (hfinish : fields.finish slots = .ok values) :
    fields.Give origin P values := by
  induction fields with
  | nil => trivial
  | cons field rest ih =>
      obtain ⟨slot, slots⟩ := slots
      obtain ⟨a, values⟩ := values
      obtain ⟨ha, hrest⟩ := finish_cons_eq_ok_iff.mp hfinish
      refine ⟨?_, ih h.2 hrest⟩
      cases slot with
      | some b =>
          cases ha
          exact Or.inr (h.1 a rfl)
      | none => exact Or.inl ha

theorem give_of_fillItems {fields : Fields types} {closed : Bool} {wanted : String}
    {position : Nat} {nodes rest : List Node} {values : Values types}
    (hnodes : ∀ node ∈ nodes, P node)
    (hfill : fields.fillItems origin closed wanted position nodes = .ok (values, rest)) :
    fields.Give origin P values := by
  induction fields generalizing position nodes with
  | nil => trivial
  | cons field fields ih =>
      cases nodes with
      | cons node nodes =>
          rw [fillItems] at hfill
          obtain ⟨a, hread, hfill⟩ := bind_eq_ok_iff.mp hfill
          obtain ⟨⟨values', rest'⟩, hrest, heq⟩ := bind_eq_ok_iff.mp hfill
          cases heq
          have hothers : ∀ node ∈ nodes, P node :=
            fun other hmem => hnodes other (List.mem_cons_of_mem _ hmem)
          exact ⟨Or.inr ⟨node, hnodes node List.mem_cons_self, hread⟩, ih hothers hrest⟩
      | nil =>
          rw [fillItems] at hfill
          cases closed with
          | false => cases hfill
          | true =>
              cases habsent : field.absent with
              | none =>
                  simp only [habsent] at hfill
                  cases hfill
              | some a =>
                  simp only [habsent] at hfill
                  obtain ⟨⟨values', rest'⟩, hrest, heq⟩ := bind_eq_ok_iff.mp hfill
                  cases heq
                  exact ⟨Or.inl habsent, ih (fun node hmem => by cases hmem) hrest⟩

theorem give_of_read {fields : Fields types} {name : String} {node : Node} {values : Values types}
    (hread : fields.read name origin node = .ok values) :
    fields.Give origin (fun part => part.depth < node.depth) values := by
  cases node with
  | object members closed =>
      rw [read] at hread
      obtain ⟨slots, hfill, hfinish⟩ := bind_eq_ok_iff.mp hread
      cases closed with
      | false => cases hfinish
      | true =>
          refine ((filled_empty fields).fill ?_ hfill).finish hfinish
          exact fun member hmem => Nat.lt_succ_of_le (Node.depth_le_membersDepth hmem)
  | moment s =>
      rw [read] at hread
      obtain ⟨slots, hfill, hfinish⟩ := bind_eq_ok_iff.mp hread
      refine ((filled_empty fields).fill ?_ hfill).finish hfinish
      intro member hmem
      rw [List.mem_singleton.mp hmem]
      exact Nat.zero_lt_one
  | array nodes closed =>
      rw [read] at hread
      obtain ⟨⟨values', surplus⟩, hfill, hrest⟩ := bind_eq_ok_iff.mp hread
      obtain ⟨-, -, heq⟩ := bind_eq_ok_iff.mp hrest
      cases heq
      refine give_of_fillItems ?_ hfill
      exact fun item hmem => Nat.lt_succ_of_le (Node.depth_le_itemsDepth hmem)
  | _ => cases hread

end Fields

end Rulebook.Document
