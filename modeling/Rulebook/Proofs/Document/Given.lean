import Rulebook.Error
import Rulebook.Proofs.Document.Written

namespace Rulebook.Document

/-- What an object has for a field. -/
def Field.given? {α : Type} (field : Field α) (members : List (Node × Node)) : Option Node :=
  members.findSome? fun
    | (.text name, node) => if field.answersTo name then some node else none
    | _ => none

/-- The field has this value: that of its member, or where there is none the one that it has when
it is left out. -/
def Field.Has {α : Type} (field : Field α) (origin : Origin) (members : List (Node × Node))
    (a : α) : Prop :=
  match field.given? members with
  | some node => field.read origin node = .ok a
  | none => field.absent = some a

namespace Fields

/-- Whether a member of this name is meant for one of the fields. -/
def answer (name : String) : {types : List Type} → Fields types → Bool
  | _, .nil => false
  | _, .cons field rest => field.answersTo name || rest.answer name

/-- No member is meant for two of the fields. -/
def Disjoint : {types : List Type} → Fields types → Prop
  | _, .nil => True
  | _, .cons field rest =>
      (∀ name, field.answersTo name = true → rest.answer name = false) ∧ rest.Disjoint

def Have (origin : Origin) (members : List (Node × Node)) :
    {types : List Type} → Fields types → Values types → Prop
  | _, .nil, _ => True
  | _, .cons field rest, (a, values) =>
      field.Has origin members a ∧ rest.Have origin members values

/-- A place is filled from the member of its field, and still empty where there is none. -/
def Placed (origin : Origin) (members : List (Node × Node)) :
    {types : List Type} → Fields types → Slots types → Prop
  | _, .nil, _ => True
  | _, .cons field rest, (slot, slots) =>
      Option.Rel (fun node a => field.read origin node = .ok a) (field.given? members) slot ∧
        rest.Placed origin members slots

end Fields

section Given

variable {α : Type} {field : Field α} {types : List Type} {fields : Fields types}
  {origin : Origin} {members : List (Node × Node)} {name : String} {node : Node}
  {slots slots' : Slots types}

theorem Field.given?_append_of_answers (hname : field.answersTo name = true)
    (hnone : field.given? members = none) :
    field.given? (members ++ [(.text name, node)]) = some node := by
  rw [given?] at hnone
  rw [given?, List.findSome?_append, hnone]
  simp [hname]

theorem Field.given?_append_of_not_answers (hname : field.answersTo name = false) :
    field.given? (members ++ [(.text name, node)]) = field.given? members := by
  rw [given?, List.findSome?_append, ← given?]
  simp [hname]

theorem Field.has_of_rel {slot : Option α} {a : α}
    (h : Option.Rel (fun node a => field.read origin node = .ok a) (field.given? members) slot)
    (ha : (slot <|> field.absent) = some a) : field.Has origin members a := by
  rw [Has]
  generalize field.given? members = given at h
  cases h with
  | none => exact ha
  | some hread =>
      cases ha
      exact hread

namespace Fields

theorem placed_empty (fields : Fields types) : fields.Placed origin [] fields.empty := by
  induction fields with
  | nil => trivial
  | cons field rest ih => exact ⟨.none, ih⟩

theorem Placed.pass (h : fields.Placed origin members slots) (hname : fields.answer name = false) :
    fields.Placed origin (members ++ [(.text name, node)]) slots := by
  induction fields with
  | nil => trivial
  | cons field rest ih =>
      obtain ⟨slot, slots⟩ := slots
      rw [answer, Bool.or_eq_false_iff] at hname
      refine ⟨?_, ih h.2 hname.2⟩
      rw [Field.given?_append_of_not_answers hname.1]
      exact h.1

theorem answer_eq_false_of_put (hput : fields.put origin name node slots = .ok none) :
    fields.answer name = false := by
  induction fields with
  | nil => rfl
  | cons field rest ih =>
      obtain ⟨slot, slots⟩ := slots
      rcases put_cons_eq_ok hput with ⟨-, -, a, -, heq⟩ | ⟨hname, others, hrest, heq⟩
      · cases heq
      · cases others with
        | some others => cases heq
        | none =>
            rw [answer, hname, ih hrest]
            rfl

theorem Placed.put (hfields : fields.Disjoint) (h : fields.Placed origin members slots)
    (hput : fields.put origin name node slots = .ok (some slots')) :
    fields.Placed origin (members ++ [(.text name, node)]) slots' := by
  induction fields with
  | nil => cases hput
  | cons field rest ih =>
      obtain ⟨slot, slots⟩ := slots
      rcases put_cons_eq_ok hput with ⟨hname, hslot, a, hread, heq⟩ | ⟨hname, others, hrest, heq⟩
      · cases hslot
        cases heq
        -- the place is still empty, so that no member before this one was meant for it
        have hnone : field.given? members = none := by
          cases hgiven : field.given? members with
          | none => rfl
          | some node =>
              have hslot := h.1
              rw [hgiven] at hslot
              cases hslot
        refine ⟨?_, h.2.pass (hfields.1 name hname)⟩
        rw [Field.given?_append_of_answers hname hnone]
        exact .some hread
      · cases others with
        | none => cases heq
        | some others =>
            cases heq
            refine ⟨?_, ih hfields.2 h.2 hrest⟩
            rw [Field.given?_append_of_not_answers hname]
            exact h.1

theorem Placed.fill {seen : List (Node × Node)} (hfields : fields.Disjoint)
    (h : fields.Placed origin seen slots)
    (hfill : fields.fill origin slots members = .ok slots') :
    fields.Placed origin (seen ++ members) slots' := by
  induction members generalizing seen slots with
  | nil =>
      cases hfill
      rwa [List.append_nil]
  | cons member members ih =>
      obtain ⟨key, node⟩ := member
      obtain ⟨name, rfl, hfill⟩ := fill_cons_eq_ok hfill
      rw [List.append_cons]
      rcases hfill with ⟨filled, hput, hfill⟩ | ⟨hput, hfill⟩
      · exact ih (h.put hfields hput) hfill
      · exact ih (h.pass (answer_eq_false_of_put hput)) hfill

theorem Placed.finish {values : Values types} (h : fields.Placed origin members slots)
    (hfinish : fields.finish slots = .ok values) : fields.Have origin members values := by
  induction fields with
  | nil => trivial
  | cons field rest ih =>
      obtain ⟨slot, slots⟩ := slots
      obtain ⟨a, values⟩ := values
      obtain ⟨ha, hrest⟩ := finish_cons_eq_ok_iff.mp hfinish
      exact ⟨Field.has_of_rel h.1 ha, ih h.2 hrest⟩

theorem have_of_read {values : Values types} {closed : Bool} (hfields : fields.Disjoint)
    (hread : fields.read name origin (.object members closed) = .ok values) :
    fields.Have origin members values := by
  rw [read] at hread
  obtain ⟨slots, hfill, hfinish⟩ := bind_eq_ok_iff.mp hread
  have hplaced := (placed_empty fields).fill hfields hfill
  cases closed with
  | false => cases hfinish
  | true => exact hplaced.finish hfinish

end Fields

end Given

end Rulebook.Document
