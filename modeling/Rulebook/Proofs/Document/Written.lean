import Mathlib.Data.List.Basic
import Rulebook.Document.Record
import Rulebook.Error
import Rulebook.Json.Basic

namespace Rulebook.Json

theorem mem_optionalMember {α : Type} {name : String} {toJson : α → Json} {value : Option α}
    {member : String × Json} (h : member ∈ optionalMember name toJson value) :
    ∃ a, member.2 = toJson a := by
  cases value with
  | none => cases h
  | some a => exact ⟨a, by rw [List.mem_singleton.mp h]⟩

theorem mem_textsMember {name : String} {items : List String} {member : String × Json}
    (h : member ∈ textsMember name items) : member.2 = texts items := by
  cases items with
  | nil => cases h
  | cons item items => rw [List.mem_singleton.mp h]

end Rulebook.Json

namespace Rulebook.Document

/-- The reader takes the value from the written value, wherever that comes from. -/
def Reader.Takes {α : Type} (read : Reader α) (j : Json) (a : α) : Prop :=
  ∀ origin, read origin (Node.ofJson j) = .ok a

namespace Reader

variable {α : Type} {read : Reader α} {j : Json} {a : α}

theorem takes_text (wanted s : String) : (text wanted).Takes (.text s) s :=
  fun _ => rfl

theorem takes_string (s : String) : Reader.string.Takes (.text s) s :=
  takes_text _ s

theorem takes_parsed {wanted s : String} {parse : String → Except String α}
    (hparse : parse s = .ok a) : (parsed wanted parse).Takes (.text s) a := by
  intro origin
  have htext : text wanted origin (.text s) = .ok s := rfl
  rw [Node.ofJson, parsed, htext]
  simp only [bind, Except.bind, hparse]

theorem takes_choice {variants : List (String × α)} {name : String}
    (hname : variants.lookup name = some a) : (choice variants).Takes (.text name) a := by
  have hvariant : variant variants name = .ok a := by
    rw [variant, hname]
  intro origin
  cases origin <;> exact hvariant

theorem takes_optional (htakes : read.Takes j a) (hnull : j ≠ .null) :
    (optional read).Takes j (some a) := by
  intro origin
  have hread : some <$> read origin (Node.ofJson j) = .ok (some a) := by
    rw [htakes origin]
    rfl
  cases j with
  | null => exact absurd rfl hnull
  | _ => exact hread

theorem Takes.map {β : Type} (h : read.Takes j a) (f : α → β) :
    Reader.Takes (fun origin node => f <$> read origin node) j (f a) := by
  intro origin
  show f <$> read origin (Node.ofJson j) = _
  rw [h origin]
  rfl

theorem items_eq_ok {toJson : α → Json} (origin : Origin) {values : List α}
    (htakes : ∀ a ∈ values, read.Takes (toJson a) a) :
    items read origin (Node.ofJsonItems (values.map toJson)) = .ok values := by
  induction values with
  | nil => rfl
  | cons a values ih =>
      have hrest := ih fun a ha => htakes a (List.mem_cons_of_mem _ ha)
      rw [List.map_cons, Node.ofJsonItems, items, htakes a List.mem_cons_self origin, hrest]
      rfl

theorem takes_list {toJson : α → Json} {values : List α}
    (htakes : ∀ a ∈ values, read.Takes (toJson a) a) :
    (list read).Takes (.array (values.map toJson)) values := by
  intro origin
  rw [Node.ofJson, list, items_eq_ok origin htakes]
  rfl

theorem takes_texts (values : List String) :
    (list Reader.string).Takes (Json.texts values) values :=
  takes_list fun s _ => takes_string s

theorem members_eq_ok {toJson : α → Json} (origin : Origin) {values : List (String × α)}
    (htakes : ∀ a, read.Takes (toJson a) a) :
    members read origin (Node.ofJsonMembers (values.map fun (name, a) => (name, toJson a))) =
      .ok values := by
  induction values with
  | nil => rfl
  | cons value values ih =>
      rw [List.map_cons, Node.ofJsonMembers, members, htakes value.2 origin, ih]
      rfl

theorem takes_map {toJson : α → Json} {values : List (String × α)}
    (htakes : ∀ a, read.Takes (toJson a) a) :
    (map read).Takes (.object (values.map fun (name, a) => (name, toJson a))) values := by
  intro origin
  rw [Node.ofJson, map, members_eq_ok origin htakes]
  rfl

end Reader

namespace Fields

def names : {types : List Type} → Fields types → List String
  | _, .nil => []
  | _, .cons field rest => field.name :: rest.names

/-- No field answers to the name of a later one. -/
def Apart : {types : List Type} → Fields types → Prop
  | _, .nil => True
  | _, .cons field rest => (∀ name ∈ rest.names, field.answersTo name = false) ∧ rest.Apart

end Fields

/-- The members write the values of the fields, in the order of the fields. A field is left out
only where the value is the one that it has when it is. -/
inductive Written (origin : Origin) :
    {types : List Type} → Fields types → Values types → List (String × Json) → Prop
  | nil : Written origin .nil () []
  | member {α : Type} {types : List Type} {field : Field α} {rest : Fields types} {a : α}
      {values : Values types} {j : Json} {members : List (String × Json)}
      (hread : field.read origin (Node.ofJson j) = .ok a)
      (hrest : Written origin rest values members) :
      Written origin (.cons field rest) (a, values) ((field.name, j) :: members)
  | leftOut {α : Type} {types : List Type} {field : Field α} {rest : Fields types} {a : α}
      {values : Values types} {members : List (String × Json)}
      (habsent : field.absent = some a) (hrest : Written origin rest values members) :
      Written origin (.cons field rest) (a, values) members

namespace Written

variable {origin : Origin} {types : List Type} {rest : Fields types} {values : Values types}
  {members : List (String × Json)} {α : Type} {name : String} {read : Reader α}

theorem required {j : Json} {a : α} (htakes : read.Takes j a)
    (hrest : Written origin rest values members) :
    Written origin (.cons (.required name read) rest) (a, values) ([(name, j)] ++ members) :=
  .member (htakes origin) hrest

theorem defaulted {j : Json} {a absent : α} (htakes : read.Takes j a)
    (hrest : Written origin rest values members) :
    Written origin (.cons (.defaulted name read absent) rest) (a, values)
      ([(name, j)] ++ members) :=
  .member (htakes origin) hrest

theorem optional {toJson : α → Json} (value : Option α)
    (htakes : ∀ a ∈ value, read.Takes (toJson a) a ∧ toJson a ≠ .null)
    (hrest : Written origin rest values members) :
    Written origin (.cons (.optional name read) rest) (value, values)
      (Json.optionalMember name toJson value ++ members) := by
  cases value with
  | none => exact .leftOut rfl hrest
  | some a =>
      obtain ⟨ha, hnull⟩ := htakes a rfl
      exact .member (Reader.takes_optional ha hnull origin) hrest

theorem texts (items : List String) (hrest : Written origin rest values members) :
    Written origin (.cons (.defaulted name (Reader.list Reader.string) []) rest) (items, values)
      (Json.textsMember name items ++ members) := by
  cases items with
  | nil => exact .leftOut rfl hrest
  | cons item items =>
      exact .member (Reader.takes_texts (item :: items) origin) hrest

theorem mem_names {fields : Fields types} (h : Written origin fields values members)
    {member : String × Json} (hmem : member ∈ members) : member.1 ∈ fields.names := by
  induction h with
  | nil => cases hmem
  | member hread hrest ih =>
      rcases List.mem_cons.mp hmem with rfl | hmem
      · exact List.mem_cons_self
      · exact List.mem_cons_of_mem _ (ih hmem)
  | leftOut habsent hrest ih => exact List.mem_cons_of_mem _ (ih hmem)

theorem ne_of_notMem {fields : Fields types} (h : Written origin fields values members)
    (hname : name ∉ fields.names) : ∀ member ∈ members, member.1 ≠ name := by
  rintro member hmem rfl
  exact hname (h.mem_names hmem)

end Written

/-- The place of the first field and those of the others. -/
def Slots.cons {α : Type} {types : List Type} (slot : Option α) (slots : Slots types) :
    Slots (α :: types) :=
  (slot, slots)

namespace Fields

variable {types : List Type} {α : Type} {field : Field α} {rest : Fields types}

theorem put_cons_of_answers {name : String} (hname : field.answersTo name = true)
    (origin : Origin) (node : Node) (slots : Slots types) :
    (cons field rest).put origin name node (.cons none slots) =
      (field.read origin node).map fun a => some (.cons (some a) slots) := by
  rw [Slots.cons, put, if_pos hname]
  cases field.read origin node <;> rfl

theorem put_cons_of_not_answers {name : String} (hname : field.answersTo name = false)
    (origin : Origin) (node : Node) (slot : Option α) (slots : Slots types) :
    (cons field rest).put origin name node (.cons slot slots) =
      (rest.put origin name node slots).map (Option.map (.cons slot)) := by
  have hno : ¬ field.answersTo name = true := by simp [hname]
  cases slot <;> rw [Slots.cons, put, if_neg hno] <;>
    cases rest.put origin name node slots <;> rfl

theorem put_cons_eq_ok {origin : Origin} {name : String} {node : Node} {slot : Option α}
    {slots : Slots types} {filled : Option (Slots (α :: types))}
    (hput : (cons field rest).put origin name node (.cons slot slots) = .ok filled) :
    (field.answersTo name = true ∧ slot = none ∧
      ∃ a, field.read origin node = .ok a ∧ filled = some (.cons (some a) slots)) ∨
    (field.answersTo name = false ∧
      ∃ others, rest.put origin name node slots = .ok others ∧
        filled = others.map (.cons slot)) := by
  cases hname : field.answersTo name with
  | true =>
      cases slot with
      | some a =>
          rw [Slots.cons, put, if_pos hname] at hput
          cases hput
      | none =>
          rw [put_cons_of_answers hname] at hput
          obtain ⟨a, hread, rfl⟩ := map_eq_ok_iff.mp hput
          exact Or.inl ⟨rfl, rfl, a, hread, rfl⟩
  | false =>
      rw [put_cons_of_not_answers hname] at hput
      obtain ⟨others, hrest, rfl⟩ := map_eq_ok_iff.mp hput
      exact Or.inr ⟨rfl, others, hrest, rfl⟩

theorem fill_cons_eq_ok {fields : Fields types} {origin : Origin} {member : Node × Node}
    {members : List (Node × Node)} {slots slots' : Slots types}
    (hfill : fields.fill origin slots (member :: members) = .ok slots') :
    ∃ name, member.1 = .text name ∧
      ((∃ filled, fields.put origin name member.2 slots = .ok (some filled) ∧
          fields.fill origin filled members = .ok slots') ∨
        (fields.put origin name member.2 slots = .ok none ∧
          fields.fill origin slots members = .ok slots')) := by
  obtain ⟨name, node⟩ := member
  cases name with
  | text name =>
      rw [fill] at hfill
      obtain ⟨filled, hput, hfill⟩ := bind_eq_ok_iff.mp hfill
      cases filled with
      | some filled => exact ⟨name, rfl, Or.inl ⟨filled, hput, hfill⟩⟩
      | none =>
          simp only at hfill
          split at hfill
          · exact ⟨name, rfl, Or.inr ⟨hput, hfill⟩⟩
          · cases hfill
  | _ => cases hfill

theorem fill_cons (origin : Origin) (slot : Option α) (slots : Slots types)
    {members : List (String × Json)}
    (hother : ∀ member ∈ members, field.answersTo member.1 = false) :
    (cons field rest).fill origin (.cons slot slots) (Node.ofJsonMembers members) =
      (rest.fill origin slots (Node.ofJsonMembers members)).map (.cons slot) := by
  induction members generalizing slots with
  | nil => rfl
  | cons member members ih =>
      obtain ⟨name, j⟩ := member
      have hname : field.answersTo name = false := hother _ List.mem_cons_self
      have ih := fun slots => ih slots fun member hmem => hother _ (List.mem_cons_of_mem _ hmem)
      rw [Node.ofJsonMembers, fill, fill, put_cons_of_not_answers hname]
      cases rest.put origin name (Node.ofJson j) slots with
      | error fault => rfl
      | ok filled =>
          cases filled with
          | some filled => exact ih filled
          | none =>
              show (if _ then _ else _) = Except.map _ (if _ then _ else _)
              split
              · exact ih slots
              · rfl

theorem fill_cons_first (origin : Origin) (slots : Slots types) {a : α} {j : Json}
    (members : List (String × Json)) (hread : field.read origin (Node.ofJson j) = .ok a) :
    (cons field rest).fill origin (.cons none slots)
        (Node.ofJsonMembers ((field.name, j) :: members)) =
      (cons field rest).fill origin (.cons (some a) slots) (Node.ofJsonMembers members) := by
  have hname : field.answersTo field.name = true := by
    simp [Field.answersTo]
  rw [Node.ofJsonMembers, fill, put_cons_of_answers hname, hread]
  rfl

theorem finish_cons_eq_ok_iff {slot : Option α} {slots : Slots types} {a : α}
    {values : Values types} :
    (cons field rest).finish (.cons slot slots) = .ok (a, values) ↔
      (slot <|> field.absent) = some a ∧ rest.finish slots = .ok values := by
  rw [Slots.cons, finish]
  cases slot <|> field.absent with
  | none => exact iff_of_false nofun (fun h => by cases h.1)
  | some b =>
      constructor
      · intro hfinish
        obtain ⟨others, hothers, heq⟩ := bind_eq_ok_iff.mp hfinish
        cases heq
        exact ⟨rfl, hothers⟩
      · rintro ⟨hb, hfinish⟩
        cases hb
        simp only [hfinish]
        rfl

theorem exists_fill {fields : Fields types} {values : Values types} {origin : Origin}
    {members : List (String × Json)} (hapart : fields.Apart)
    (h : Written origin fields values members) :
    ∃ slots, fields.fill origin fields.empty (Node.ofJsonMembers members) = .ok slots ∧
      fields.finish slots = .ok values := by
  -- the first field is settled by its own member or by none: the other members do not reach it
  induction h with
  | nil => exact ⟨(), rfl, rfl⟩
  | @member _ _ field rest a values j members hread hrest ih =>
      obtain ⟨slots, hfill, hfinish⟩ := ih hapart.2
      have hother : ∀ member ∈ members, field.answersTo member.1 = false :=
        fun member hmem => hapart.1 _ (hrest.mem_names hmem)
      refine ⟨.cons (some a) slots, ?_, finish_cons_eq_ok_iff.mpr ⟨rfl, hfinish⟩⟩
      calc (cons field rest).fill origin (cons field rest).empty
            (Node.ofJsonMembers ((field.name, j) :: members))
        _ = (cons field rest).fill origin (.cons (some a) rest.empty)
              (Node.ofJsonMembers members) := fill_cons_first origin _ members hread
        _ = (rest.fill origin rest.empty (Node.ofJsonMembers members)).map (.cons (some a)) :=
            fill_cons origin _ _ hother
        _ = .ok (.cons (some a) slots) := by rw [hfill]; rfl
  | @leftOut _ _ field rest a values members habsent hrest ih =>
      obtain ⟨slots, hfill, hfinish⟩ := ih hapart.2
      have hother : ∀ member ∈ members, field.answersTo member.1 = false :=
        fun member hmem => hapart.1 _ (hrest.mem_names hmem)
      refine ⟨.cons none slots, ?_, finish_cons_eq_ok_iff.mpr ⟨habsent, hfinish⟩⟩
      calc (cons field rest).fill origin (cons field rest).empty (Node.ofJsonMembers members)
        _ = (rest.fill origin rest.empty (Node.ofJsonMembers members)).map (.cons none) :=
            fill_cons origin _ _ hother
        _ = .ok (.cons none slots) := by rw [hfill]; rfl

theorem read_written {fields : Fields types} {values : Values types} {origin : Origin}
    {members : List (String × Json)} (hapart : fields.Apart)
    (h : Written origin fields values members) (name : String) :
    fields.read name origin (Node.ofJson (.object members)) = .ok values := by
  obtain ⟨slots, hfill, hfinish⟩ := exists_fill hapart h
  rw [Node.ofJson, read, hfill]
  exact hfinish

end Fields

end Rulebook.Document
