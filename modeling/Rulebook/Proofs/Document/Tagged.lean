import Rulebook.Document.Tagged
import Rulebook.Proofs.Document.Written

namespace Rulebook.Document

namespace Node

mutual

theorem hold?_ofJson : (j : Json) → hold? (ofJson j) = some (ofJson j)
  | .null | .boolean _ | .number _ | .text _ => by simp [ofJson, hold?]
  | .array items => by simp [ofJson, hold?, holdItems?_ofJsonItems items]
  | .object members => by simp [ofJson, hold?, holdMembers?_ofJsonMembers members]

theorem holdItems?_ofJsonItems :
    (items : List Json) → holdItems? (ofJsonItems items) = some (ofJsonItems items)
  | [] => rfl
  | item :: items => by
      simp [ofJsonItems, holdItems?, hold?_ofJson item, holdItems?_ofJsonItems items]

theorem holdMembers?_ofJsonMembers : (members : List (String × Json)) →
    holdMembers? (ofJsonMembers members) = some (ofJsonMembers members)
  | [] => rfl
  | (name, value) :: members => by
      simp [ofJsonMembers, holdMembers?, hold?_ofJson value, holdMembers?_ofJsonMembers members]

end

theorem ofJsonMembers_append (before after : List (String × Json)) :
    ofJsonMembers (before ++ after) = ofJsonMembers before ++ ofJsonMembers after := by
  induction before with
  | nil => rfl
  | cons member before ih =>
      obtain ⟨name, value⟩ := member
      rw [List.cons_append, ofJsonMembers, ofJsonMembers, ih, List.cons_append]

theorem mem_ofJsonMembers {members : List (String × Json)} {name : String} {j : Json}
    (hmem : (name, j) ∈ members) : (.text name, ofJson j) ∈ ofJsonMembers members := by
  induction members with
  | nil => cases hmem
  | cons member members ih =>
      obtain ⟨other, value⟩ := member
      rw [ofJsonMembers]
      rcases List.mem_cons.mp hmem with heq | hmem
      · obtain ⟨rfl, rfl⟩ := Prod.mk.inj heq
        exact List.mem_cons_self
      · exact List.mem_cons_of_mem _ (ih hmem)

theorem ne_text_of_hold? {node held : Node} (hnode : ∀ s, node ≠ .text s)
    (hhold : node.hold? = some held) (s : String) : held ≠ .text s := by
  rintro rfl
  cases node with
  | text t => exact hnode t rfl
  | array items closed => simp [hold?, Option.bind_eq_some_iff] at hhold
  | object members closed => simp [hold?, Option.bind_eq_some_iff] at hhold
  | _ => cases hhold

end Node

section Tag

variable {κ α : Type} {tagName : String} {kinds : List (String × κ)} {content : κ → Reader α}
  {kind : κ} {tag : String}

theorem splitTag_member {name : String} (hname : name ≠ tagName) {node held : Node}
    (hhold : node.hold? = some held) (found : Option κ) (rest : List (Node × Node)) :
    splitTag tagName kinds found ((.text name, node) :: rest) =
      (splitTag tagName kinds found rest).map (Prod.map id ((.text name, held) :: ·)) := by
  conv => lhs; unfold splitTag
  simp only [if_neg hname, hhold]
  cases splitTag tagName kinds found rest <;> rfl

theorem splitTag_tag (hkind : kinds.lookup tag = some kind) (rest : List (Node × Node)) :
    splitTag tagName kinds none ((.text tagName, .text tag) :: rest) =
      splitTag tagName kinds (some kind) rest := by
  have hvariant : Reader.variantAt kinds (.text tag) = .ok kind := by
    rw [Reader.variantAt, Reader.variant, hkind]
  conv => lhs; unfold splitTag
  simp only [if_pos, hvariant]
  rfl

theorem splitTag_append {before : List (String × Json)}
    (hother : ∀ member ∈ before, member.1 ≠ tagName) (found : Option κ)
    (rest : List (Node × Node)) :
    splitTag tagName kinds found (Node.ofJsonMembers before ++ rest) =
      (splitTag tagName kinds found rest).map (Prod.map id (Node.ofJsonMembers before ++ ·)) := by
  induction before with
  | nil =>
      rw [Node.ofJsonMembers, List.nil_append]
      cases splitTag tagName kinds found rest <;> rfl
  | cons member before ih =>
      obtain ⟨name, value⟩ := member
      have hname : name ≠ tagName := hother _ List.mem_cons_self
      rw [Node.ofJsonMembers, List.cons_append, splitTag_member hname (Node.hold?_ofJson value),
        ih fun member hmem => hother _ (List.mem_cons_of_mem _ hmem)]
      cases splitTag tagName kinds found rest <;> rfl

/-- Wherever the tag stands, the other members are read in their order. -/
theorem tagged_ofJson (hkind : kinds.lookup tag = some kind) {before after : List (String × Json)}
    (hother : ∀ member ∈ before ++ after, member.1 ≠ tagName) (name : String) (origin : Origin) :
    tagged name tagName kinds content origin
        (Node.ofJson (.object (before ++ [(tagName, .text tag)] ++ after))) =
      content kind .held (Node.ofJson (.object (before ++ after))) := by
  have hbefore : ∀ member ∈ before, member.1 ≠ tagName :=
    fun member hmem => hother _ (List.mem_append_left _ hmem)
  have hafter : ∀ member ∈ after, member.1 ≠ tagName :=
    fun member hmem => hother _ (List.mem_append_right _ hmem)
  have hsplit : splitTag tagName kinds none
      (Node.ofJsonMembers (before ++ [(tagName, .text tag)] ++ after)) =
      .ok (some kind, Node.ofJsonMembers (before ++ after)) := by
    have hrest : splitTag tagName kinds (some kind) (Node.ofJsonMembers after) =
        .ok (some kind, Node.ofJsonMembers after) := by
      rw [← List.append_nil (Node.ofJsonMembers after), splitTag_append hafter, splitTag]
      rfl
    rw [List.append_assoc, Node.ofJsonMembers_append, splitTag_append hbefore, List.cons_append,
      List.nil_append, Node.ofJsonMembers, Node.ofJson, splitTag_tag hkind, hrest,
      Node.ofJsonMembers_append]
    rfl
  rw [Node.ofJson, tagged, taggedObject, hsplit]
  rfl

theorem exists_of_splitTag_cons {member node : Node} {members held : List (Node × Node)}
    {found : Option κ}
    (h : splitTag tagName kinds (some kind) ((member, node) :: members) = .ok (found, held)) :
    ∃ name node' held', member = .text name ∧ node.hold? = some node' ∧
      held = (.text name, node') :: held' ∧
      splitTag tagName kinds (some kind) members = .ok (found, held') := by
  cases member with
  | text name =>
      by_cases hname : name = tagName
      · unfold splitTag at h
        simp only [if_pos hname] at h
        cases h
      cases hhold : node.hold? with
      | none =>
          unfold splitTag at h
          simp only [if_neg hname, hhold] at h
          cases h
      | some node' =>
          rw [splitTag_member hname hhold] at h
          cases hrest : splitTag tagName kinds (some kind) members with
          | error fault =>
              rw [hrest] at h
              cases h
          | ok rest =>
              rw [hrest] at h
              obtain ⟨rfl, rfl⟩ := Prod.mk.inj (Except.ok.inj h)
              exact ⟨name, node', rest.2, rfl, rfl, rfl, rfl⟩
  | _ => cases h

theorem exists_held_of_splitTag {members held : List (Node × Node)} {found : Option κ}
    (h : splitTag tagName kinds (some kind) members = .ok (found, held)) :
    found = some kind ∧ ∀ name node, (.text name, node) ∈ members →
      ∃ node', node.hold? = some node' ∧ (.text name, node') ∈ held := by
  induction members generalizing held with
  | nil =>
      obtain ⟨rfl, -⟩ := Prod.mk.inj (Except.ok.inj h)
      exact ⟨rfl, fun name node hmem => absurd hmem List.not_mem_nil⟩
  | cons member members ih =>
      obtain ⟨_, node⟩ := member
      obtain ⟨name, node', held', rfl, hhold, rfl, hrest⟩ := exists_of_splitTag_cons h
      obtain ⟨hfound, hheld⟩ := ih hrest
      refine ⟨hfound, fun other otherNode hmem => ?_⟩
      rcases List.mem_cons.mp hmem with heq | hmem
      · obtain ⟨hname, rfl⟩ := Prod.mk.inj heq
        obtain rfl := Node.text.inj hname
        exact ⟨node', hhold, List.mem_cons_self⟩
      · obtain ⟨other', hother, hmem'⟩ := hheld other otherNode hmem
        exact ⟨other', hother, List.mem_cons_of_mem _ hmem'⟩

theorem exists_tagged_error (hkind : kinds.lookup tag = some kind) {members : List (Node × Node)}
    {member : String} {node : Node} (hmem : (.text member, node) ∈ members)
    (hrefuse : ∀ node' held, node.hold? = some node' → (.text member, node') ∈ held →
      ∃ fault, content kind .held (.object held true) = .error fault)
    (name : String) (origin : Origin) (closed : Bool) :
    ∃ fault, tagged name tagName kinds content origin
      (.object ((.text tagName, .text tag) :: members) closed) = .error fault := by
  rw [tagged, taggedObject, splitTag_tag hkind]
  cases hsplit : splitTag tagName kinds (some kind) members with
  | error fault => exact ⟨fault, rfl⟩
  | ok split =>
      obtain ⟨found, held⟩ := split
      obtain ⟨rfl, hheld⟩ := exists_held_of_splitTag hsplit
      cases closed with
      | false => exact ⟨.malformed, rfl⟩
      | true =>
          obtain ⟨node', hhold, hmem'⟩ := hheld member node hmem
          exact hrefuse node' held hhold hmem'

end Tag

namespace Fields

variable {types : List Type} {α : Type} {field : Field α} {rest : Fields types} {origin : Origin}
  {name : String} {node : Node}

/-- The member cannot be read into any of the fields, whichever places are filled. -/
def Refuses (fields : Fields types) (origin : Origin) (name : String) (node : Node) : Prop :=
  ∀ slots, ∃ fault, fields.put origin name node slots = .error fault

theorem refuses_of_answers (hname : field.answersTo name = true)
    (hread : ∃ fault, field.read origin node = .error fault) :
    (cons field rest).Refuses origin name node := by
  rintro ⟨slot, slots⟩
  obtain ⟨fault, hfault⟩ := hread
  cases slot with
  | none => exact ⟨fault, by rw [← Slots.cons, put_cons_of_answers hname, hfault]; rfl⟩
  | some a => exact ⟨.duplicateField field.name, by rw [put, if_pos hname]⟩

theorem refuses_of_not_answers (hname : field.answersTo name = false)
    (hrest : rest.Refuses origin name node) : (cons field rest).Refuses origin name node := by
  rintro ⟨slot, slots⟩
  obtain ⟨fault, hfault⟩ := hrest slots
  exact ⟨fault, by rw [← Slots.cons, put_cons_of_not_answers hname, hfault]; rfl⟩

theorem Refuses.exists_fill_error {fields : Fields types} (h : fields.Refuses origin name node)
    {members : List (Node × Node)} (hmem : (.text name, node) ∈ members) (slots : Slots types) :
    ∃ fault, fields.fill origin slots members = .error fault := by
  induction members generalizing slots with
  | nil => cases hmem
  | cons member members ih =>
      obtain ⟨other, otherNode⟩ := member
      cases other with
      | text other =>
          rw [fill]
          cases hput : fields.put origin other otherNode slots with
          | error fault => exact ⟨fault, rfl⟩
          | ok filled =>
              have hrest : (.text name, node) ∈ members := by
                refine (List.mem_cons.mp hmem).resolve_left fun heq => ?_
                obtain ⟨hname, rfl⟩ := Prod.mk.inj heq
                obtain rfl := Node.text.inj hname
                obtain ⟨fault, hfault⟩ := h slots
                rw [hput] at hfault
                cases hfault
              cases filled with
              | some slots => exact ih hrest slots
              | none =>
                  cases otherNode.isWhole with
                  | true => exact ih hrest slots
                  | false => exact ⟨.malformed, rfl⟩
      | _ => exact ⟨.malformed, rfl⟩

theorem Refuses.exists_read_error {fields : Fields types} (h : fields.Refuses origin name node)
    {members : List (Node × Node)} (hmem : (.text name, node) ∈ members) (record : String)
    (closed : Bool) :
    ∃ fault, fields.read record origin (.object members closed) = .error fault := by
  obtain ⟨fault, hfault⟩ := h.exists_fill_error hmem fields.empty
  exact ⟨fault, by rw [read, hfault]; rfl⟩

end Fields

end Rulebook.Document
