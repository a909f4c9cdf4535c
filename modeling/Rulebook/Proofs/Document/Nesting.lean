import Rulebook.Document.Tagged
import Rulebook.Proofs.Document.Provenance

namespace Rulebook.Document

namespace Node

mutual

theorem depth_hold?_le : (node : Node) → {held : Node} → node.hold? = some held →
    held.depth ≤ node.depth
  | .torn, _, h | .unreadable, _, h => by cases h
  | .null, _, h | .boolean _, _, h | .number _, _, h | .word _, _, h | .text _, _, h => by
      cases h
      exact Nat.le_refl 0
  | .moment _, _, h => by
      cases h
      exact Nat.le_refl 1
  | .array items closed, _, h => by
      simp only [hold?, Option.bind_eq_bind, Option.bind_eq_some_iff] at h
      obtain ⟨heldItems, hitems, h⟩ := h
      split at h
      · cases h
        exact Nat.succ_le_succ (itemsDepth_holdItems?_le items hitems)
      · cases h
  | .object members closed, _, h => by
      simp only [hold?, Option.bind_eq_bind, Option.bind_eq_some_iff] at h
      obtain ⟨heldMembers, hmembers, h⟩ := h
      split at h
      · cases h
        exact Nat.succ_le_succ (membersDepth_holdMembers?_le members hmembers)
      · cases h

theorem itemsDepth_holdItems?_le : (items : List Node) → {held : List Node} →
    holdItems? items = some held → itemsDepth held ≤ itemsDepth items
  | [], _, h => by
      cases h
      exact Nat.le_refl 0
  | item :: items, _, h => by
      simp only [holdItems?, Option.bind_eq_bind, Option.bind_eq_some_iff, Option.pure_def,
        Option.some.injEq] at h
      obtain ⟨heldItem, hitem, heldItems, hitems, rfl⟩ := h
      have hfirst := depth_hold?_le item hitem
      have hrest := itemsDepth_holdItems?_le items hitems
      rw [itemsDepth, itemsDepth]
      omega

theorem membersDepth_holdMembers?_le : (members : List (Node × Node)) →
    {held : List (Node × Node)} → holdMembers? members = some held →
    membersDepth held ≤ membersDepth members
  | [], _, h => by
      cases h
      exact Nat.le_refl 0
  | (.text name, node) :: members, _, h => by
      simp only [holdMembers?, Option.bind_eq_bind, Option.bind_eq_some_iff, Option.pure_def,
        Option.some.injEq] at h
      obtain ⟨heldNode, hnode, heldMembers, hmembers, rfl⟩ := h
      have hfirst := depth_hold?_le node hnode
      have hrest := membersDepth_holdMembers?_le members hmembers
      rw [membersDepth, membersDepth]
      omega
  | (.torn, _) :: _, _, h | (.unreadable, _) :: _, _, h | (.null, _) :: _, _, h
  | (.boolean _, _) :: _, _, h | (.number _, _) :: _, _, h | (.word _, _) :: _, _, h
  | (.moment _, _) :: _, _, h | (.array _ _, _) :: _, _, h | (.object _ _, _) :: _, _, h => by
      cases h

end

end Node

theorem membersDepth_splitTag_le {κ : Type} {tagName : String} {kinds : List (String × κ)}
    {members held : List (Node × Node)} {found found' : Option κ}
    (h : splitTag tagName kinds found members = .ok (found', held)) :
    Node.membersDepth held ≤ Node.membersDepth members := by
  induction members generalizing found held with
  | nil =>
      cases h
      exact Nat.le_refl 0
  | cons member members ih =>
      obtain ⟨name, node⟩ := member
      cases name with
      | text name =>
          by_cases hname : name = tagName
          · unfold splitTag at h
            rw [if_pos hname] at h
            cases found with
            | some kind => cases h
            | none =>
                obtain ⟨kind, -, h⟩ := bind_eq_ok_iff.mp h
                exact Nat.le_trans (ih h) (Nat.le_max_right _ _)
          · cases hhold : node.hold? with
            | none =>
                unfold splitTag at h
                simp only [if_neg hname, hhold] at h
                cases h
            | some heldNode =>
                unfold splitTag at h
                simp only [if_neg hname, hhold] at h
                obtain ⟨⟨found'', heldMembers⟩, hrest, heq⟩ := bind_eq_ok_iff.mp h
                cases heq
                have hfirst := Node.depth_hold?_le node hhold
                have hothers := ih hrest
                show max heldNode.depth (Node.membersDepth heldMembers) ≤
                  max node.depth (Node.membersDepth members)
                omega
      | _ => cases h

namespace Reader

variable {α : Type} {read : Reader α} {toJson : α → Json}

/-- What is read from a node is written with no more nesting than the node has, apart from a least
nesting that it may always have. -/
def Nests (read : Reader α) (toJson : α → Json) (least : Nat) : Prop :=
  ∀ origin node a, read origin node = .ok a → (toJson a).depth ≤ max least node.depth

theorem Nests.items {least : Nat} (h : Nests read toJson least) {origin : Origin}
    {nodes : List Node} {values : List α} (hread : items read origin nodes = .ok values) :
    Json.itemsDepth (values.map toJson) ≤ max least (Node.itemsDepth nodes) := by
  induction nodes generalizing values with
  | nil =>
      cases hread
      exact Nat.zero_le _
  | cons node nodes ih =>
      rw [Reader.items] at hread
      obtain ⟨a, ha, hread⟩ := bind_eq_ok_iff.mp hread
      obtain ⟨rest, hrest, heq⟩ := bind_eq_ok_iff.mp hread
      cases heq
      have hfirst := h origin node a ha
      have hothers := ih hrest
      rw [List.map_cons, Json.itemsDepth, Node.itemsDepth]
      omega

theorem Nests.list {least : Nat} (h : Nests read toJson least) :
    Nests (list read) (fun values => .array (values.map toJson)) (least + 1) := by
  intro origin node values hread
  cases node with
  | array nodes closed =>
      rw [Reader.list] at hread
      obtain ⟨values', hitems, hread⟩ := bind_eq_ok_iff.mp hread
      have hdepth := h.items hitems
      cases closed with
      | false => cases hread
      | true =>
          cases hread
          rw [Json.depth, Node.depth]
          omega
  | _ => cases hread

theorem Nests.of_gives {field : Field α} {least n : Nat} (h : Nests field.read toJson least)
    (habsent : ∀ a, field.absent = some a → (toJson a).depth ≤ least) {origin : Origin} {a : α}
    (ha : field.Gives origin (fun part => part.depth < n) a) :
    (toJson a).depth ≤ max least (n - 1) := by
  rcases ha with hnone | ⟨part, hpart, hread⟩
  · exact Nat.le_trans (habsent a hnone) (Nat.le_max_left _ _)
  · have hdepth := h origin part a hread
    omega

theorem Nests.map {β : Type} {toJson : β → Json} {least : Nat} {f : α → β}
    (h : Nests read (fun a => toJson (f a)) least) :
    Nests (fun origin node => f <$> read origin node) toJson least := by
  intro origin node b hread
  obtain ⟨a, ha, rfl⟩ := map_eq_ok_iff.mp hread
  exact h origin node a ha

theorem Nests.tagged {κ : Type} {content : κ → Reader α} {least : Nat}
    (h : ∀ kind, Nests (content kind) toJson least) (name tagName : String)
    (kinds : List (String × κ)) : Nests (tagged name tagName kinds content) toJson least := by
  have hobject {members : List (Node × Node)} {closed : Bool} {a : α}
      (hread : taggedObject tagName kinds content members closed = .ok a) :
      (toJson a).depth ≤ max least (Node.membersDepth members + 1) := by
    rw [taggedObject] at hread
    obtain ⟨⟨found, held⟩, hsplit, hread⟩ := bind_eq_ok_iff.mp hread
    have hheld := membersDepth_splitTag_le hsplit
    cases closed with
    | false => cases hread
    | true =>
        cases found with
        | none => cases hread
        | some kind =>
            have hcontent := h kind .held (.object held true) a hread
            rw [Node.depth] at hcontent
            omega
  intro origin node a hread
  cases node with
  | object members closed => exact hobject hread
  | moment s => exact hobject hread
  | array items closed =>
      cases items with
      | nil => cases hread
      | cons tag items =>
          rw [Document.tagged] at hread
          obtain ⟨kind, -, hread⟩ := bind_eq_ok_iff.mp hread
          cases hhold : Node.holdItems? items with
          | none =>
              rw [hhold] at hread
              cases hread
          | some held =>
              rw [hhold] at hread
              have hheld := Node.itemsDepth_holdItems?_le items hhold
              cases closed with
              | false => cases hread
              | true =>
                  have hcontent := h kind .held (.array held true) a hread
                  rw [Node.depth] at hcontent
                  rw [Node.depth, Node.itemsDepth]
                  omega
  | _ => cases hread

/-- What a text is accepted as keeps within the deepest level of texts. -/
theorem Nests.depth_le_of_read {least : Nat} (h : Nests read toJson least)
    (hleast : least ≤ Json.deepestLevel) {text : String} {a : α}
    (hread : Json.read read text = .ok a) : (toJson a).depth ≤ Json.deepestLevel := by
  obtain ⟨node, hnode, hdepth⟩ := Json.exists_node_of_read hread
  exact Nat.le_trans (h .json node a hnode) (Nat.max_le.mpr ⟨hleast, hdepth⟩)

end Reader

end Rulebook.Document
