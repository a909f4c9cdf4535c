import Rulebook.Document.Tagged
import Rulebook.Error
import Rulebook.Proofs.Json.Reading

namespace Rulebook.Document.Node

mutual

/-- How many arrays and objects stand inside each other. The names of members do not count. -/
def depth : Node → Nat
  | .array items _ => itemsDepth items + 1
  | .object members _ => membersDepth members + 1
  | .moment _ => 1
  | .torn | .unreadable | .null | .boolean _ | .number _ | .word _ | .text _ => 0

def itemsDepth : List Node → Nat
  | [] => 0
  | item :: items => max (depth item) (itemsDepth items)

def membersDepth : List (Node × Node) → Nat
  | [] => 0
  | (_, value) :: members => max (depth value) (membersDepth members)

end

theorem depth_le_itemsDepth {item : Node} {items : List Node} (hmem : item ∈ items) :
    item.depth ≤ itemsDepth items := by
  induction items with
  | nil => cases hmem
  | cons next items ih =>
      rw [itemsDepth]
      rcases List.mem_cons.mp hmem with rfl | hmem
      · exact Nat.le_max_left _ _
      · exact Nat.le_trans (ih hmem) (Nat.le_max_right _ _)

theorem depth_le_membersDepth {name value : Node} {members : List (Node × Node)}
    (hmem : (name, value) ∈ members) : value.depth ≤ membersDepth members := by
  induction members with
  | nil => cases hmem
  | cons next members ih =>
      obtain ⟨nextName, nextValue⟩ := next
      rw [membersDepth]
      rcases List.mem_cons.mp hmem with heq | hmem
      · obtain ⟨-, rfl⟩ := Prod.mk.inj heq
        exact Nat.le_max_left _ _
      · exact Nat.le_trans (ih hmem) (Nat.le_max_right _ _)

mutual

theorem depth_toJson?_le : (node : Node) → {j : Json} → node.toJson? = some j →
    j.depth ≤ node.depth
  | .torn, _, h | .unreadable, _, h => by cases h
  | .null, _, h | .word _, _, h | .boolean _, _, h | .number _, _, h | .text _, _, h => by
      cases h
      exact Nat.le_refl 0
  | .moment _, _, h => by
      cases h
      exact Nat.le_refl 1
  | .array items closed, j, h => by
      simp only [toJson?, Option.bind_eq_bind, Option.bind_eq_some_iff] at h
      obtain ⟨values, hvalues, hj⟩ := h
      split at hj
      · cases hj
        exact Nat.succ_le_succ (depth_itemsToJson?_le items hvalues)
      · cases hj
  | .object members closed, j, h => by
      simp only [toJson?, Option.bind_eq_bind, Option.bind_eq_some_iff] at h
      obtain ⟨values, hvalues, hj⟩ := h
      split at hj
      · cases hj
        exact Nat.succ_le_succ (depth_membersToJson?_le members hvalues)
      · cases hj

theorem depth_itemsToJson?_le : (items : List Node) → {values : List Json} →
    itemsToJson? items = some values → Json.itemsDepth values ≤ itemsDepth items
  | [], _, h => by
      cases h
      exact Nat.le_refl 0
  | item :: items, _, h => by
      simp only [itemsToJson?, Option.bind_eq_bind, Option.bind_eq_some_iff, Option.pure_def,
        Option.some.injEq] at h
      obtain ⟨value, hvalue, values, hvalues, rfl⟩ := h
      have hfirst := depth_toJson?_le item hvalue
      have hrest := depth_itemsToJson?_le items hvalues
      rw [Json.itemsDepth, itemsDepth]
      omega

theorem depth_membersToJson?_le : (members : List (Node × Node)) →
    {values : List (String × Json)} → membersToJson? members = some values →
    Json.membersDepth values ≤ membersDepth members
  | [], _, h => by
      cases h
      exact Nat.le_refl 0
  | (.text name, node) :: members, _, h => by
      simp only [membersToJson?, Option.bind_eq_bind, Option.bind_eq_some_iff, Option.pure_def,
        Option.some.injEq] at h
      obtain ⟨value, hvalue, values, hvalues, rfl⟩ := h
      have hfirst := depth_toJson?_le node hvalue
      have hrest := depth_membersToJson?_le members hvalues
      rw [Json.membersDepth, membersDepth]
      omega
  | (.torn, _) :: _, _, h | (.unreadable, _) :: _, _, h | (.null, _) :: _, _, h
  | (.boolean _, _) :: _, _, h | (.number _, _) :: _, _, h | (.word _, _) :: _, _, h
  | (.moment _, _) :: _, _, h | (.array _ _, _) :: _, _, h | (.object _ _, _) :: _, _, h => by
      cases h

end

end Rulebook.Document.Node

namespace Rulebook.Json

open Rulebook.Document

theorem depth_textNode (cs : List Char) : (textNode cs).1.depth = 0 := by
  rw [textNode]
  split
  · rfl
  · split <;> rfl

theorem depth_numberNode (cs : List Char) : (numberNode cs).1.depth = 0 := by
  rw [numberNode]
  split
  · rfl
  · split <;> rfl

theorem depth_atLevel_le {level : Nat} {node : Node}
    (h : node.depth ≤ deepestLevel - (level + 1) + 1) :
    (atLevel (level + 1) node).depth ≤ deepestLevel - level := by
  rw [atLevel]
  split
  · omega
  · split <;> exact Nat.zero_le _

theorem depth_scan_le (fuel : Nat) :
    (∀ level cs, (scanNode fuel level cs).1.depth ≤ deepestLevel - level) ∧
    (∀ level cs, Node.itemsDepth (scanItems fuel level cs).1 ≤ deepestLevel - level) ∧
    ∀ level cs, Node.membersDepth (scanMembers fuel level cs).1 ≤ deepestLevel - level := by
  induction fuel with
  | zero =>
      refine ⟨fun level cs => ?_, fun level cs => ?_, fun level cs => ?_⟩
      · rw [scanNode]
        exact Nat.zero_le _
      · rw [scanItems]
        exact Nat.zero_le _
      · rw [scanMembers]
        exact Nat.zero_le _
  | succ fuel ih =>
      obtain ⟨hnode, hitems, hmembers⟩ := ih
      refine ⟨fun level cs => ?node, fun level cs => ?items, fun level cs => ?members⟩
      case node =>
        rw [scanNode]
        split
        · exact Nat.zero_le _
        · exact Nat.zero_le _
        · exact Nat.zero_le _
        · rw [depth_textNode]
          exact Nat.zero_le _
        · split
          · exact depth_atLevel_le (Nat.succ_le_succ (Nat.zero_le _))
          · exact depth_atLevel_le (Nat.succ_le_succ (hitems _ _))
        · split
          · exact depth_atLevel_le (Nat.succ_le_succ (Nat.zero_le _))
          · exact depth_atLevel_le (Nat.succ_le_succ (hmembers _ _))
        · split
          · rw [depth_numberNode]
            exact Nat.zero_le _
          · exact Nat.zero_le _
        · exact Nat.zero_le _
      case items =>
        obtain ⟨item, rest, hscan⟩ : ∃ item rest, scanNode fuel level cs = (item, rest) :=
          ⟨_, _, rfl⟩
        have hitem := hnode level cs
        rw [hscan] at hitem
        simp only [scanItems, hscan]
        split
        · exact Nat.max_le.mpr ⟨hitem, hitems _ _⟩
        · exact Nat.max_le.mpr ⟨hitem, Nat.zero_le _⟩
        · exact Nat.max_le.mpr ⟨hitem, Nat.zero_le _⟩
      case members =>
        obtain ⟨name, rest, hname⟩ : ∃ name rest, scanNode fuel level cs = (name, rest) :=
          ⟨_, _, rfl⟩
        simp only [scanMembers, hname]
        split
        · split
          · rename_i rest _
            obtain ⟨value, rest', hscan⟩ :
                ∃ value rest', scanNode fuel level rest = (value, rest') := ⟨_, _, rfl⟩
            have hvalue := hnode level rest
            rw [hscan] at hvalue
            simp only [hscan]
            split
            · exact Nat.max_le.mpr ⟨hvalue, hmembers _ _⟩
            · exact Nat.max_le.mpr ⟨hvalue, Nat.zero_le _⟩
            · exact Nat.max_le.mpr ⟨hvalue, Nat.zero_le _⟩
          · exact Nat.max_le.mpr ⟨Nat.zero_le _, Nat.zero_le _⟩
        · exact Nat.max_le.mpr ⟨Nat.zero_le _, Nat.zero_le _⟩

theorem depth_document_le (s : String) : (document s).1.depth ≤ deepestLevel :=
  (depth_scan_le _).1 0 _

/-- A value that a text is accepted as was taken from a node within the deepest level. -/
theorem exists_node_of_read {α : Type} {reader : Reader α} {s : String} {a : α}
    (hread : read reader s = .ok a) :
    ∃ node, reader .json node = .ok a ∧ node.depth ≤ deepestLevel := by
  obtain ⟨node, rest, hdocument⟩ : ∃ node rest, document s = (node, rest) := ⟨_, _, rfl⟩
  have hdepth := depth_document_le s
  rw [hdocument] at hdepth
  simp only [read, hdocument] at hread
  obtain ⟨value, hvalue, hread⟩ := bind_eq_ok_iff.mp hread
  split at hread
  · cases hread
    exact ⟨node, hvalue, hdepth⟩
  · cases hread

end Rulebook.Json
