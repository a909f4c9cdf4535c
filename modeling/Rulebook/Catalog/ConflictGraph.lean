import Rulebook.Catalog.Definition

namespace Rulebook

/-- Known rules and the pairs of them that conflict. -/
structure ConflictGraph where
  rules : List String
  pairs : List (String × String)
  rules_nodup : rules.Nodup
  pairs_nodup : pairs.Nodup
  pairs_known : ∀ pair ∈ pairs, pair.1 < pair.2 ∧ pair.1 ∈ rules ∧ pair.2 ∈ rules

namespace ConflictGraph

/-- No rules. -/
def empty : ConflictGraph :=
  ⟨[], [], List.nodup_nil, List.nodup_nil, by simp⟩

/-- The graph with one more rule, unless it is known. -/
def addRule (graph : ConflictGraph) (id : String) : ConflictGraph :=
  if h : id ∈ graph.rules then graph
  else
    { graph with
      rules := graph.rules ++ [id]
      rules_nodup := by
        refine List.nodup_append.2 ⟨graph.rules_nodup, by simp, ?_⟩
        intro a ha b hb
        rw [List.mem_singleton.1 hb]
        exact fun hab => h (hab ▸ ha)
      pairs_known := fun pair hpair =>
        let ⟨hlt, ha, hb⟩ := graph.pairs_known pair hpair
        ⟨hlt, List.mem_append_left _ ha, List.mem_append_left _ hb⟩ }

/-- Two ids, the smaller one first. -/
def ordered (a b : String) : String × String :=
  if a < b then (a, b) else (b, a)

theorem ordered_lt {a b : String} (h : a ≠ b) : (ordered a b).1 < (ordered a b).2 := by
  unfold ordered
  split
  · assumption
  · rename_i hab
    exact Decidable.byContradiction fun hba =>
      h (String.le_antisymm (String.not_lt.1 hba) (String.not_lt.1 hab))

theorem ordered_mem {a b : String} {ids : List String} (ha : a ∈ ids) (hb : b ∈ ids) :
    (ordered a b).1 ∈ ids ∧ (ordered a b).2 ∈ ids := by
  unfold ordered
  split <;> simp [ha, hb]

/-- The graph with a conflict between two of its rules; nothing when one is unknown or both are the
same. -/
def addConflict? (graph : ConflictGraph) (a b : String) : Option ConflictGraph :=
  if h : a ≠ b ∧ a ∈ graph.rules ∧ b ∈ graph.rules then
    if hpair : ordered a b ∈ graph.pairs then some graph
    else
      some { graph with
        pairs := graph.pairs ++ [ordered a b]
        pairs_nodup := by
          refine List.nodup_append.2 ⟨graph.pairs_nodup, by simp, ?_⟩
          intro p hp q hq
          rw [List.mem_singleton.1 hq]
          exact fun hpq => hpair (hpq ▸ hp)
        pairs_known := by
          intro pair hmem
          rcases List.mem_append.1 hmem with hmem | hmem
          · exact graph.pairs_known pair hmem
          · rw [List.mem_singleton.1 hmem]
            exact ⟨ordered_lt h.1, ordered_mem h.2.1 h.2.2⟩ }
  else none

/-- The graph with a conflict, if its two rules are known and different. -/
def addConflict (graph : ConflictGraph) (a b : String) : ConflictGraph :=
  (graph.addConflict? a b).getD graph

/-- The graph of the conflicts that rules declare among themselves. -/
def ofRules (rules : List Rule) : ConflictGraph :=
  let known := rules.foldl (fun graph rule => graph.addRule rule.id) empty
  let declared := rules.flatMap fun rule => rule.conflictsWith.map fun other => (rule.id, other)
  declared.foldl (fun graph pair => graph.addConflict pair.1 pair.2) known

def conflicts (graph : ConflictGraph) (a b : String) : Bool :=
  graph.pairs.contains (ordered a b)

/-- The rules that conflict with a rule, in ascending order. -/
def neighbors (graph : ConflictGraph) (id : String) : List String :=
  (graph.rules.filter (graph.conflicts id)).mergeSort fun a b => a ≤ b

def count (graph : ConflictGraph) : Nat :=
  graph.pairs.length

end ConflictGraph

end Rulebook
