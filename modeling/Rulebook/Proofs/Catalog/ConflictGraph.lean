import Mathlib.Algebra.BigOperators.Group.Finset.Sigma
import Mathlib.Combinatorics.Enumerative.DoubleCounting
import Mathlib.Combinatorics.SimpleGraph.Basic
import Mathlib.Data.Set.Card
import Rulebook.Proofs.Catalog.Conflicts

namespace Rulebook.ConflictGraph

variable {graph : ConflictGraph} {rules : List Rule} {a b : String}

theorem conflicts_iff : graph.conflicts a b = true ↔ ordered a b ∈ graph.pairs := by
  rw [conflicts, List.contains_iff_mem]

theorem conflicts_comm (graph : ConflictGraph) (a b : String) :
    graph.conflicts a b = graph.conflicts b a := by
  rw [conflicts, conflicts, ordered_comm]

theorem known_of_conflicts (h : graph.conflicts a b = true) :
    a ≠ b ∧ a ∈ graph.rules ∧ b ∈ graph.rules := by
  obtain ⟨hlt, hfst, hsnd⟩ := graph.pairs_known _ (conflicts_iff.mp h)
  have hne : a ≠ b := by
    rintro rfl
    rcases ordered_eq_or a a with hpair | hpair <;> rw [hpair] at hlt <;>
      exact String.lt_irrefl _ hlt
  rcases ordered_eq_or a b with hpair | hpair <;> rw [hpair] at hfst hsnd
  · exact ⟨hne, hfst, hsnd⟩
  · exact ⟨hne, hsnd, hfst⟩

theorem conflicts_self (graph : ConflictGraph) (a : String) : graph.conflicts a a = false :=
  Bool.eq_false_iff.mpr fun h => (known_of_conflicts h).1 rfl

theorem ordered_of_mem {pair : String × String} (hpair : pair ∈ graph.pairs) :
    ordered pair.1 pair.2 = pair := by
  rw [ordered, if_pos (graph.pairs_known pair hpair).1]

/-- The simple graph of the conflicts. -/
def toSimpleGraph (graph : ConflictGraph) : SimpleGraph String where
  Adj a b := graph.conflicts a b = true
  symm := ⟨fun a b h => (graph.conflicts_comm b a).trans h⟩
  loopless := ⟨fun _ h => (known_of_conflicts h).1 rfl⟩

theorem mem_edgeSet_toSimpleGraph {edge : Sym2 String} :
    edge ∈ graph.toSimpleGraph.edgeSet ↔ ∃ pair ∈ graph.pairs, s(pair.1, pair.2) = edge := by
  induction edge with
  | _ a b =>
    rw [SimpleGraph.mem_edgeSet]
    constructor
    · intro h
      refine ⟨ordered a b, conflicts_iff.mp h, ?_⟩
      rcases ordered_eq_or a b with hpair | hpair <;> rw [hpair]
      exact Sym2.eq_swap
    · rintro ⟨pair, hpair, hedge⟩
      refine conflicts_iff.mpr ?_
      rw [ordered_eq_iff.mpr (Sym2.eq_iff.mp hedge.symm), ordered_of_mem hpair]
      exact hpair

theorem encard_edgeSet (graph : ConflictGraph) :
    graph.toSimpleGraph.edgeSet.encard = graph.count := by
  have hedges : graph.toSimpleGraph.edgeSet =
      ((graph.pairs.map fun pair => s(pair.1, pair.2)).toFinset : Set (Sym2 String)) := by
    ext edge
    rw [mem_edgeSet_toSimpleGraph, List.coe_toFinset, Set.mem_ofPred_eq, List.mem_map]
  have hnodup : (graph.pairs.map fun pair => s(pair.1, pair.2)).Nodup := by
    refine List.Nodup.map_on ?_ graph.pairs_nodup
    intro p hp q hq heq
    rw [← ordered_of_mem hp, ← ordered_of_mem hq]
    exact ordered_eq_iff.mpr (Sym2.eq_iff.mp heq)
  rw [hedges, Set.encard_coe_eq_coe_finsetCard, List.toFinset_card_of_nodup hnodup,
    List.length_map, count]

theorem mem_neighbors_iff : b ∈ graph.neighbors a ↔ graph.conflicts a b = true := by
  rw [neighbors, List.mem_mergeSort, List.mem_filter]
  exact and_iff_right_of_imp fun h => (known_of_conflicts h).2.2

theorem neighbors_nodup (graph : ConflictGraph) (a : String) : (graph.neighbors a).Nodup :=
  (List.mergeSort_perm _ _).nodup_iff.mpr (graph.rules_nodup.filter _)

theorem neighbors_ascending (graph : ConflictGraph) (a : String) :
    (graph.neighbors a).Pairwise (· < ·) := by
  have hsorted : (graph.neighbors a).Pairwise (· ≤ ·) := by
    refine (List.pairwise_mergeSort ?_ ?_ _).imp of_decide_eq_true
    · intro a b c hab hbc
      exact decide_eq_true (String.le_trans (of_decide_eq_true hab) (of_decide_eq_true hbc))
    · intro a b
      simpa using String.le_total a b
  refine (hsorted.and (graph.neighbors_nodup a)).imp ?_
  rintro a b ⟨hle, hne⟩
  exact Decidable.byContradiction fun hlt => hne (String.le_antisymm hle (String.not_lt.mp hlt))

theorem length_neighbors (graph : ConflictGraph) (a : String) :
    (graph.neighbors a).length =
      (graph.pairs.toFinset.filter fun pair => a = pair.1 ∨ a = pair.2).card := by
  rw [← List.toFinset_card_of_nodup (graph.neighbors_nodup a)]
  refine Finset.card_nbij (ordered a) ?_ ?_ ?_
  · intro b hb
    rw [Finset.mem_coe, List.mem_toFinset, mem_neighbors_iff, conflicts_iff] at hb
    rw [Finset.coe_filter, Set.mem_ofPred_eq, List.mem_toFinset]
    refine ⟨hb, ?_⟩
    rcases ordered_eq_or a b with hpair | hpair <;> rw [hpair]
    · exact Or.inl rfl
    · exact Or.inr rfl
  · intro b _ c _ heq
    rcases ordered_eq_iff.mp heq with ⟨-, hbc⟩ | ⟨hac, hba⟩
    · exact hbc
    · exact hba.trans hac
  · intro pair hpair
    rw [Finset.coe_filter, Set.mem_ofPred_eq, List.mem_toFinset] at hpair
    obtain ⟨hpair, ha⟩ := hpair
    have hordered := ordered_of_mem hpair
    simp only [Set.mem_image, Finset.mem_coe, List.mem_toFinset, mem_neighbors_iff, conflicts_iff]
    rcases ha with rfl | rfl
    · exact ⟨pair.2, by rwa [hordered], hordered⟩
    · exact ⟨pair.1, by rwa [ordered_comm, hordered], by rw [ordered_comm, hordered]⟩

theorem sum_length_neighbors (graph : ConflictGraph) :
    ∑ a ∈ graph.rules.toFinset, (graph.neighbors a).length = 2 * graph.count := by
  have hends (pair : String × String) (hpair : pair ∈ graph.pairs.toFinset) :
      (graph.rules.toFinset.filter fun a => a = pair.1 ∨ a = pair.2).card = 2 := by
    obtain ⟨hlt, hfst, hsnd⟩ := graph.pairs_known pair (List.mem_toFinset.mp hpair)
    rw [Finset.card_eq_two]
    refine ⟨pair.1, pair.2, fun heq => String.lt_irrefl _ (heq ▸ hlt), ?_⟩
    ext a
    rw [Finset.mem_filter, List.mem_toFinset, Finset.mem_insert, Finset.mem_singleton]
    refine and_iff_right_of_imp ?_
    rintro (rfl | rfl)
    · exact hfst
    · exact hsnd
  calc ∑ a ∈ graph.rules.toFinset, (graph.neighbors a).length
    _ = ∑ a ∈ graph.rules.toFinset,
          (graph.pairs.toFinset.filter fun pair => a = pair.1 ∨ a = pair.2).card :=
        Finset.sum_congr rfl fun a _ => graph.length_neighbors a
    _ = ∑ pair ∈ graph.pairs.toFinset,
          (graph.rules.toFinset.filter fun a => a = pair.1 ∨ a = pair.2).card :=
        Finset.sum_card_bipartiteAbove_eq_sum_card_bipartiteBelow _
    _ = ∑ _pair ∈ graph.pairs.toFinset, 2 := Finset.sum_congr rfl hends
    _ = 2 * graph.count := by
        rw [Finset.sum_const, List.toFinset_card_of_nodup graph.pairs_nodup, smul_eq_mul,
          Nat.mul_comm, count]

/-- The graph after conflicts were added one after the other. -/
def addConflicts (graph : ConflictGraph) (added : List (String × String)) : ConflictGraph :=
  added.foldl (fun graph pair => graph.addConflict pair.1 pair.2) graph

theorem rules_addConflicts (graph : ConflictGraph) (added : List (String × String)) :
    (graph.addConflicts added).rules = graph.rules := by
  induction added generalizing graph with
  | nil => rfl
  | cons pair added ih => exact (ih _).trans (rules_addConflict graph pair.1 pair.2)

theorem mem_rules_ofRules {id : String} : id ∈ (ofRules rules).rules ↔ id ∈ rules.map Rule.id := by
  have hrules : (ofRules rules).rules =
      (rules.foldl (fun graph rule => graph.addRule rule.id) empty).rules :=
    rules_addConflicts _ _
  rw [hrules, mem_rules_addRules]
  simp [empty]

/-- Adding conflicts adds those of known and different ids, in either order, and no others. -/
theorem conflicts_addConflicts_iff {added : List (String × String)} :
    (graph.addConflicts added).conflicts a b = true ↔ graph.conflicts a b = true ∨
      (a ≠ b ∧ a ∈ graph.rules ∧ b ∈ graph.rules) ∧ ((a, b) ∈ added ∨ (b, a) ∈ added) := by
  rw [conflicts_iff, conflicts_iff, addConflicts, mem_pairs_addConflicts]
  refine or_congr_right ?_
  constructor
  · rintro ⟨⟨c, d⟩, hadded, ⟨hne, hc, hd⟩, hpair⟩
    rcases ordered_eq_iff.mp hpair with ⟨rfl, rfl⟩ | ⟨rfl, rfl⟩
    · exact ⟨⟨hne, hc, hd⟩, Or.inl hadded⟩
    · exact ⟨⟨hne.symm, hd, hc⟩, Or.inr hadded⟩
  · rintro ⟨⟨hne, ha, hb⟩, hadded | hadded⟩
    · exact ⟨(a, b), hadded, ⟨hne, ha, hb⟩, rfl⟩
    · exact ⟨(b, a), hadded, ⟨hne.symm, hb, ha⟩, ordered_comm b a⟩

theorem isSome_addConflict?_iff :
    (graph.addConflict? a b).isSome = true ↔ a ≠ b ∧ a ∈ graph.rules ∧ b ∈ graph.rules := by
  rw [addConflict?]
  split
  · rename_i h
    split <;> simp [h]
  · rename_i h
    simp [h]

/-- The graph knows the conflicts that rules declare among themselves and those that were added, as
the edges of a simple graph between the ids of the rules, and it can be asked and extended as
one. -/
structure Records (graph : ConflictGraph) (rules : List Rule) (added : List (String × String)) :
    Prop where
  conflicts_iff : ∀ a b, graph.conflicts a b = true ↔
    (a ≠ b ∧ a ∈ rules.map Rule.id ∧ b ∈ rules.map Rule.id) ∧
      (ConflictDeclared rules a b ∨ (a, b) ∈ added ∨ (b, a) ∈ added)
  symmetric : ∀ a b, graph.conflicts a b = graph.conflicts b a
  loopless : ∀ a, graph.conflicts a a = false
  count_edges : graph.toSimpleGraph.edgeSet.encard = graph.count
  neighbors_ascending : ∀ a, (graph.neighbors a).Pairwise (· < ·)
  mem_neighbors_iff : ∀ a b, b ∈ graph.neighbors a ↔ graph.conflicts a b = true
  sum_neighbors :
    ∑ a ∈ (rules.map Rule.id).toFinset, (graph.neighbors a).length = 2 * graph.count
  accepts_iff : ∀ a b, (graph.addConflict? a b).isSome = true ↔
    a ≠ b ∧ a ∈ rules.map Rule.id ∧ b ∈ rules.map Rule.id
  refused : ∀ a b, graph.addConflict? a b = none → graph.addConflict a b = graph

/-- Whatever rules a graph is made of and whatever conflicts are added to it, it is the simple graph
of the conflicts that were declared or added. -/
theorem addConflicts_records (rules : List Rule) (added : List (String × String)) :
    Records ((ofRules rules).addConflicts added) rules added := by
  have hknown (id : String) :
      id ∈ ((ofRules rules).addConflicts added).rules ↔ id ∈ rules.map Rule.id := by
    rw [rules_addConflicts, mem_rules_ofRules]
  constructor
  case conflicts_iff =>
    intro a b
    rw [conflicts_addConflicts_iff, conflicts_ofRules_iff, mem_rules_ofRules, mem_rules_ofRules,
      ← and_or_left]
  case symmetric => exact conflicts_comm _
  case loopless => exact conflicts_self _
  case count_edges => exact encard_edgeSet _
  case neighbors_ascending => exact neighbors_ascending _
  case mem_neighbors_iff => exact fun _ _ => mem_neighbors_iff
  case sum_neighbors =>
    rw [← sum_length_neighbors]
    refine Finset.sum_congr ?_ fun _ _ => rfl
    ext id
    rw [List.mem_toFinset, List.mem_toFinset, hknown]
  case accepts_iff =>
    intro a b
    rw [isSome_addConflict?_iff, hknown, hknown]
  case refused =>
    intro a b h
    rw [addConflict, h, Option.getD_none]

/-- Two rules of one id, conflicts with the rule itself and with none there is, and one that is
declared and then added from the other side. -/
example :
    ((ofRules [((Rule.new "a" .warn).addConflict "a").addConflict "ghost",
        (Rule.new "a" .info).addConflict "b", Rule.new "b" .warn, Rule.new "c" .info]).addConflicts
      [("b", "a"), ("c", "c"), ("c", "ghost"), ("b", "c")]).pairs = [("a", "b"), ("b", "c")] := by
  decide

end Rulebook.ConflictGraph
