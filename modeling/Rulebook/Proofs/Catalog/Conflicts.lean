import Mathlib.Data.List.Nodup
import Rulebook.Proofs.Catalog.Validation
import Rulebook.Resolution

namespace Rulebook

/-- One of the two rules names the other as conflicting. -/
def Rule.Opposes (a b : Rule) : Prop :=
  b.id ∈ a.conflictsWith ∨ a.id ∈ b.conflictsWith

theorem Rule.opposes_comm {a b : Rule} : a.Opposes b ↔ b.Opposes a :=
  Or.comm

theorem CatalogDocument.Consistent.id_ne_of_opposes {document : CatalogDocument}
    (h : document.Consistent) {a b : Rule} (ha : a ∈ document.rules) (hb : b ∈ document.rules)
    (hopposed : a.Opposes b) : a.id ≠ b.id := by
  rcases hopposed with hother | hother
  · exact (h.conflicts_known a ha _ hother).1.symm
  · exact (h.conflicts_known b hb _ hother).1

/-- One of the rules declares that the rules of two ids conflict. -/
def ConflictDeclared (rules : List Rule) (a b : String) : Prop :=
  ∃ rule ∈ rules, rule.id = a ∧ b ∈ rule.conflictsWith ∨ rule.id = b ∧ a ∈ rule.conflictsWith

theorem conflictDeclared_iff {rules : List Rule} (hdistinct : (rules.map Rule.id).Nodup)
    {a b : Rule} (ha : a ∈ rules) (hb : b ∈ rules) :
    ConflictDeclared rules a.id b.id ↔ a.Opposes b := by
  constructor
  · rintro ⟨rule, hrule, ⟨hid, hother⟩ | ⟨hid, hother⟩⟩
    · rw [Index.eq_of_key_eq hdistinct hrule ha hid] at hother
      exact Or.inl hother
    · rw [Index.eq_of_key_eq hdistinct hrule hb hid] at hother
      exact Or.inr hother
  · rintro (hother | hother)
    · exact ⟨a, ha, Or.inl ⟨rfl, hother⟩⟩
    · exact ⟨b, hb, Or.inr ⟨rfl, hother⟩⟩

theorem Rule.declares_iff {rule : Rule} {other : String} :
    rule.declares other = true ↔ other ∈ rule.conflictsWith := by
  rw [Rule.declares, List.contains_iff_mem]

namespace ConflictGraph

theorem ordered_eq_or (a b : String) : ordered a b = (a, b) ∨ ordered a b = (b, a) := by
  rw [ordered]
  split
  · exact Or.inl rfl
  · exact Or.inr rfl

theorem ordered_comm (a b : String) : ordered a b = ordered b a := by
  by_cases hab : a < b
  · have hba : ¬ b < a := fun hba => String.lt_irrefl _ (String.lt_trans hab hba)
    rw [ordered, ordered, if_pos hab, if_neg hba]
  · by_cases hba : b < a
    · rw [ordered, ordered, if_neg hab, if_pos hba]
    · rw [String.le_antisymm (String.not_lt.mp hba) (String.not_lt.mp hab)]

theorem ordered_eq_iff {a b c d : String} :
    ordered a b = ordered c d ↔ a = c ∧ b = d ∨ a = d ∧ b = c := by
  constructor
  · intro h
    rcases ordered_eq_or a b with hab | hab <;> rcases ordered_eq_or c d with hcd | hcd <;>
      rw [hab, hcd, Prod.mk.injEq] at h
    · exact Or.inl h
    · exact Or.inr h
    · exact Or.inr h.symm
    · exact Or.inl h.symm
  · rintro (⟨rfl, rfl⟩ | ⟨rfl, rfl⟩)
    · rfl
    · exact ordered_comm a b

theorem mem_rules_addRule {graph : ConflictGraph} {id known : String} :
    known ∈ (graph.addRule id).rules ↔ known = id ∨ known ∈ graph.rules := by
  rw [addRule]
  split
  · rename_i h
    constructor
    · exact Or.inr
    · rintro (rfl | hknown)
      · exact h
      · exact hknown
  · simp [or_comm]

theorem pairs_addRule (graph : ConflictGraph) (id : String) :
    (graph.addRule id).pairs = graph.pairs := by
  rw [addRule]
  split <;> rfl

theorem mem_rules_addRules {rules : List Rule} {graph : ConflictGraph} {known : String} :
    known ∈ (rules.foldl (fun graph rule => graph.addRule rule.id) graph).rules ↔
      known ∈ rules.map Rule.id ∨ known ∈ graph.rules := by
  induction rules generalizing graph with
  | nil => simp
  | cons rule rules ih =>
      rw [List.foldl_cons, ih, mem_rules_addRule, List.map_cons, List.mem_cons]
      exact or_left_comm.trans or_assoc.symm

theorem pairs_addRules (rules : List Rule) (graph : ConflictGraph) :
    (rules.foldl (fun graph rule => graph.addRule rule.id) graph).pairs = graph.pairs := by
  induction rules generalizing graph with
  | nil => rfl
  | cons rule rules ih => rw [List.foldl_cons, ih, pairs_addRule]

theorem rules_addConflict (graph : ConflictGraph) (a b : String) :
    (graph.addConflict a b).rules = graph.rules := by
  rw [addConflict, addConflict?]
  split
  · split <;> rfl
  · rfl

theorem mem_pairs_addConflict {graph : ConflictGraph} {a b : String} {pair : String × String} :
    pair ∈ (graph.addConflict a b).pairs ↔
      pair ∈ graph.pairs ∨ (a ≠ b ∧ a ∈ graph.rules ∧ b ∈ graph.rules) ∧ ordered a b = pair := by
  rw [addConflict, addConflict?]
  split
  · rename_i h
    split
    · rename_i hpair
      constructor
      · exact Or.inl
      · rintro (hmem | ⟨-, rfl⟩)
        · exact hmem
        · exact hpair
    · simp [h, eq_comm]
  · rename_i h
    simp [h]

theorem mem_pairs_addConflicts {declared : List (String × String)} {graph : ConflictGraph}
    {pair : String × String} :
    pair ∈ (declared.foldl (fun graph d => graph.addConflict d.1 d.2) graph).pairs ↔
      pair ∈ graph.pairs ∨ ∃ d ∈ declared,
        (d.1 ≠ d.2 ∧ d.1 ∈ graph.rules ∧ d.2 ∈ graph.rules) ∧ ordered d.1 d.2 = pair := by
  induction declared generalizing graph with
  | nil => simp
  | cons d declared ih =>
      rw [List.foldl_cons, ih, mem_pairs_addConflict, rules_addConflict, or_assoc]
      simp only [List.mem_cons, exists_eq_or_imp]

/-- The graph of rules knows a conflict exactly when it is declared between two of them. -/
theorem conflicts_ofRules_iff {rules : List Rule} {a b : String} :
    (ofRules rules).conflicts a b = true ↔
      (a ≠ b ∧ a ∈ rules.map Rule.id ∧ b ∈ rules.map Rule.id) ∧ ConflictDeclared rules a b := by
  have hknown (id : String) : id ∈ (rules.foldl (fun graph rule => graph.addRule rule.id)
      empty).rules ↔ id ∈ rules.map Rule.id := by
    rw [mem_rules_addRules]
    simp [empty]
  rw [conflicts, List.contains_iff_mem, ofRules, mem_pairs_addConflicts, pairs_addRules]
  simp only [hknown]
  constructor
  · rintro (h | ⟨d, hd, ⟨hne, hfst, hsnd⟩, hpair⟩)
    · simp [empty] at h
    · obtain ⟨rule, hrule, hdeclared⟩ := List.mem_flatMap.mp hd
      obtain ⟨other, hother, rfl⟩ := List.mem_map.mp hdeclared
      rcases ordered_eq_iff.mp hpair with ⟨rfl, rfl⟩ | ⟨rfl, rfl⟩
      · exact ⟨⟨hne, hfst, hsnd⟩, rule, hrule, Or.inl ⟨rfl, hother⟩⟩
      · exact ⟨⟨hne.symm, hsnd, hfst⟩, rule, hrule, Or.inr ⟨rfl, hother⟩⟩
  · rintro ⟨⟨hne, ha, hb⟩, rule, hrule, ⟨rfl, hother⟩ | ⟨rfl, hother⟩⟩
    · exact Or.inr ⟨(rule.id, b), List.mem_flatMap_of_mem hrule (List.mem_map_of_mem hother),
        ⟨hne, ha, hb⟩, rfl⟩
    · exact Or.inr ⟨(rule.id, a), List.mem_flatMap_of_mem hrule (List.mem_map_of_mem hother),
        ⟨hne.symm, hb, ha⟩, ordered_comm _ _⟩

end ConflictGraph

theorem Catalog.Holds.conflicts_iff {catalog : Catalog} {document : CatalogDocument}
    (h : catalog.Holds document) (hconsistent : document.Consistent) {a b : Rule}
    (ha : a ∈ catalog.rules.entries) (hb : b ∈ catalog.rules.entries) :
    catalog.conflictGraph.conflicts a.id b.id = true ↔ a.Opposes b := by
  have hdistinct := Index.nodup_of_ascending catalog.rules.ascending
  rw [h.conflictGraph, ConflictGraph.conflicts_ofRules_iff, conflictDeclared_iff hdistinct ha hb]
  refine and_iff_right_of_imp fun hopposed => ⟨?_, List.mem_map_of_mem ha, List.mem_map_of_mem hb⟩
  exact hconsistent.id_ne_of_opposes ((h.rules a).mp ha) ((h.rules b).mp hb) hopposed

theorem Resolution.inConflict_comm (graph : ConflictGraph) (a b : Rule) :
    inConflict graph a b = inConflict graph b a := by
  rw [inConflict, inConflict, ConflictGraph.conflicts, ConflictGraph.conflicts,
    ConflictGraph.ordered_comm, Bool.or_right_comm]

/-- Two rules of a catalog are in conflict when one of them says so: the graph adds nothing. -/
theorem Catalog.Holds.inConflict_iff {catalog : Catalog} {document : CatalogDocument}
    (h : catalog.Holds document) {a b : Rule} (ha : a ∈ document.rules) (hb : b ∈ document.rules) :
    Resolution.inConflict catalog.conflictGraph a b = true ↔ a.Opposes b := by
  rw [Resolution.inConflict, Bool.or_eq_true, Bool.or_eq_true, Rule.declares_iff,
    Rule.declares_iff, or_assoc]
  refine or_iff_right_of_imp fun hgraph => ?_
  rw [h.conflictGraph, ConflictGraph.conflicts_ofRules_iff] at hgraph
  have hdistinct := Index.nodup_of_ascending catalog.rules.ascending
  exact (conflictDeclared_iff hdistinct ((h.rules a).mpr ha) ((h.rules b).mpr hb)).mp hgraph.2

end Rulebook
