import Mathlib.Data.Prod.Lex
import Mathlib.Logic.Relation
import Rulebook.Proofs.Catalog.Conflicts
import Rulebook.Proofs.Resolution.Settlement

/-!
Why a rule was dropped. Each dropped rule was looked at beside a stronger one. That rule may have
been dropped later on, but then by one that is stronger still, so going on in this way ends at a
rule that remains.
-/

namespace Rulebook

/-- How strong the rules of a severity are. -/
def Severity.strength : Severity → Nat
  | .error => 2
  | .warn => 1
  | .info => 0

theorem Severity.strength_le (severity : Severity) : severity.strength ≤ 2 := by
  cases severity <;> decide

namespace Resolution

variable {graph : ConflictGraph} {rules kept : List Rule} {p q : Nat}

/-- The first rule, at its position, is stronger than the second one at its own: by its severity,
or by standing earlier if the severities are the same. -/
def Stronger (x y : Rule × Nat) : Prop :=
  y.1.severity.strength < x.1.severity.strength ∨ x.1.severity = y.1.severity ∧ x.2 < y.2

/-- The rule at the first position conflicts with a stronger one at the second position. -/
def Overruled (graph : ConflictGraph) (rules : List Rule) (p q : Nat) : Prop :=
  ∃ a b, rules[p]? = some a ∧ rules[q]? = some b ∧ inConflict graph a b = true ∧
    Stronger (b, q) (a, p)

theorem strength_lt_of_dropFirst {a b : Severity} (h : settle a b = .dropFirst) :
    a.strength < b.strength := by
  cases a <;> cases b <;> first | decide | cases h

theorem strength_lt_or_eq_of_dropSecond {a b : Severity} (h : settle a b = .dropSecond) :
    b.strength < a.strength ∨ a = b := by
  cases a <;> cases b <;> first | decide | cases h

theorem exists_overruled_of_drops {pair : (Rule × Nat) × (Rule × Nat)}
    (hpair : pair ∈ orderedPairs rules.zipIdx) (hdrops : Scan.Drops graph pair p) :
    ∃ q, Overruled graph rules p q := by
  obtain ⟨⟨a, i⟩, ⟨b, j⟩⟩ := pair
  obtain ⟨ha, hb⟩ := mem_of_mem_orderedPairs hpair
  rw [List.mem_zipIdx_iff_getElem?] at ha hb
  have hij : i < j := pairwise_iff_orderedPairs.mp (positions_ascending rules) _ hpair
  obtain ⟨hconflict, ⟨hsettle, rfl⟩ | ⟨hsettle, rfl⟩⟩ := hdrops
  · exact ⟨j, a, b, ha, hb, hconflict, Or.inl (strength_lt_of_dropFirst hsettle)⟩
  · refine ⟨i, b, a, hb, ha, (inConflict_comm graph b a).trans hconflict, ?_⟩
    exact (strength_lt_or_eq_of_dropSecond hsettle).imp_right fun heq => ⟨heq, hij⟩

theorem exists_overruled_of_dropped (h : p ∈ (scan graph rules).dropped) :
    ∃ q, Overruled graph rules p q := by
  obtain ⟨pair, hpair, hdrops⟩ := exists_drops_of_mem_dropped h
  exact exists_overruled_of_drops hpair hdrops

/-- A position by its severity, the highest first, and then by its place. -/
def standing (rules : List Rule) (p : Nat) : Nat × Nat :=
  ((rules[p]?.map fun rule => 2 - rule.severity.strength).getD 0, p)

theorem standing_lt_of_overruled (h : Overruled graph rules p q) :
    Prod.Lex (· < ·) (· < ·) (standing rules q) (standing rules p) := by
  obtain ⟨a, b, ha, hb, -, hseverity | ⟨hseverity, hplace⟩⟩ := h
  · have hle := b.severity.strength_le
    apply Prod.Lex.left
    simp only [ha, hb, Option.map_some, Option.getD_some]
    simp only at hseverity
    omega
  · rw [standing, standing, ha, hb, Option.map_some, Option.map_some, hseverity]
    exact Prod.Lex.right _ hplace

/-- There is no endless way from a rule to stronger and stronger ones. -/
theorem wellFounded_overruled (graph : ConflictGraph) (rules : List Rule) :
    WellFounded fun q p => Overruled graph rules p q :=
  Subrelation.wf (fun h => standing_lt_of_overruled h)
    (InvImage.wf (standing rules) (Prod.lex ⟨_, wellFounded_lt⟩ ⟨_, wellFounded_lt⟩).wf)

/-- From a dropped rule, stronger rules in conflict lead to one that is not dropped. -/
theorem exists_transGen_of_dropped (h : p ∈ (scan graph rules).dropped) :
    ∃ q, q ∉ (scan graph rules).dropped ∧ Relation.TransGen (Overruled graph rules) p q := by
  induction p using (wellFounded_overruled graph rules).induction with
  | _ p ih =>
    obtain ⟨q, hq⟩ := exists_overruled_of_dropped h
    by_cases hdropped : q ∈ (scan graph rules).dropped
    · obtain ⟨r, hr, hchain⟩ := ih q hq hdropped
      exact ⟨r, hr, Relation.TransGen.head hq hchain⟩
    · exact ⟨q, hdropped, Relation.TransGen.single hq⟩

/-- All that is removed and all that is kept is accounted for. -/
structure Accounted (graph : ConflictGraph) (rules : List Rule) (removed : List Nat)
    (kept : List Rule) : Prop where
  kept_eq : kept = rulesAt rules fun p => !removed.contains p
  weak : ∀ p ∈ removed, ∃ rule, rules[p]? = some rule ∧ rule.severity ≠ .error
  overruled : ∀ p ∈ removed, ∃ q < rules.length, q ∉ removed ∧
    Relation.TransGen (Overruled graph rules) p q

/-- What remains is the list without some rules, none of them of severity error. From each of these,
stronger and stronger rules, each in conflict with the one before, lead to a rule that remains.
Settling what remains again changes nothing. -/
theorem settleAll_accounted (h : settleAll graph rules = .resolved kept) :
    Accounted graph rules (scan graph rules).dropped kept ∧
      settleAll graph kept = .resolved kept := by
  have hclear := (resolved_of_settleAll h).2.2
  obtain ⟨-, rfl⟩ := settleAll_eq_resolved_iff.mp h
  refine ⟨⟨rfl, ?_, ?_⟩, settleAll_of_clear hclear⟩
  · intro p hp
    obtain ⟨q, a, -, ha, -⟩ := exists_overruled_of_dropped hp
    refine ⟨a, ha, fun herror => ?_⟩
    have hitem : (a, p) ∈ rules.zipIdx := List.mem_zipIdx_iff_getElem?.mpr ha
    exact (scan_keepsErrors graph rules).1 _ hitem herror hp
  · intro p hp
    obtain ⟨q, hq, hchain⟩ := exists_transGen_of_dropped hp
    obtain ⟨-, -, -, b, -, hb, -⟩ := Relation.TransGen.tail'_iff.mp hchain
    exact ⟨q, (List.getElem?_eq_some_iff.mp hb).1, hq, hchain⟩

/-- A rule, one that drops it, and one that drops this in turn. -/
def relayRules : List Rule :=
  [(Rule.new "draft" .info).addConflict "plan", (Rule.new "plan" .warn).addConflict "law",
    Rule.new "law" .error]

theorem settleAll_accounted_relay :
    settleAll .empty relayRules = .resolved [Rule.new "law" .error] ∧
      (scan .empty relayRules).dropped = [1, 0] ∧
      Accounted .empty relayRules [1, 0] [Rule.new "law" .error] ∧
      settleAll .empty [Rule.new "law" .error] = .resolved [Rule.new "law" .error] := by
  have h : settleAll .empty relayRules = .resolved [Rule.new "law" .error] := rfl
  obtain ⟨haccounted, hagain⟩ := settleAll_accounted h
  exact ⟨h, rfl, haccounted, hagain⟩

end Resolution

end Rulebook
