import Rulebook.Proofs.Resolution.Settlement

/-!
The scan as a recursion on the rules that are left. The first rule is held against the ones behind
it, and what it leaves of them is reduced in the same way. The marks of the scan, read off at the
end, say the same as the shrinking list.
-/

namespace Rulebook.Resolution

/-- How a rule fares against the rules behind it, and what it leaves of them. -/
structure Row where
  alive : Bool
  kept : List Rule
  conflicts : List Conflict

/-- Holds a rule against the rules behind it, from left to right. Two errors in conflict are both
kept and reported. The first stronger rule ends this: that rule and all behind it are kept as they
are. -/
def row (graph : ConflictGraph) (a : Rule) : List Rule → Row
  | [] => ⟨true, [], []⟩
  | b :: rest =>
      let tail := row graph a rest
      if inConflict graph a b then
        if a.severity = .error ∧ b.severity = .error then
          ⟨tail.alive, b :: tail.kept, Conflict.betweenErrors a.id b.id :: tail.conflicts⟩
        else if settle a.severity b.severity = .dropFirst then ⟨false, b :: rest, []⟩
        else tail
      else ⟨tail.alive, b :: tail.kept, tail.conflicts⟩

theorem length_kept_row_le (graph : ConflictGraph) (a : Rule) (rules : List Rule) :
    (row graph a rules).kept.length ≤ rules.length := by
  induction rules with
  | nil => exact Nat.le_refl _
  | cons b rest ih =>
      rw [row]
      split
      · split
        · exact Nat.succ_le_succ ih
        · split
          · exact Nat.le_refl _
          · exact Nat.le_succ_of_le ih
      · exact Nat.succ_le_succ ih

/-- What a reduction keeps, and the conflicts it found. -/
structure Reduction where
  kept : List Rule
  conflicts : List Conflict

/-- Holds the first rule against the ones behind it and goes on with those that it leaves. -/
def reduce (graph : ConflictGraph) : List Rule → Reduction
  | [] => ⟨[], []⟩
  | a :: rest =>
      let first := row graph a rest
      let others := reduce graph first.kept
      ⟨if first.alive then a :: others.kept else others.kept, first.conflicts ++ others.conflicts⟩
termination_by rules => rules.length
decreasing_by exact Nat.lt_succ_of_le (length_kept_row_le graph a rest)

/-- The conflicts, if there are any, and else the rules that were kept. -/
def Reduction.settlement (reduction : Reduction) : Settlement :=
  if reduction.conflicts.isEmpty then .resolved reduction.kept else .blocked reduction.conflicts

namespace Scan

variable {graph : ConflictGraph} {scan : Scan} {a : Rule} {i p : Nat} {items : List (Rule × Nat)}

/-- The pairs of one rule with the items behind it. -/
def rowOf (a : Rule) (i : Nat) (items : List (Rule × Nat)) : List ((Rule × Nat) × (Rule × Nat)) :=
  items.map fun item => ((a, i), item)

theorem foldl_rowOf_of_mem (h : i ∈ scan.dropped) :
    (rowOf a i items).foldl (step graph) scan = scan := by
  induction items with
  | nil => rfl
  | cons item items ih =>
      rw [rowOf, List.map_cons, List.foldl_cons, step_of_skip (Or.inl h)]
      exact ih

theorem notMem_foldl_rowOf (hp : p ∉ scan.dropped) (hne : p ≠ i) (hitems : p ∉ items.map Prod.snd) :
    p ∉ ((rowOf a i items).foldl (step graph) scan).dropped := by
  apply notMem_dropped_foldl hp
  intro pair hpair
  obtain ⟨item, hitem, rfl⟩ := List.mem_map.mp hpair
  refine ⟨hne.symm, ?_⟩
  rintro rfl
  exact hitems (List.mem_map_of_mem hitem)

theorem notMem_foldl_orderedPairs (hp : p ∉ scan.dropped) (hitems : p ∉ items.map Prod.snd) :
    p ∉ ((orderedPairs items).foldl (step graph) scan).dropped := by
  apply notMem_dropped_foldl hp
  intro pair hpair
  obtain ⟨hfirst, hsecond⟩ := mem_of_mem_orderedPairs hpair
  have hne {item : Rule × Nat} (hitem : item ∈ items) : item.2 ≠ p := by
    rintro rfl
    exact hitems (List.mem_map_of_mem hitem)
  exact ⟨hne hfirst, hne hsecond⟩

/-- After the conflicts found so far, the scan has come to what the row of the rule at a position
says of the items behind it. -/
structure FollowsRow (scan : Scan) (found : List Conflict) (i : Nat) (items : List (Rule × Nat))
    (row : Row) : Prop where
  remaining : scan.remaining items = row.kept
  dropped : i ∈ scan.dropped ↔ row.alive = false
  conflicts : scan.conflicts = found ++ row.conflicts

namespace FollowsRow

variable {found : List Conflict} {row : Row} {b : Rule} {j : Nat}

theorem cons_of_mem (h : scan.FollowsRow found i items row) (hj : j ∈ scan.dropped) :
    scan.FollowsRow found i ((b, j) :: items) row :=
  ⟨(remaining_cons_of_mem hj).trans h.remaining, h.dropped, h.conflicts⟩

theorem cons_of_notMem (h : scan.FollowsRow found i items row) (hj : j ∉ scan.dropped) :
    scan.FollowsRow found i ((b, j) :: items) { row with kept := b :: row.kept } := by
  refine ⟨?_, h.dropped, h.conflicts⟩
  rw [remaining_cons_of_notMem hj, h.remaining]

theorem report {conflict : Conflict} (h : scan.FollowsRow (found ++ [conflict]) i items row) :
    scan.FollowsRow found i items { row with conflicts := conflict :: row.conflicts } := by
  refine ⟨h.remaining, h.dropped, ?_⟩
  rw [h.conflicts, List.append_assoc]
  rfl

end FollowsRow

/-- The pairs of one rule do to the marks what its row does to the list of those that remain. -/
theorem followsRow (graph : ConflictGraph) (a : Rule) (scan : Scan)
    (hdistinct : (i :: items.map Prod.snd).Nodup) (hi : i ∉ scan.dropped) :
    ((rowOf a i items).foldl (step graph) scan).FollowsRow scan.conflicts i items
      (row graph a (scan.remaining items)) := by
  induction items generalizing scan with
  | nil =>
      exact ⟨rfl, by simp [rowOf, row, remaining, hi], by simp [rowOf, row, remaining]⟩
  | cons item rest ih =>
      obtain ⟨b, j⟩ := item
      obtain ⟨hfirst, hrest⟩ := List.nodup_cons.mp hdistinct
      obtain ⟨hj, hrest⟩ := List.nodup_cons.mp hrest
      obtain ⟨hij, hirest⟩ : i ≠ j ∧ i ∉ rest.map Prod.snd := by simpa using hfirst
      have ih (scan : Scan) (hi : i ∉ scan.dropped) :=
        ih scan (List.nodup_cons.mpr ⟨hirest, hrest⟩) hi
      have hstays (scan : Scan) (hdropped : j ∉ scan.dropped) :
          j ∉ ((rowOf a i rest).foldl (step graph) scan).dropped :=
        notMem_foldl_rowOf hdropped hij.symm hj
      rw [rowOf, List.map_cons, List.foldl_cons, ← rowOf]
      by_cases hdropped : j ∈ scan.dropped
      · rw [step_of_skip (Or.inr (Or.inl hdropped)), remaining_cons_of_mem hdropped]
        exact (ih scan hi).cons_of_mem (dropped_subset_foldl graph scan _ hdropped)
      rw [remaining_cons_of_notMem hdropped, row]
      by_cases hconflict : inConflict graph a b = true
      · rw [if_pos hconflict, step_of_conflict hi hdropped hconflict]
        simp only [← settle_eq_block_iff]
        cases settle a.severity b.severity with
        | block =>
            rw [if_pos rfl]
            let blocked : Scan :=
              { scan with conflicts := scan.conflicts ++ [Conflict.betweenErrors a.id b.id] }
            exact ((ih blocked hi).cons_of_notMem (hstays blocked hdropped)).report
        | dropFirst =>
            -- the row ends here: no later pair of this rule is looked at
            rw [if_neg (by decide), if_pos rfl, foldl_rowOf_of_mem List.mem_cons_self]
            refine ⟨?_, by simp, by simp⟩
            rw [remaining_drop hfirst, remaining_cons_of_notMem hdropped]
        | dropSecond =>
            rw [if_neg (by decide), if_neg (by decide)]
            let weaker : Scan := { scan with dropped := j :: scan.dropped }
            have hi' : i ∉ weaker.dropped := by simp [weaker, hij, hi]
            have hlater := dropped_subset_foldl graph weaker (rowOf a i rest) List.mem_cons_self
            have hrow := ih weaker hi'
            rw [remaining_drop hj] at hrow
            exact hrow.cons_of_mem hlater
      · rw [if_neg hconflict, step_of_skip (Or.inr (Or.inr (Bool.eq_false_iff.mpr hconflict)))]
        exact (ih scan hi).cons_of_notMem (hstays scan hdropped)

theorem foldl_orderedPairs (graph : ConflictGraph) (scan : Scan)
    (hdistinct : (items.map Prod.snd).Nodup) :
    ((orderedPairs items).foldl (step graph) scan).remaining items =
        (reduce graph (scan.remaining items)).kept ∧
      ((orderedPairs items).foldl (step graph) scan).conflicts =
        scan.conflicts ++ (reduce graph (scan.remaining items)).conflicts := by
  induction items generalizing scan with
  | nil => simp [orderedPairs, remaining, reduce]
  | cons item rest ih =>
      obtain ⟨a, i⟩ := item
      obtain ⟨hi, hrest⟩ := List.nodup_cons.mp hdistinct
      rw [orderedPairs, List.foldl_append, ← rowOf]
      by_cases hdropped : i ∈ scan.dropped
      · have hlater := dropped_subset_foldl graph scan (orderedPairs rest) hdropped
        rw [foldl_rowOf_of_mem hdropped, remaining_cons_of_mem hdropped,
          remaining_cons_of_mem hlater]
        exact ih scan hrest
      have hrow := followsRow graph a scan hdistinct hdropped
      obtain ⟨hremaining, hconflicts⟩ := ih ((rowOf a i rest).foldl (step graph) scan) hrest
      rw [hrow.remaining] at hremaining hconflicts
      rw [remaining_cons_of_notMem hdropped, reduce]
      refine ⟨?_, ?_⟩
      · -- later rows do not mark the first rule, so its own row decides whether it remains
        by_cases halive : (row graph a (scan.remaining rest)).alive = true
        · have hi' : i ∉ ((rowOf a i rest).foldl (step graph) scan).dropped := by
            simp [hrow.dropped, halive]
          rw [if_pos halive, ← hremaining]
          exact remaining_cons_of_notMem (notMem_foldl_orderedPairs hi' hi)
        · have hi' := hrow.dropped.mpr (Bool.eq_false_iff.mpr halive)
          rw [if_neg halive, ← hremaining]
          exact remaining_cons_of_mem (dropped_subset_foldl graph _ _ hi')
      · rw [hconflicts, hrow.conflicts, List.append_assoc]

end Scan

/-- Settling conflicts by marking positions is the reduction of the list, for every list of rules
and every graph. -/
theorem settleAll_eq_reduce (graph : ConflictGraph) (rules : List Rule) :
    settleAll graph rules = (reduce graph rules).settlement := by
  have hdistinct : (rules.zipIdx.map Prod.snd).Nodup := by
    rw [List.zipIdx_map_snd]
    exact List.nodup_range'
  obtain ⟨hkept, hconflicts⟩ := Scan.foldl_orderedPairs graph ⟨[], []⟩ hdistinct
  rw [Scan.remaining_start, List.zipIdx_map_fst] at hkept hconflicts
  rw [Reduction.settlement, ← hkept, ← List.nil_append (reduce graph rules).conflicts, ← hconflicts]
  rfl

end Rulebook.Resolution
