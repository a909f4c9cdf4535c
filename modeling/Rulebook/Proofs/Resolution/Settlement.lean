import Mathlib.Data.List.Nodup
import Rulebook.Resolution

/-!
The scan that settles conflicts. No rule of severity error is ever dropped, so the conflicts found
are those of all pairs of such rules, whatever happens to weaker rules meanwhile; and every pair in
conflict that was looked at has lost one of its rules, unless it blocks.
-/

namespace Rulebook.Resolution

section Pairs

variable {α β : Type}

theorem mem_of_mem_orderedPairs {items : List α} {pair : α × α} (h : pair ∈ orderedPairs items) :
    pair.1 ∈ items ∧ pair.2 ∈ items := by
  induction items with
  | nil => simp [orderedPairs] at h
  | cons a rest ih =>
      rw [orderedPairs, List.mem_append, List.mem_map] at h
      rcases h with ⟨b, hb, rfl⟩ | h
      · exact ⟨List.mem_cons_self, List.mem_cons_of_mem _ hb⟩
      · exact (ih h).imp (List.mem_cons_of_mem _) (List.mem_cons_of_mem _)

theorem orderedPairs_map (f : α → β) (items : List α) :
    orderedPairs (items.map f) = (orderedPairs items).map (Prod.map f f) := by
  induction items with
  | nil => rfl
  | cons a rest ih => simp [orderedPairs, ih, Function.comp_def]

theorem pairwise_iff_orderedPairs {R : α → α → Prop} {items : List α} :
    items.Pairwise R ↔ ∀ pair ∈ orderedPairs items, R pair.1 pair.2 := by
  induction items with
  | nil => simp [orderedPairs]
  | cons a rest ih =>
      simp only [List.pairwise_cons, orderedPairs, List.mem_append, List.mem_map, or_imp,
        forall_and, ih, forall_exists_index, and_imp, forall_apply_eq_imp_iff₂]

theorem mem_orderedPairs_iff {key : α → String} {items : List α}
    (h : items.Pairwise fun a b => key a < key b) {a b : α} :
    (a, b) ∈ orderedPairs items ↔ a ∈ items ∧ b ∈ items ∧ key a < key b := by
  constructor
  · intro hpair
    obtain ⟨ha, hb⟩ := mem_of_mem_orderedPairs hpair
    exact ⟨ha, hb, pairwise_iff_orderedPairs.mp h _ hpair⟩
  · rintro ⟨ha, hb, hab⟩
    induction items with
    | nil => cases ha
    | cons c rest ih =>
        obtain ⟨hc, hrest⟩ := List.pairwise_cons.mp h
        have hirrefl (x : String) : ¬ x < x := String.lt_irrefl x
        rw [orderedPairs, List.mem_append]
        rcases List.mem_cons.mp ha with rfl | ha' <;> rcases List.mem_cons.mp hb with rfl | hb'
        · exact absurd hab (hirrefl _)
        · exact Or.inl (List.mem_map_of_mem hb')
        · exact absurd (String.lt_trans hab (hc a ha')) (hirrefl _)
        · exact Or.inr (ih hrest ha' hb')

theorem orderedPairs_ascending {key : α → String} {items : List α}
    (h : items.Pairwise fun a b => key a < key b) :
    (orderedPairs items).Pairwise fun p q =>
      key p.1 < key q.1 ∨ key p.1 = key q.1 ∧ key p.2 < key q.2 := by
  induction items with
  | nil => exact List.Pairwise.nil
  | cons a rest ih =>
      obtain ⟨ha, hrest⟩ := List.pairwise_cons.mp h
      rw [orderedPairs, List.pairwise_append, List.pairwise_map]
      refine ⟨hrest.imp fun hlt => Or.inr ⟨rfl, hlt⟩, ih hrest, ?_⟩
      intro p hp q hq
      obtain ⟨b, -, rfl⟩ := List.mem_map.mp hp
      exact Or.inl (ha _ (mem_of_mem_orderedPairs hq).1)

end Pairs

theorem settle_eq_block_iff {a b : Severity} :
    settle a b = .block ↔ a = .error ∧ b = .error := by
  cases a <;> cases b <;> decide

theorem ne_error_of_dropFirst {a b : Severity} (h : settle a b = .dropFirst) : a ≠ .error := by
  rintro rfl
  cases b <;> cases h

theorem ne_error_of_dropSecond {a b : Severity} (h : settle a b = .dropSecond) : b ≠ .error := by
  rintro rfl
  cases a <;> cases h

/-- The conflict that two rules report: both are of severity error and they conflict. -/
def errorConflict? (graph : ConflictGraph) (a b : Rule) : Option Conflict :=
  if a.severity = .error ∧ b.severity = .error ∧ inConflict graph a b = true then
    some (Conflict.betweenErrors a.id b.id)
  else none

namespace Scan

variable {graph : ConflictGraph} {scan : Scan} {a b : Rule} {i j : Nat}

theorem step_of_skip (h : i ∈ scan.dropped ∨ j ∈ scan.dropped ∨ inConflict graph a b = false) :
    scan.step graph ((a, i), (b, j)) = scan := by
  apply if_pos
  simpa [or_assoc] using h

theorem step_of_conflict (hi : i ∉ scan.dropped) (hj : j ∉ scan.dropped)
    (hconflict : inConflict graph a b = true) :
    scan.step graph ((a, i), (b, j)) =
      match settle a.severity b.severity with
      | .block => { scan with conflicts := scan.conflicts ++ [Conflict.betweenErrors a.id b.id] }
      | .dropFirst => { scan with dropped := i :: scan.dropped }
      | .dropSecond => { scan with dropped := j :: scan.dropped } := by
  apply if_neg
  simp [hi, hj, hconflict]

theorem looked_of_not_skip
    (h : ¬(i ∈ scan.dropped ∨ j ∈ scan.dropped ∨ inConflict graph a b = false)) :
    i ∉ scan.dropped ∧ j ∉ scan.dropped ∧ inConflict graph a b = true := by
  simpa only [not_or, Bool.not_eq_false] using h

/-- Everything that looking at two rules can do. -/
theorem step_cases (graph : ConflictGraph) (scan : Scan) (a b : Rule) (i j : Nat) :
    (i ∈ scan.dropped ∨ j ∈ scan.dropped ∨ inConflict graph a b = false) ∧
        scan.step graph ((a, i), (b, j)) = scan ∨
      inConflict graph a b = true ∧
        (settle a.severity b.severity = .block ∧ scan.step graph ((a, i), (b, j)) =
            { scan with conflicts := scan.conflicts ++ [Conflict.betweenErrors a.id b.id] } ∨
          settle a.severity b.severity = .dropFirst ∧
            scan.step graph ((a, i), (b, j)) = { scan with dropped := i :: scan.dropped } ∨
          settle a.severity b.severity = .dropSecond ∧
            scan.step graph ((a, i), (b, j)) = { scan with dropped := j :: scan.dropped }) := by
  by_cases hskip : i ∈ scan.dropped ∨ j ∈ scan.dropped ∨ inConflict graph a b = false
  · exact Or.inl ⟨hskip, step_of_skip hskip⟩
  · obtain ⟨hi, hj, hconflict⟩ := looked_of_not_skip hskip
    refine Or.inr ⟨hconflict, ?_⟩
    rw [step_of_conflict hi hj hconflict]
    cases settle a.severity b.severity
    · exact Or.inl ⟨rfl, rfl⟩
    · exact Or.inr (Or.inl ⟨rfl, rfl⟩)
    · exact Or.inr (Or.inr ⟨rfl, rfl⟩)

theorem dropped_subset_step (graph : ConflictGraph) (scan : Scan)
    (pair : (Rule × Nat) × (Rule × Nat)) : scan.dropped ⊆ (scan.step graph pair).dropped := by
  obtain ⟨⟨a, i⟩, ⟨b, j⟩⟩ := pair
  obtain ⟨-, h⟩ | ⟨-, ⟨-, h⟩ | ⟨-, h⟩ | ⟨-, h⟩⟩ := step_cases graph scan a b i j
  · rw [h]
    exact List.Subset.refl _
  · rw [h]
    exact List.Subset.refl _
  · rw [h]
    exact List.subset_cons_self _ _
  · rw [h]
    exact List.subset_cons_self _ _

theorem dropped_subset_foldl (graph : ConflictGraph) (scan : Scan)
    (pairs : List ((Rule × Nat) × (Rule × Nat))) :
    scan.dropped ⊆ (pairs.foldl (step graph) scan).dropped := by
  induction pairs generalizing scan with
  | nil => exact List.Subset.refl _
  | cons pair pairs ih => exact List.Subset.trans (dropped_subset_step graph scan pair) (ih _)

theorem foldl_of_clear {pairs : List ((Rule × Nat) × (Rule × Nat))}
    (h : ∀ pair ∈ pairs, inConflict graph pair.1.1 pair.2.1 = false) :
    pairs.foldl (step graph) scan = scan := by
  induction pairs with
  | nil => rfl
  | cons pair pairs ih =>
      obtain ⟨hpair, hpairs⟩ := List.forall_mem_cons.mp h
      rw [List.foldl_cons, step_of_skip (Or.inr (Or.inr hpair))]
      exact ih hpairs

/-- Looking at the pair drops the rule at the position, if it drops any. -/
def Drops (graph : ConflictGraph) (pair : (Rule × Nat) × (Rule × Nat)) (p : Nat) : Prop :=
  inConflict graph pair.1.1 pair.2.1 = true ∧
    (settle pair.1.1.severity pair.2.1.severity = .dropFirst ∧ pair.1.2 = p ∨
      settle pair.1.1.severity pair.2.1.severity = .dropSecond ∧ pair.2.2 = p)

theorem drops_of_mem_step {pair : (Rule × Nat) × (Rule × Nat)} {p : Nat}
    (h : p ∈ (scan.step graph pair).dropped) : p ∈ scan.dropped ∨ Drops graph pair p := by
  obtain ⟨⟨a, i⟩, ⟨b, j⟩⟩ := pair
  obtain ⟨-, hstep⟩ | ⟨hconflict, ⟨-, hstep⟩ | ⟨hsettle, hstep⟩ | ⟨hsettle, hstep⟩⟩ :=
    step_cases graph scan a b i j
  · rw [hstep] at h
    exact Or.inl h
  · rw [hstep] at h
    exact Or.inl h
  · rw [hstep] at h
    rcases List.mem_cons.mp h with rfl | h
    · exact Or.inr ⟨hconflict, Or.inl ⟨hsettle, rfl⟩⟩
    · exact Or.inl h
  · rw [hstep] at h
    rcases List.mem_cons.mp h with rfl | h
    · exact Or.inr ⟨hconflict, Or.inr ⟨hsettle, rfl⟩⟩
    · exact Or.inl h

/-- Whatever a scan has dropped in the end was dropped before, or at one of the pairs. -/
theorem exists_drops_of_mem_foldl {pairs : List ((Rule × Nat) × (Rule × Nat))} {p : Nat}
    (h : p ∈ (pairs.foldl (step graph) scan).dropped) :
    p ∈ scan.dropped ∨ ∃ pair ∈ pairs, Drops graph pair p := by
  induction pairs generalizing scan with
  | nil => exact Or.inl h
  | cons pair pairs ih =>
      rcases ih h with hstep | ⟨other, hother, hdrops⟩
      · exact (drops_of_mem_step hstep).imp_right fun hdrops =>
          ⟨pair, List.mem_cons_self, hdrops⟩
      · exact Or.inr ⟨other, List.mem_cons_of_mem _ hother, hdrops⟩

theorem notMem_dropped_foldl {pairs : List ((Rule × Nat) × (Rule × Nat))} {p : Nat}
    (hp : p ∉ scan.dropped) (hpairs : ∀ pair ∈ pairs, pair.1.2 ≠ p ∧ pair.2.2 ≠ p) :
    p ∉ (pairs.foldl (step graph) scan).dropped := by
  intro h
  rcases exists_drops_of_mem_foldl h with h | ⟨pair, hpair, -, ⟨-, hfirst⟩ | ⟨-, hsecond⟩⟩
  · exact hp h
  · exact (hpairs pair hpair).1 hfirst
  · exact (hpairs pair hpair).2 hsecond

/-- Two rules in conflict that need no further look: one is dropped, or they block. -/
def Settled (graph : ConflictGraph) (scan : Scan) (pair : (Rule × Nat) × (Rule × Nat)) : Prop :=
  inConflict graph pair.1.1 pair.2.1 = true →
    pair.1.2 ∈ scan.dropped ∨ pair.2.2 ∈ scan.dropped ∨
      pair.1.1.severity = .error ∧ pair.2.1.severity = .error

theorem settled_step (pair : (Rule × Nat) × (Rule × Nat)) :
    (scan.step graph pair).Settled graph pair := by
  obtain ⟨⟨a, i⟩, ⟨b, j⟩⟩ := pair
  intro hconflict
  obtain ⟨hskip, h⟩ | ⟨-, ⟨hsettle, h⟩ | ⟨-, h⟩ | ⟨-, h⟩⟩ := step_cases graph scan a b i j
  · rw [h]
    rcases hskip with hi | hj | hclear
    · exact Or.inl hi
    · exact Or.inr (Or.inl hj)
    · exact absurd hconflict (Bool.eq_false_iff.mp hclear)
  · exact Or.inr (Or.inr (settle_eq_block_iff.mp hsettle))
  · rw [h]
    exact Or.inl List.mem_cons_self
  · rw [h]
    exact Or.inr (Or.inl List.mem_cons_self)

theorem settled_foldl (pairs : List ((Rule × Nat) × (Rule × Nat))) :
    ∀ pair ∈ pairs, (pairs.foldl (step graph) scan).Settled graph pair := by
  induction pairs generalizing scan with
  | nil => simp
  | cons pair pairs ih =>
      intro other hother
      rcases List.mem_cons.mp hother with rfl | hother
      · -- what settled the pair when it was looked at is never taken back
        intro hconflict
        have hlater := dropped_subset_foldl graph (scan.step graph other) pairs
        exact (settled_step other hconflict).imp (hlater ·) (Or.imp_left (hlater ·))
      · exact ih other hother

def KeepsErrors (items : List (Rule × Nat)) (scan : Scan) : Prop :=
  ∀ item ∈ items, item.1.severity = .error → item.2 ∉ scan.dropped

variable {items : List (Rule × Nat)}

theorem KeepsErrors.drop (hdistinct : ∀ x ∈ items, ∀ y ∈ items, x.2 = y.2 → x = y)
    (h : scan.KeepsErrors items) {item : Rule × Nat} (hitem : item ∈ items)
    (hweak : item.1.severity ≠ .error) :
    KeepsErrors items { scan with dropped := item.2 :: scan.dropped } := by
  intro other hother herror hdropped
  rcases List.mem_cons.mp hdropped with heq | hdropped
  · rw [hdistinct other hother item hitem heq] at herror
    exact hweak herror
  · exact h other hother herror hdropped

theorem KeepsErrors.step (graph : ConflictGraph)
    (hdistinct : ∀ x ∈ items, ∀ y ∈ items, x.2 = y.2 → x = y)
    (h : scan.KeepsErrors items) {pair : (Rule × Nat) × (Rule × Nat)}
    (hfirst : pair.1 ∈ items) (hsecond : pair.2 ∈ items) :
    (scan.step graph pair).KeepsErrors items ∧
      (scan.step graph pair).conflicts =
        scan.conflicts ++ (errorConflict? graph pair.1.1 pair.2.1).toList := by
  obtain ⟨⟨a, i⟩, ⟨b, j⟩⟩ := pair
  obtain ⟨hskip, hstep⟩ | ⟨hconflict, ⟨hsettle, hstep⟩ | ⟨hsettle, hstep⟩ | ⟨hsettle, hstep⟩⟩ :=
    step_cases graph scan a b i j
  · have hnone : ¬(a.severity = .error ∧ b.severity = .error ∧ inConflict graph a b = true) := by
      rintro ⟨ha, hb, hconflict⟩
      rcases hskip with hi | hj | hclear
      · exact h (a, i) hfirst ha hi
      · exact h (b, j) hsecond hb hj
      · exact Bool.eq_false_iff.mp hclear hconflict
    rw [hstep, errorConflict?, if_neg hnone]
    exact ⟨h, (List.append_nil _).symm⟩
  · obtain ⟨ha, hb⟩ := settle_eq_block_iff.mp hsettle
    rw [hstep, errorConflict?, if_pos ⟨ha, hb, hconflict⟩]
    exact ⟨h, rfl⟩
  · have ha := ne_error_of_dropFirst hsettle
    rw [hstep, errorConflict?, if_neg fun herror => ha herror.1]
    exact ⟨h.drop hdistinct hfirst ha, (List.append_nil _).symm⟩
  · have hb := ne_error_of_dropSecond hsettle
    rw [hstep, errorConflict?, if_neg fun herror => hb herror.2.1]
    exact ⟨h.drop hdistinct hsecond hb, (List.append_nil _).symm⟩

theorem KeepsErrors.foldl (hdistinct : ∀ x ∈ items, ∀ y ∈ items, x.2 = y.2 → x = y)
    (h : scan.KeepsErrors items) {pairs : List ((Rule × Nat) × (Rule × Nat))}
    (hpairs : ∀ pair ∈ pairs, pair.1 ∈ items ∧ pair.2 ∈ items) :
    (pairs.foldl (Scan.step graph) scan).KeepsErrors items ∧
      (pairs.foldl (Scan.step graph) scan).conflicts =
        scan.conflicts ++ pairs.filterMap fun pair => errorConflict? graph pair.1.1 pair.2.1 := by
  induction pairs generalizing scan with
  | nil => exact ⟨h, (List.append_nil _).symm⟩
  | cons pair pairs ih =>
      obtain ⟨hfirst, hsecond⟩ := hpairs pair List.mem_cons_self
      obtain ⟨hkeeps, hconflicts⟩ := h.step graph hdistinct hfirst hsecond
      obtain ⟨hkeeps', hconflicts'⟩ :=
        ih hkeeps fun other hother => hpairs other (List.mem_cons_of_mem _ hother)
      refine ⟨hkeeps', ?_⟩
      rw [List.foldl_cons, hconflicts', hconflicts, List.append_assoc]
      cases hconflict : errorConflict? graph pair.1.1 pair.2.1 <;> simp [hconflict]

end Scan

variable {graph : ConflictGraph} {active rules : List Rule}

theorem positions_ascending (active : List Rule) :
    active.zipIdx.Pairwise fun x y => x.2 < y.2 := by
  have h : (active.zipIdx.map Prod.snd).Pairwise (· < ·) := by
    rw [List.zipIdx_map_snd]
    exact List.pairwise_lt_range'
  rwa [List.pairwise_map] at h

theorem positions_distinct (active : List Rule) :
    ∀ x ∈ active.zipIdx, ∀ y ∈ active.zipIdx, x.2 = y.2 → x = y := by
  rintro ⟨a, i⟩ ha ⟨b, j⟩ hb rfl
  rw [List.mem_zipIdx_iff_getElem?] at ha hb
  rw [Prod.mk.injEq]
  exact ⟨Option.some.inj (ha.symm.trans hb), rfl⟩

theorem exists_drops_of_mem_dropped {graph : ConflictGraph} {active : List Rule} {p : Nat}
    (h : p ∈ (scan graph active).dropped) :
    ∃ pair ∈ orderedPairs active.zipIdx, Scan.Drops graph pair p := by
  apply (Scan.exists_drops_of_mem_foldl h).resolve_left
  exact List.not_mem_nil

theorem scan_keepsErrors (graph : ConflictGraph) (active : List Rule) :
    (scan graph active).KeepsErrors active.zipIdx ∧
      (scan graph active).conflicts = (orderedPairs active.zipIdx).filterMap
        fun pair => errorConflict? graph pair.1.1 pair.2.1 := by
  have hstart : Scan.KeepsErrors active.zipIdx ⟨[], []⟩ := fun _ _ _ => List.not_mem_nil
  exact hstart.foldl (positions_distinct active) fun _ hpair => mem_of_mem_orderedPairs hpair

theorem scan_conflicts (graph : ConflictGraph) (active : List Rule) :
    (scan graph active).conflicts =
      (orderedPairs active).filterMap fun pair => errorConflict? graph pair.1 pair.2 := by
  have hpairs : orderedPairs active =
      (orderedPairs active.zipIdx).map (Prod.map Prod.fst Prod.fst) := by
    rw [← orderedPairs_map, List.zipIdx_map_fst]
  rw [(scan_keepsErrors graph active).2, hpairs, List.filterMap_map]
  rfl

def Scan.survivors (scan : Scan) (active : List Rule) : List Rule :=
  (active.zipIdx.filter fun item => !scan.dropped.contains item.2).map Prod.fst

namespace Scan

variable {scan : Scan} {items : List (Rule × Nat)} {a : Rule} {i p : Nat}

/-- The rules whose positions are not marked as dropped. -/
def remaining (scan : Scan) (items : List (Rule × Nat)) : List Rule :=
  (items.filter fun item => !scan.dropped.contains item.2).map Prod.fst

theorem remaining_cons_of_mem (h : i ∈ scan.dropped) :
    scan.remaining ((a, i) :: items) = scan.remaining items := by
  simp [remaining, h]

theorem remaining_cons_of_notMem (h : i ∉ scan.dropped) :
    scan.remaining ((a, i) :: items) = a :: scan.remaining items := by
  simp [remaining, h]

theorem remaining_append (left right : List (Rule × Nat)) :
    scan.remaining (left ++ right) = scan.remaining left ++ scan.remaining right := by
  simp [remaining]

theorem remaining_sublist (scan : Scan) (items : List (Rule × Nat)) :
    (scan.remaining items).Sublist (items.map Prod.fst) :=
  List.filter_sublist.map Prod.fst

theorem remaining_map {scan' : Scan} (f : Nat → Nat)
    (h : ∀ item ∈ items, f item.2 ∈ scan'.dropped ↔ item.2 ∈ scan.dropped) :
    scan'.remaining (items.map (Prod.map id f)) = scan.remaining items := by
  have hfst : Prod.fst ∘ Prod.map id f = (Prod.fst : Rule × Nat → Rule) := rfl
  rw [remaining, remaining, List.filter_map, List.map_map, hfst]
  refine congrArg (List.map Prod.fst) (List.filter_congr fun item hitem => ?_)
  simp [h item hitem]

theorem remaining_congr {scan' : Scan}
    (h : ∀ item ∈ items, item.2 ∈ scan'.dropped ↔ item.2 ∈ scan.dropped) :
    scan'.remaining items = scan.remaining items := by
  simpa using remaining_map id h

theorem remaining_drop (h : p ∉ items.map Prod.snd) :
    remaining { scan with dropped := p :: scan.dropped } items = scan.remaining items := by
  apply remaining_congr
  intro item hitem
  have hne : item.2 ≠ p := fun heq => h (heq ▸ List.mem_map_of_mem hitem)
  simp [hne]

theorem remaining_start (items : List (Rule × Nat)) :
    remaining ⟨[], []⟩ items = items.map Prod.fst := by
  simp [remaining]

end Scan

theorem survivors_eq_remaining (scan : Scan) (active : List Rule) :
    scan.survivors active = scan.remaining active.zipIdx :=
  rfl

/-- The rules at the chosen positions, in their order. -/
def rulesAt (rules : List Rule) (chosen : Nat → Bool) : List Rule :=
  (rules.zipIdx.filter fun item => chosen item.2).map Prod.fst

theorem settleAll_eq_resolved_iff :
    settleAll graph active = .resolved rules ↔
      (scan graph active).conflicts = [] ∧ (scan graph active).survivors active = rules := by
  rw [settleAll]
  by_cases hnone : (scan graph active).conflicts = []
  · simp [hnone, Scan.survivors]
  · simp [hnone]

theorem settleAll_eq_blocked_iff {conflicts : List Conflict} :
    settleAll graph active = .blocked conflicts ↔
      conflicts ≠ [] ∧ (scan graph active).conflicts = conflicts := by
  rw [settleAll]
  by_cases hnone : (scan graph active).conflicts = []
  · simp only [hnone, List.isEmpty_nil, if_true, reduceCtorEq, false_iff, not_and]
    exact fun hsome heq => hsome heq.symm
  · have hsome : (scan graph active).conflicts.isEmpty = false :=
      List.isEmpty_eq_false_iff.mpr hnone
    simp only [hsome, Bool.false_eq_true, if_false, Settlement.blocked.injEq]
    constructor
    · rintro rfl
      exact ⟨hnone, rfl⟩
    · exact And.right

theorem survivors_sublist (scan : Scan) (active : List Rule) :
    (scan.survivors active).Sublist active := by
  simpa [survivors_eq_remaining] using scan.remaining_sublist active.zipIdx

theorem mem_survivors_of_error {rule : Rule} (hrule : rule ∈ active)
    (herror : rule.severity = .error) : rule ∈ (scan graph active).survivors active := by
  obtain ⟨i, hi, rfl⟩ := List.getElem_of_mem hrule
  have hitem : (active[i], i) ∈ active.zipIdx := by
    rw [List.mem_zipIdx_iff_getElem?]
    exact List.getElem?_eq_getElem hi
  have hkept := (scan_keepsErrors graph active).1 _ hitem herror
  refine List.mem_map.mpr ⟨(active[i], i), List.mem_filter.mpr ⟨hitem, ?_⟩, rfl⟩
  simpa using hkept

theorem settleAll_of_clear (h : active.Pairwise fun a b => inConflict graph a b = false) :
    settleAll graph active = .resolved active := by
  have hclear (pair) (hpair : pair ∈ orderedPairs active.zipIdx) :
      inConflict graph pair.1.1 pair.2.1 = false := by
    have hitems :
        (active.zipIdx.map Prod.fst).Pairwise fun a b => inConflict graph a b = false := by
      rwa [List.zipIdx_map_fst]
    exact pairwise_iff_orderedPairs.mp (List.pairwise_map.mp hitems) pair hpair
  have hscan : scan graph active = ⟨[], []⟩ := Scan.foldl_of_clear hclear
  rw [settleAll_eq_resolved_iff, hscan]
  simp [Scan.survivors]

theorem survivors_pairwise (graph : ConflictGraph) (active : List Rule) :
    ((scan graph active).survivors active).Pairwise fun a b =>
      inConflict graph a b = true → a.severity = .error ∧ b.severity = .error := by
  have hsettled : active.zipIdx.Pairwise fun x y => (scan graph active).Settled graph (x, y) :=
    pairwise_iff_orderedPairs.mpr (Scan.settled_foldl (orderedPairs active.zipIdx))
  rw [Scan.survivors, List.pairwise_map, List.pairwise_filter]
  refine hsettled.imp ?_
  intro x y hxy hx hy hconflict
  simp only [Bool.not_eq_true', ← Bool.not_eq_true, List.contains_iff_mem] at hx hy
  rcases hxy hconflict with hdropped | hdropped | herrors
  · exact absurd hdropped hx
  · exact absurd hdropped hy
  · exact herrors

/-- What remains of rules that do not block: some of them, every one of severity error among them,
and no two in conflict. -/
theorem resolved_of_settleAll (h : settleAll graph active = .resolved rules) :
    rules.Sublist active ∧ (∀ rule ∈ active, rule.severity = .error → rule ∈ rules) ∧
      rules.Pairwise fun a b => inConflict graph a b = false := by
  obtain ⟨hnone, rfl⟩ := settleAll_eq_resolved_iff.mp h
  refine ⟨survivors_sublist _ _, fun rule hrule herror => mem_survivors_of_error hrule herror, ?_⟩
  rw [scan_conflicts, List.filterMap_eq_nil_iff] at hnone
  have hclear : active.Pairwise fun a b => errorConflict? graph a b = none :=
    pairwise_iff_orderedPairs.mpr hnone
  have hboth := (hclear.sublist (survivors_sublist (scan graph active) active)).and
    (survivors_pairwise graph active)
  refine hboth.imp ?_
  rintro a b ⟨hnone, herrors⟩
  by_contra hconflict
  have hconflict' : inConflict graph a b = true := by simpa using hconflict
  obtain ⟨ha, hb⟩ := herrors hconflict'
  rw [errorConflict?, if_pos ⟨ha, hb, hconflict'⟩] at hnone
  cases hnone

end Rulebook.Resolution
