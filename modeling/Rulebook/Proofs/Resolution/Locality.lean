import Mathlib.Data.Nat.Count
import Rulebook.Proofs.Catalog.Conflicts
import Rulebook.Proofs.Resolution.Settlement

/-!
Rules that do not conflict do not matter to each other. Where the positions fall into two classes
with no conflict between them, each class is settled as if it were alone, however the two are
interleaved.
-/

namespace Rulebook.Resolution

variable {graph : ConflictGraph} {rules : List Rule} {chosen : Nat → Bool} {p q : Nat}

/-- The place of a position among the chosen ones. -/
def place (chosen : Nat → Bool) (p : Nat) : Nat :=
  Nat.count (fun q => chosen q = true) p

/-- The item with its position counted among the chosen ones. -/
def renumber (chosen : Nat → Bool) : Rule × Nat → Rule × Nat :=
  Prod.map id (place chosen)

@[simp]
theorem renumber_mk (chosen : Nat → Bool) (rule : Rule) (p : Nat) :
    renumber chosen (rule, p) = (rule, place chosen p) :=
  rfl

def inside (chosen : Nat → Bool) (pair : (Rule × Nat) × (Rule × Nat)) : Bool :=
  chosen pair.1.2 && chosen pair.2.2

theorem zipIdx_renumber (rules : List Rule) (chosen : Nat → Bool) (n : Nat) :
    ((rules.zipIdx n).filter fun item => chosen item.2).map (renumber chosen) =
      (((rules.zipIdx n).filter fun item => chosen item.2).map Prod.fst).zipIdx
        (place chosen n) := by
  induction rules generalizing n with
  | nil => rfl
  | cons rule rest ih =>
      have hnext : place chosen (n + 1) = place chosen n + if chosen n = true then 1 else 0 :=
        Nat.count_succ _ _
      by_cases hn : chosen n = true
      · rw [if_pos hn] at hnext
        simp [List.zipIdx_cons, hn, ih, hnext]
      · rw [if_neg hn] at hnext
        simp [List.zipIdx_cons, hn, ih, hnext]

theorem orderedPairs_filter {α : Type} (f : α → Bool) (items : List α) :
    orderedPairs (items.filter f) =
      (orderedPairs items).filter fun pair => f pair.1 && f pair.2 := by
  induction items with
  | nil => rfl
  | cons a rest ih =>
      rw [orderedPairs, List.filter_append, List.filter_map, ← ih]
      by_cases ha : f a = true
      · simp [ha, orderedPairs, Function.comp_def]
      · simp [ha, Function.comp_def]

theorem zipIdx_rulesAt (rules : List Rule) (chosen : Nat → Bool) :
    (rulesAt rules chosen).zipIdx =
      (rules.zipIdx.filter fun item => chosen item.2).map (renumber chosen) := by
  rw [zipIdx_renumber, place, Nat.count_zero]
  rfl

theorem orderedPairs_rulesAt (rules : List Rule) (chosen : Nat → Bool) :
    orderedPairs (rulesAt rules chosen).zipIdx =
      ((orderedPairs rules.zipIdx).filter (inside chosen)).map
        (Prod.map (renumber chosen) (renumber chosen)) := by
  rw [zipIdx_rulesAt, orderedPairs_map, orderedPairs_filter]
  rfl

namespace Scan

variable {scan whole part : Scan} {pair : (Rule × Nat) × (Rule × Nat)}

theorem mem_dropped_step_iff (hfirst : pair.1.2 ≠ p) (hsecond : pair.2.2 ≠ p) :
    p ∈ (scan.step graph pair).dropped ↔ p ∈ scan.dropped := by
  constructor
  · intro h
    rcases drops_of_mem_step h with h | ⟨-, ⟨-, h⟩ | ⟨-, h⟩⟩
    · exact h
    · exact absurd h hfirst
    · exact absurd h hsecond
  · apply dropped_subset_step

/-- Of the chosen rules, one scan has dropped those that the other one has, which knows no others
and counts positions among them. -/
def Tracks (chosen : Nat → Bool) (whole part : Scan) : Prop :=
  ∀ p, chosen p = true → (p ∈ whole.dropped ↔ place chosen p ∈ part.dropped)

theorem Tracks.drop (h : Tracks chosen whole part) (hq : chosen q = true) :
    Tracks chosen { whole with dropped := q :: whole.dropped }
      { part with dropped := place chosen q :: part.dropped } := by
  intro p hp
  have hplace : p = q ↔ place chosen p = place chosen q :=
    ⟨congrArg (place chosen), Nat.count_injective hp hq⟩
  rw [List.mem_cons, List.mem_cons, h p hp, hplace]

theorem Tracks.step_inside (h : Tracks chosen whole part) (hpair : inside chosen pair = true) :
    Tracks chosen (whole.step graph pair)
      (part.step graph (Prod.map (renumber chosen) (renumber chosen) pair)) := by
  obtain ⟨⟨a, i⟩, ⟨b, j⟩⟩ := pair
  obtain ⟨hi, hj⟩ : chosen i = true ∧ chosen j = true := by simpa [inside] using hpair
  change Tracks chosen _ (part.step graph ((a, place chosen i), (b, place chosen j)))
  by_cases hskip : i ∈ whole.dropped ∨ j ∈ whole.dropped ∨ inConflict graph a b = false
  · rw [step_of_skip hskip]
    rw [h i hi, h j hj] at hskip
    rwa [step_of_skip hskip]
  · obtain ⟨hi', hj', hconflict⟩ := looked_of_not_skip hskip
    rw [step_of_conflict hi' hj' hconflict]
    rw [h i hi] at hi'
    rw [h j hj] at hj'
    rw [step_of_conflict hi' hj' hconflict]
    cases settle a.severity b.severity with
    | block => exact h
    | dropFirst => exact h.drop hi
    | dropSecond => exact h.drop hj

theorem Tracks.step_outside (h : Tracks chosen whole part) (hpair : inside chosen pair = false)
    (hclear : chosen pair.1.2 ≠ chosen pair.2.2 → inConflict graph pair.1.1 pair.2.1 = false) :
    Tracks chosen (whole.step graph pair) part := by
  obtain ⟨⟨a, i⟩, ⟨b, j⟩⟩ := pair
  by_cases hboth : chosen i = chosen j
  · -- both rules are among the others, and a pair marks no rule but its own
    have hi : chosen i = false := by simpa [inside, hboth] using hpair
    have hj : chosen j = false := hboth ▸ hi
    intro p hp
    have hne {k : Nat} (hk : chosen k = false) : k ≠ p := by
      rintro rfl
      exact absurd hp (Bool.eq_false_iff.mp hk)
    rw [mem_dropped_step_iff (hne hi) (hne hj)]
    exact h p hp
  · rwa [step_of_skip (Or.inr (Or.inr (hclear hboth)))]

/-- Pairs from outside the choice come in between, but leave no mark on the chosen rules. -/
theorem Tracks.foldl {pairs : List ((Rule × Nat) × (Rule × Nat))} (h : Tracks chosen whole part)
    (hclear : ∀ pair ∈ pairs, chosen pair.1.2 ≠ chosen pair.2.2 →
      inConflict graph pair.1.1 pair.2.1 = false) :
    Tracks chosen (pairs.foldl (step graph) whole)
      (((pairs.filter (inside chosen)).map (Prod.map (renumber chosen) (renumber chosen))).foldl
        (step graph) part) := by
  -- a pair moves both scans or only the first one, so neither of them is fixed
  induction pairs generalizing whole part with
  | nil => exact h
  | cons pair pairs ih =>
      obtain ⟨hpair, hpairs⟩ := List.forall_mem_cons.mp hclear
      by_cases hinside : inside chosen pair = true
      · rw [List.filter_cons_of_pos hinside]
        exact ih (h.step_inside hinside) hpairs
      · rw [List.filter_cons_of_neg hinside]
        exact ih (h.step_outside (Bool.eq_false_iff.mpr hinside) hpair) hpairs

end Scan

/-- No rule conflicts with one at a position of the other class. -/
def Apart (graph : ConflictGraph) (rules : List Rule) (side : Nat → Bool) : Prop :=
  ∀ p q a b, rules[p]? = some a → rules[q]? = some b → side p ≠ side q →
    inConflict graph a b = false

theorem Apart.beq {side : Nat → Bool} (h : Apart graph rules side) (s : Bool) :
    Apart graph rules fun p => side p == s := by
  intro p q a b ha hb hside
  apply h p q a b ha hb
  exact fun heq => hside (congrArg (· == s) heq)

theorem Apart.clear_of_mem (h : Apart graph rules chosen) {pair : (Rule × Nat) × (Rule × Nat)}
    (hpair : pair ∈ orderedPairs rules.zipIdx) (hside : chosen pair.1.2 ≠ chosen pair.2.2) :
    inConflict graph pair.1.1 pair.2.1 = false := by
  obtain ⟨hfirst, hsecond⟩ := mem_of_mem_orderedPairs hpair
  rw [List.mem_zipIdx_iff_getElem?] at hfirst hsecond
  exact h _ _ _ _ hfirst hsecond hside

theorem Apart.mem_dropped_iff (h : Apart graph rules chosen) (hp : chosen p = true) :
    p ∈ (scan graph rules).dropped ↔
      place chosen p ∈ (scan graph (rulesAt rules chosen)).dropped := by
  have hstart : Scan.Tracks chosen ⟨[], []⟩ ⟨[], []⟩ := fun _ _ => by simp
  have hend : Scan.Tracks chosen (scan graph rules) _ :=
    hstart.foldl fun pair hpair => h.clear_of_mem hpair
  rw [← orderedPairs_rulesAt] at hend
  exact hend p hp

/-- The conflicts that a settlement reports, none if it resolves. -/
def Settlement.conflicts : Settlement → List Conflict
  | .resolved _ => []
  | .blocked conflicts => conflicts

theorem conflicts_settleAll (graph : ConflictGraph) (rules : List Rule) :
    (settleAll graph rules).conflicts = (scan graph rules).conflicts := by
  cases hsettled : settleAll graph rules with
  | resolved kept => exact (settleAll_eq_resolved_iff.mp hsettled).1.symm
  | blocked conflicts => exact (settleAll_eq_blocked_iff.mp hsettled).2.symm

/-- The pairs of rules of severity error that conflict, with their positions, in the order in which
a scan comes to them. -/
def clashes (graph : ConflictGraph) (rules : List Rule) : List ((Rule × Nat) × (Rule × Nat)) :=
  (orderedPairs rules.zipIdx).filter fun pair =>
    pair.1.1.severity = .error ∧ pair.2.1.severity = .error ∧
      inConflict graph pair.1.1 pair.2.1 = true

def reportOf (pair : (Rule × Nat) × (Rule × Nat)) : Conflict :=
  Conflict.betweenErrors pair.1.1.id pair.2.1.id

theorem conflicts_eq_map_clashes (graph : ConflictGraph) (rules : List Rule) :
    (scan graph rules).conflicts = (clashes graph rules).map reportOf := by
  rw [(scan_keepsErrors graph rules).2, clashes, ← List.filterMap_eq_map, List.filterMap_filter]
  simp [errorConflict?, reportOf]

theorem clashes_rulesAt (graph : ConflictGraph) (rules : List Rule) (chosen : Nat → Bool) :
    clashes graph (rulesAt rules chosen) =
      ((clashes graph rules).filter (inside chosen)).map
        (Prod.map (renumber chosen) (renumber chosen)) := by
  rw [clashes, clashes, orderedPairs_rulesAt, List.filter_map, List.filter_comm]
  rfl

theorem Apart.side_eq_of_mem_clashes (h : Apart graph rules chosen)
    {pair : (Rule × Nat) × (Rule × Nat)} (hpair : pair ∈ clashes graph rules) :
    chosen pair.1.2 = chosen pair.2.2 := by
  obtain ⟨hpair, hclash⟩ := List.mem_filter.mp hpair
  by_contra hside
  have hclear := h.clear_of_mem hpair hside
  simp [hclear] at hclash

theorem Apart.survivors_rulesAt (h : Apart graph rules chosen) :
    (scan graph (rulesAt rules chosen)).survivors (rulesAt rules chosen) =
      rulesAt rules fun p => !(scan graph rules).dropped.contains p && chosen p := by
  have hsame : ∀ item ∈ rules.zipIdx.filter fun item => chosen item.2,
      place chosen item.2 ∈ (scan graph (rulesAt rules chosen)).dropped ↔
        item.2 ∈ (scan graph rules).dropped :=
    fun item hitem => (h.mem_dropped_iff (List.mem_filter.mp hitem).2).symm
  rw [survivors_eq_remaining, zipIdx_rulesAt]
  refine (Scan.remaining_map (place chosen) hsame).trans ?_
  rw [Scan.remaining, List.filter_filter, rulesAt]

/-- What a list of rules settles to is what its two classes settle to. -/
structure SettledApart (graph : ConflictGraph) (rules : List Rule) (side : Nat → Bool) : Prop where
  blocked : (∃ conflicts, settleAll graph rules = .blocked conflicts) ↔
    ∃ s conflicts, settleAll graph (rulesAt rules fun p => side p == s) = .blocked conflicts
  reported : (settleAll graph rules).conflicts = (clashes graph rules).map reportOf
  uncrossed : ∀ pair ∈ clashes graph rules, side pair.1.2 = side pair.2.2
  within : ∀ s, (settleAll graph (rulesAt rules fun p => side p == s)).conflicts =
    ((clashes graph rules).filter fun pair => side pair.1.2 == s).map reportOf
  survivors : ∀ kept, settleAll graph rules = .resolved kept →
    kept = (rulesAt rules fun p => !(scan graph rules).dropped.contains p) ∧
    ∀ s, settleAll graph (rulesAt rules fun p => side p == s) =
      .resolved (rulesAt rules fun p => !(scan graph rules).dropped.contains p && side p == s)

theorem exists_blocked_iff :
    (∃ conflicts, settleAll graph rules = .blocked conflicts) ↔ clashes graph rules ≠ [] := by
  simp only [settleAll_eq_blocked_iff, conflicts_eq_map_clashes]
  simp

theorem Apart.settledApart {side : Nat → Bool} (h : Apart graph rules side) :
    SettledApart graph rules side := by
  have huncrossed (pair) (hpair : pair ∈ clashes graph rules) : side pair.1.2 = side pair.2.2 :=
    h.side_eq_of_mem_clashes hpair
  have hinside (s : Bool) : (clashes graph rules).filter (inside fun p => side p == s) =
      (clashes graph rules).filter fun pair => side pair.1.2 == s := by
    refine List.filter_congr fun pair hpair => ?_
    rw [inside, huncrossed pair hpair, Bool.and_self]
  constructor
  case blocked =>
    simp only [exists_blocked_iff, clashes_rulesAt, hinside, ne_eq, List.map_eq_nil_iff,
      List.filter_eq_nil_iff, not_forall]
    constructor
    · intro hsome
      obtain ⟨pair, hpair⟩ := List.exists_mem_of_ne_nil _ hsome
      exact ⟨side pair.1.2, pair, hpair, by simp⟩
    · rintro ⟨s, pair, hpair, -⟩
      exact List.ne_nil_of_mem hpair
  case reported => rw [conflicts_settleAll, conflicts_eq_map_clashes]
  case uncrossed => exact huncrossed
  case within =>
    intro s
    rw [conflicts_settleAll, conflicts_eq_map_clashes, clashes_rulesAt, hinside, List.map_map]
    rfl
  case survivors =>
    intro kept hkept
    obtain ⟨hnone, rfl⟩ := settleAll_eq_resolved_iff.mp hkept
    refine ⟨rfl, fun s => settleAll_eq_resolved_iff.mpr ⟨?_, (h.beq s).survivors_rulesAt⟩⟩
    rw [conflicts_eq_map_clashes, List.map_eq_nil_iff] at hnone
    rw [conflicts_eq_map_clashes, clashes_rulesAt, hnone]
    rfl

section Insertion

variable {before after : List Rule} {rule : Rule}

/-- All positions but one. -/
def allBut (n p : Nat) : Bool :=
  p != n

theorem allBut_iff {n p : Nat} : allBut n p = true ↔ p ≠ n :=
  bne_iff_ne

theorem not_allBut_self (n : Nat) : ¬ allBut n n = true :=
  fun h => allBut_iff.mp h rfl

theorem place_allBut_of_le {n p : Nat} (h : p ≤ n) : place (allBut n) p = p := by
  rw [place, Nat.count_iff_forall]
  intro q hq
  exact allBut_iff.mpr (by omega)

theorem place_allBut_succ {n p : Nat} (h : n ≤ p) : place (allBut n) (p + 1) = p := by
  induction p, h using Nat.le_induction with
  | base =>
      rw [place, Nat.count_succ, if_neg (not_allBut_self n)]
      exact place_allBut_of_le le_rfl
  | succ p hp ih =>
      have hnext : allBut n (p + 1) = true := allBut_iff.mpr (by omega)
      rw [place, Nat.count_succ, if_pos hnext]
      exact congrArg (· + 1) ih

theorem zipIdx_insert (before after : List Rule) (rule : Rule) :
    (before ++ rule :: after).zipIdx =
      before.zipIdx ++ (rule, before.length) :: after.zipIdx (before.length + 1) := by
  rw [List.zipIdx_append, List.zipIdx_cons, Nat.zero_add]

theorem rulesAt_allBut (before after : List Rule) (rule : Rule) :
    rulesAt (before ++ rule :: after) (allBut before.length) = before ++ after := by
  have hbefore :
      before.zipIdx.filter (fun item => allBut before.length item.2) = before.zipIdx := by
    refine List.filter_eq_self.mpr fun item hitem => allBut_iff.mpr ?_
    have hlt := List.snd_lt_of_mem_zipIdx hitem
    omega
  have hafter : (after.zipIdx (before.length + 1)).filter
      (fun item => allBut before.length item.2) = after.zipIdx (before.length + 1) := by
    refine List.filter_eq_self.mpr fun item hitem => allBut_iff.mpr ?_
    have hle := List.le_snd_of_mem_zipIdx hitem
    omega
  rw [rulesAt, zipIdx_insert, List.filter_append, List.filter_cons,
    if_neg (not_allBut_self before.length), hbefore, hafter, List.map_append, List.zipIdx_map_fst,
    List.zipIdx_map_fst]

theorem apart_allBut (h : ∀ other ∈ before ++ after, inConflict graph rule other = false) :
    Apart graph (before ++ rule :: after) (allBut before.length) := by
  have hrule {a : Rule} {p : Nat} (ha : (before ++ rule :: after)[p]? = some a)
      (hp : allBut before.length p = false) : a = rule := by
    obtain rfl : p = before.length := by simpa [allBut] using hp
    simpa using ha.symm
  have hother {a : Rule} {p : Nat} (ha : (before ++ rule :: after)[p]? = some a)
      (hp : allBut before.length p = true) : a ∈ before ++ after := by
    rw [← rulesAt_allBut before after rule]
    refine List.mem_map.mpr ⟨(a, p), List.mem_filter.mpr ⟨?_, hp⟩, rfl⟩
    exact List.mem_zipIdx_iff_getElem?.mpr ha
  intro p q a b ha hb hside
  by_cases hp : allBut before.length p = true
  · have hq : allBut before.length q = false := by simpa [hp] using hside.symm
    rw [hrule hb hq, inConflict_comm]
    exact h a (hother ha hp)
  · have hp := Bool.eq_false_iff.mpr hp
    have hq : allBut before.length q = true := by simpa [hp] using hside.symm
    rw [hrule ha hp]
    exact h b (hother hb hq)

/-- What settling does to a list of rules when one more rule is put between them. -/
structure Admitted (graph : ConflictGraph) (before : List Rule) (rule : Rule) (after : List Rule) :
    Prop where
  reported : (settleAll graph (before ++ rule :: after)).conflicts =
    (settleAll graph (before ++ after)).conflicts
  stays : before.length ∉ (scan graph (before ++ rule :: after)).dropped
  earlier : ∀ p < before.length, p ∈ (scan graph (before ++ rule :: after)).dropped ↔
    p ∈ (scan graph (before ++ after)).dropped
  later : ∀ p ≥ before.length, p + 1 ∈ (scan graph (before ++ rule :: after)).dropped ↔
    p ∈ (scan graph (before ++ after)).dropped
  survivors : ∀ kept, settleAll graph (before ++ after) = .resolved kept →
    ∃ left right, kept = left ++ right ∧ left.Sublist before ∧ right.Sublist after ∧
      settleAll graph (before ++ rule :: after) = .resolved (left ++ rule :: right)

theorem allBut_ne_of_mem {n : Nat} {pair : (Rule × Nat) × (Rule × Nat)}
    (hpair : pair ∈ orderedPairs rules.zipIdx) (hout : pair.1.2 = n ∨ pair.2.2 = n) :
    allBut n pair.1.2 ≠ allBut n pair.2.2 := by
  have hplaces : pair.1.2 < pair.2.2 :=
    pairwise_iff_orderedPairs.mp (positions_ascending rules) _ hpair
  rcases hout with rfl | rfl
  · simp [allBut, hplaces.ne']
  · simp [allBut, hplaces.ne]

theorem Apart.notMem_dropped {n : Nat} (h : Apart graph rules (allBut n)) :
    n ∉ (scan graph rules).dropped := by
  intro hn
  obtain ⟨pair, hpair, hconflict, hdropped⟩ := exists_drops_of_mem_dropped hn
  have hside := allBut_ne_of_mem hpair (hdropped.imp And.right And.right)
  exact absurd hconflict (Bool.eq_false_iff.mp (h.clear_of_mem hpair hside))

theorem Apart.filter_clashes_allBut {n : Nat} (h : Apart graph rules (allBut n)) :
    (clashes graph rules).filter (inside (allBut n)) = clashes graph rules := by
  refine List.filter_eq_self.mpr fun pair hpair => ?_
  have hsame := h.side_eq_of_mem_clashes hpair
  by_contra hout
  rw [inside, hsame, Bool.and_self] at hout
  refine allBut_ne_of_mem (List.mem_of_mem_filter hpair) (Or.inr ?_) hsame
  simpa [allBut] using hout

theorem remaining_insert {scan scan' : Scan}
    (hstays : before.length ∉ scan'.dropped)
    (hearlier : ∀ p < before.length, p ∈ scan'.dropped ↔ p ∈ scan.dropped)
    (hlater : ∀ p ≥ before.length, p + 1 ∈ scan'.dropped ↔ p ∈ scan.dropped) :
    scan'.survivors (before ++ rule :: after) =
      scan.remaining before.zipIdx ++ rule :: scan.remaining (after.zipIdx before.length) := by
  have hbefore : scan'.remaining before.zipIdx = scan.remaining before.zipIdx :=
    Scan.remaining_congr fun item hitem => by
      have hlt := List.snd_lt_of_mem_zipIdx hitem
      exact hearlier item.2 (by omega)
  have hafter : scan'.remaining (after.zipIdx (before.length + 1)) =
      scan.remaining (after.zipIdx before.length) := by
    rw [Nat.add_comm, ← List.map_snd_add_zipIdx_eq_zipIdx]
    exact Scan.remaining_map (· + 1) fun item hitem => hlater _ (List.le_snd_of_mem_zipIdx hitem)
  rw [survivors_eq_remaining, zipIdx_insert, Scan.remaining_append,
    Scan.remaining_cons_of_notMem hstays, hbefore, hafter]

theorem admitted (h : ∀ other ∈ before ++ after, inConflict graph rule other = false) :
    Admitted graph before rule after := by
  have hapart := apart_allBut h
  have hdropped {p : Nat} (hp : allBut before.length p = true) :=
    rulesAt_allBut before after rule ▸ hapart.mem_dropped_iff hp
  have hstays := hapart.notMem_dropped
  have hearlier (p : Nat) (hp : p < before.length) :
      p ∈ (scan graph (before ++ rule :: after)).dropped ↔
        p ∈ (scan graph (before ++ after)).dropped := by
    rw [hdropped (allBut_iff.mpr hp.ne), place_allBut_of_le hp.le]
  have hlater (p : Nat) (hp : p ≥ before.length) :
      p + 1 ∈ (scan graph (before ++ rule :: after)).dropped ↔
        p ∈ (scan graph (before ++ after)).dropped := by
    rw [hdropped (allBut_iff.mpr (by omega)), place_allBut_succ hp]
  have hreported : (scan graph (before ++ rule :: after)).conflicts =
      (scan graph (before ++ after)).conflicts := by
    rw [← rulesAt_allBut before after rule, conflicts_eq_map_clashes, conflicts_eq_map_clashes,
      clashes_rulesAt, hapart.filter_clashes_allBut, List.map_map]
    rfl
  refine ⟨?_, hstays, hearlier, hlater, ?_⟩
  · rw [conflicts_settleAll, conflicts_settleAll, hreported]
  · intro kept hkept
    obtain ⟨hnone, rfl⟩ := settleAll_eq_resolved_iff.mp hkept
    have hsettled := settleAll_eq_resolved_iff.mpr
      ⟨hreported.trans hnone, remaining_insert hstays hearlier hlater⟩
    refine ⟨_, _, ?_, ?_, ?_, hsettled⟩
    · rw [← Scan.remaining_append, survivors_eq_remaining, List.zipIdx_append, Nat.zero_add]
    · simpa using Scan.remaining_sublist (scan graph (before ++ after)) before.zipIdx
    · simpa using Scan.remaining_sublist (scan graph (before ++ after)) (after.zipIdx before.length)

end Insertion

/-- Settling is local. Where no rule of one class of positions conflicts with a rule of the other,
each class is settled as if it were alone; and a rule that conflicts with no other one may be put
anywhere among them. -/
theorem settleAll_local (graph : ConflictGraph) :
    (∀ rules side, Apart graph rules side → SettledApart graph rules side) ∧
      ∀ before rule after, (∀ other ∈ before ++ after, inConflict graph rule other = false) →
        Admitted graph before rule after := by
  refine ⟨?_, ?_⟩
  · intro rules side hapart
    exact hapart.settledApart
  · intro before rule after hlone
    exact admitted hlone

/-- Two pairs of rules in conflict, one at the even positions and one at the odd ones. -/
def crossedRules : List Rule :=
  [(Rule.new "brief" .warn).addConflict "long", (Rule.new "safe" .error).addConflict "fast",
    Rule.new "long" .info, Rule.new "fast" .warn]

theorem settleAll_local_crossed :
    settleAll .empty crossedRules = .resolved (crossedRules.take 2) ∧
      Apart .empty crossedRules (fun p => p % 2 == 0) ∧
      SettledApart .empty crossedRules (fun p => p % 2 == 0) ∧
      (∀ other ∈ crossedRules.take 3 ++ crossedRules.drop 3,
        inConflict .empty (Rule.new "kind" .info) other = false) ∧
      Admitted .empty (crossedRules.take 3) (Rule.new "kind" .info) (crossedRules.drop 3) := by
  have happart : Apart .empty crossedRules fun p => p % 2 == 0 := by
    have hplaces : ∀ p (hp : p < 4) q (hq : q < 4), (p % 2 == 0) ≠ (q % 2 == 0) →
        inConflict .empty crossedRules[p] crossedRules[q] = false := by
      decide
    intro p q a b ha hb hside
    obtain ⟨hp, rfl⟩ := List.getElem?_eq_some_iff.mp ha
    obtain ⟨hq, rfl⟩ := List.getElem?_eq_some_iff.mp hb
    exact hplaces p hp q hq hside
  have hlone : ∀ other ∈ crossedRules.take 3 ++ crossedRules.drop 3,
      inConflict .empty (Rule.new "kind" .info) other = false := by
    decide
  obtain ⟨hsplit, hinsert⟩ := settleAll_local .empty
  exact ⟨rfl, happart, hsplit _ _ happart, hlone, hinsert _ _ _ hlone⟩

end Rulebook.Resolution
