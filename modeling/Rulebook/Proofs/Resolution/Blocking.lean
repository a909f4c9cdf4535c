import Mathlib.Data.List.Nodup
import Rulebook.Proofs.Resolution.Correspondence
import Rulebook.Proofs.Resolution.Soundness

namespace Rulebook

open Resolution

namespace Resolution

/-- The rule belongs to the document, is active and must never be dropped. -/
structure ActiveError (document : CatalogDocument) (context : Context) (rule : Rule) : Prop where
  listed : rule ∈ document.rules
  active : context.Active rule
  error : rule.severity = .error

/-- Two different active rules of severity error, one of which names the other. -/
structure Clash (document : CatalogDocument) (context : Context) (a b : Rule) : Prop where
  left : ActiveError document context a
  right : ActiveError document context b
  different : a ≠ b
  opposed : a.Opposes b

/-- In both contexts the same rules of severity error are active, and they conflict among
themselves alike. Nothing is said about weaker rules. -/
structure SameErrors (document document' : CatalogDocument) (context context' : Context) :
    Prop where
  rules : ∀ id, (∃ rule, ActiveError document context rule ∧ rule.id = id) ↔
    ∃ rule, ActiveError document' context' rule ∧ rule.id = id
  conflicts : ∀ a b a' b', ActiveError document context a → ActiveError document context b →
    ActiveError document' context' a' → ActiveError document' context' b' →
    a.id = a'.id → b.id = b'.id → (a.Opposes b ↔ a'.Opposes b')

theorem Clash.symm {document : CatalogDocument} {context : Context} {a b : Rule}
    (h : Clash document context a b) : Clash document context b a :=
  ⟨h.right, h.left, h.different.symm, Rule.opposes_comm.mp h.opposed⟩

theorem SameErrors.symm {document document' : CatalogDocument} {context context' : Context}
    (h : SameErrors document document' context context') :
    SameErrors document' document context' context := by
  refine ⟨fun id => (h.rules id).symm, ?_⟩
  intro a b a' b' ha hb ha' hb' haid hbid
  exact (h.conflicts a' b' a b ha' hb' ha hb haid.symm hbid.symm).symm

theorem errorConflict?_eq_some_iff {graph : ConflictGraph} {a b : Rule} {conflict : Conflict} :
    errorConflict? graph a b = some conflict ↔
      (a.severity = .error ∧ b.severity = .error ∧ inConflict graph a b = true) ∧
        Conflict.betweenErrors a.id b.id = conflict := by
  rw [errorConflict?]
  split <;> simp_all

theorem mem_conflicts_iff {document : CatalogDocument} {context : Context}
    (hholds : context.catalog.Holds document) {conflict : Conflict} :
    conflict ∈ (scan context.catalog.conflictGraph context.activeRules).conflicts ↔
      ∃ a b, Clash document context a b ∧ a.id < b.id ∧
        conflict = Conflict.betweenErrors a.id b.id := by
  have hmem {rule : Rule} :
      rule ∈ context.activeRules ↔ rule ∈ document.rules ∧ context.Active rule :=
    Context.mem_activeRules_iff hholds
  rw [scan_conflicts, List.mem_filterMap]
  constructor
  · rintro ⟨⟨a, b⟩, hpair, hreport⟩
    obtain ⟨⟨ha, hb, hconflict⟩, rfl⟩ := errorConflict?_eq_some_iff.mp hreport
    obtain ⟨haactive, hbactive, hab⟩ :=
      (mem_orderedPairs_iff context.activeRules_ascending).mp hpair
    obtain ⟨halisted, haactive⟩ := hmem.mp haactive
    obtain ⟨hblisted, hbactive⟩ := hmem.mp hbactive
    refine ⟨a, b, ⟨⟨halisted, haactive, ha⟩, ⟨hblisted, hbactive, hb⟩, ?_, ?_⟩, hab, rfl⟩
    · rintro rfl
      exact String.lt_irrefl _ hab
    · exact (hholds.inConflict_iff halisted hblisted).mp hconflict
  · rintro ⟨a, b, h, hab, rfl⟩
    refine ⟨(a, b), ?_, errorConflict?_eq_some_iff.mpr ⟨⟨h.left.error, h.right.error, ?_⟩, rfl⟩⟩
    · rw [mem_orderedPairs_iff context.activeRules_ascending]
      exact ⟨hmem.mpr ⟨h.left.listed, h.left.active⟩,
        hmem.mpr ⟨h.right.listed, h.right.active⟩, hab⟩
    · exact (hholds.inConflict_iff h.left.listed h.right.listed).mpr h.opposed

theorem conflict_lt_asymm (c d : Conflict) (hcd : c.a < d.a ∨ c.a = d.a ∧ c.b < d.b) :
    ¬(d.a < c.a ∨ d.a = c.a ∧ d.b < c.b) := by
  rintro (hdc | ⟨hdc, hdc'⟩)
  · rcases hcd with hcd | ⟨hcd, -⟩
    · exact String.lt_irrefl _ (String.lt_trans hcd hdc)
    · exact String.lt_irrefl _ (hcd ▸ hdc)
  · rcases hcd with hcd | ⟨-, hcd'⟩
    · exact String.lt_irrefl _ (hdc ▸ hcd)
    · exact String.lt_irrefl _ (String.lt_trans hcd' hdc')

theorem conflicts_ascending (context : Context) :
    (scan context.catalog.conflictGraph context.activeRules).conflicts.Pairwise fun c d =>
      c.a < d.a ∨ c.a = d.a ∧ c.b < d.b := by
  rw [scan_conflicts]
  refine (orderedPairs_ascending context.activeRules_ascending).filterMap _ ?_
  intro p q hpq c hc d hd
  obtain ⟨-, rfl⟩ := errorConflict?_eq_some_iff.mp hc
  obtain ⟨-, rfl⟩ := errorConflict?_eq_some_iff.mp hd
  exact hpq

theorem block?_resolveIn (request : Request) (context : Context) :
    (resolveIn request context).block? =
      let conflicts := (scan context.catalog.conflictGraph context.activeRules).conflicts
      if conflicts = [] then none else some (.conflictingRules conflicts) := by
  rw [resolveIn, settleAll]
  by_cases hnone : (scan context.catalog.conflictGraph context.activeRules).conflicts = []
  · simp [hnone, block?]
  · simp [hnone, block?]

theorem Clash.exists_lt {document : CatalogDocument} {context : Context} {a b : Rule}
    (hconsistent : document.Consistent) (h : Clash document context a b) :
    ∃ a b, Clash document context a b ∧ a.id < b.id := by
  rcases Std.lt_trichotomy a.id b.id with hab | hab | hba
  · exact ⟨a, b, h, hab⟩
  · exact absurd (Index.eq_of_key_eq hconsistent.rules_distinct h.left.listed h.right.listed hab)
      h.different
  · exact ⟨b, a, h.symm, hba⟩

theorem SameErrors.exists_clash {document document' : CatalogDocument}
    {context context' : Context} (h : SameErrors document document' context context') {a b : Rule}
    (hclash : Clash document context a b) (hab : a.id < b.id) :
    ∃ a' b', Clash document' context' a' b' ∧ a'.id = a.id ∧ b'.id = b.id := by
  obtain ⟨a', ha', haid⟩ := (h.rules a.id).mp ⟨a, hclash.left, rfl⟩
  obtain ⟨b', hb', hbid⟩ := (h.rules b.id).mp ⟨b, hclash.right, rfl⟩
  refine ⟨a', b', ⟨ha', hb', ?_, ?_⟩, haid, hbid⟩
  · rintro rfl
    rw [← haid, ← hbid] at hab
    exact String.lt_irrefl _ hab
  · exact (h.conflicts a b a' b' hclash.left hclash.right ha' hb' haid.symm hbid.symm).mp
      hclash.opposed

theorem SameErrors.mem_conflicts {document document' : CatalogDocument}
    {context context' : Context} (hholds : context.catalog.Holds document)
    (hholds' : context'.catalog.Holds document')
    (h : SameErrors document document' context context') {conflict : Conflict}
    (hconflict : conflict ∈ (scan context.catalog.conflictGraph context.activeRules).conflicts) :
    conflict ∈ (scan context'.catalog.conflictGraph context'.activeRules).conflicts := by
  obtain ⟨a, b, hclash, hab, rfl⟩ := (mem_conflicts_iff hholds).mp hconflict
  obtain ⟨a', b', hclash', haid, hbid⟩ := h.exists_clash hclash hab
  refine (mem_conflicts_iff hholds').mpr ⟨a', b', hclash', ?_, ?_⟩
  · rw [haid, hbid]
    exact hab
  · rw [haid, hbid]

theorem SameErrors.conflicts_eq {document document' : CatalogDocument}
    {context context' : Context} (hholds : context.catalog.Holds document)
    (hholds' : context'.catalog.Holds document')
    (h : SameErrors document document' context context') :
    (scan context'.catalog.conflictGraph context'.activeRules).conflicts =
      (scan context.catalog.conflictGraph context.activeRules).conflicts := by
  refine Index.eq_of_pairwise_asymm conflict_lt_asymm (conflicts_ascending context')
    (conflicts_ascending context) ?_
  intro conflict
  exact ⟨h.symm.mem_conflicts hholds' hholds, h.mem_conflicts hholds hholds'⟩

end Resolution

/-- A known request is blocked exactly when two active rules of severity error conflict. The block
says so, and lists each such pair once, in order. Other rules play no part in this. -/
theorem block_exact {document : CatalogDocument} {catalog : Catalog} {projects : ProjectStore}
    {request : Request} {context : Context}
    (hcatalog : Catalog.ofDocument document = .ok catalog)
    (hcontext : Context.load catalog projects request = .ok context) :
    ((∃ block, resolveIn request context = .blocked block) ↔
      ∃ a b, Clash document context a b) ∧
    (∀ block, resolveIn request context = .blocked block →
      block.reason = .conflictingRules ∧ ∃ conflicts, block.conflicts = some conflicts ∧
        (∀ conflict, conflict ∈ conflicts ↔ ∃ a b, Clash document context a b ∧ a.id < b.id ∧
          conflict = Conflict.betweenErrors a.id b.id) ∧
        conflicts.Pairwise fun c d => c.a < d.a ∨ c.a = d.a ∧ c.b < d.b) ∧
    ∀ (document' : CatalogDocument) (catalog' : Catalog) (projects' : ProjectStore)
      (request' : Request) (context' : Context),
      Catalog.ofDocument document' = .ok catalog' →
      Context.load catalog' projects' request' = .ok context' →
      SameErrors document document' context context' →
      (resolveIn request' context').block? = (resolveIn request context).block? := by
  obtain ⟨-, -, -, -, rfl⟩ := Context.load_eq_ok_iff.mp hcontext
  have hholds := Catalog.holds_of_ofDocument hcatalog
  have hconsistent := Catalog.consistent_of_ofDocument hcatalog
  have hmem {conflict : Conflict} :
      conflict ∈ (scan context.catalog.conflictGraph context.activeRules).conflicts ↔
        ∃ a b, Clash document context a b ∧ a.id < b.id ∧
          conflict = Conflict.betweenErrors a.id b.id :=
    mem_conflicts_iff hholds
  refine ⟨⟨?_, ?_⟩, ?_, ?_⟩
  · rintro ⟨block, hblock⟩
    obtain ⟨conflicts, hsettled, -⟩ := resolveIn_eq_blocked_iff.mp hblock
    obtain ⟨hsome, hscan⟩ := settleAll_eq_blocked_iff.mp hsettled
    obtain ⟨conflict, hconflict⟩ := List.exists_mem_of_ne_nil _ hsome
    rw [← hscan] at hconflict
    obtain ⟨a, b, hclash, -⟩ := hmem.mp hconflict
    exact ⟨a, b, hclash⟩
  · rintro ⟨a, b, hclash⟩
    obtain ⟨a, b, hclash, hab⟩ := hclash.exists_lt hconsistent
    have hconflict := hmem.mpr ⟨a, b, hclash, hab, rfl⟩
    refine ⟨_, resolveIn_eq_blocked_iff.mpr ⟨_, settleAll_eq_blocked_iff.mpr ⟨?_, rfl⟩, rfl⟩⟩
    exact List.ne_nil_of_mem hconflict
  · intro block hblock
    obtain ⟨conflicts, hsettled, rfl⟩ := resolveIn_eq_blocked_iff.mp hblock
    obtain ⟨-, rfl⟩ := settleAll_eq_blocked_iff.mp hsettled
    exact ⟨rfl, _, rfl, fun _ => hmem, conflicts_ascending context⟩
  · intro document' catalog' projects' request' context' hcatalog' hcontext' hsame
    obtain ⟨-, -, -, -, rfl⟩ := Context.load_eq_ok_iff.mp hcontext'
    have hholds' := Catalog.holds_of_ofDocument hcatalog'
    have hconflicts := hsame.conflicts_eq hholds hholds'
    rw [block?_resolveIn, block?_resolveIn, hconflicts]

def strictRule : Rule :=
  (Rule.new "strict" .error).addConflict "loose"

def looseRule : Rule :=
  Rule.new "loose" .error

def tidyRule : Rule :=
  ((Rule.new "tidy" .warn).addConflict "strict").addConflict "loose"

/-- A document with two rules of severity error that conflict, and weaker rules beside them. -/
def clashingDocument (weaker : List Rule) : CatalogDocument where
  rules := strictRule :: looseRule :: weaker
  rulesets := [{ Ruleset.new "base" with ruleIds := "strict" :: "loose" :: weaker.map Rule.id }]
  stackPresets := [StackPreset.new "stack" "base"]
  commands := [Command.new "make" .generate]

def plainProjects : Registry :=
  (Registry.empty.insert (Project.new "p" "stack" "base")).2

theorem activeError_clashing (weaker : List Rule) {context : Context}
    (hweaker : ∀ rule ∈ weaker, rule.severity ≠ .error) (hstrict : context.Active strictRule)
    (hloose : context.Active looseRule) (rule : Rule) :
    ActiveError (clashingDocument weaker) context rule ↔ rule = strictRule ∨ rule = looseRule := by
  constructor
  · rintro ⟨hlisted, -, herror⟩
    rcases List.mem_cons.mp hlisted with rfl | hlisted
    · exact Or.inl rfl
    · rcases List.mem_cons.mp hlisted with rfl | hlisted
      · exact Or.inr rfl
      · exact absurd herror (hweaker rule hlisted)
  · rintro (rfl | rfl)
    · exact ⟨List.mem_cons_self, hstrict, rfl⟩
    · exact ⟨List.mem_cons_of_mem _ List.mem_cons_self, hloose, rfl⟩

theorem block_exact_clashing :
    ∃ catalog catalog' context context',
      Catalog.ofDocument (clashingDocument []) = .ok catalog ∧
      Context.load catalog plainProjects (Request.new "p" "make") = .ok context ∧
      Catalog.ofDocument (clashingDocument [tidyRule]) = .ok catalog' ∧
      Context.load catalog' plainProjects (Request.new "p" "make") = .ok context' ∧
      SameErrors (clashingDocument []) (clashingDocument [tidyRule]) context context' ∧
      (∃ block, resolveIn (Request.new "p" "make") context = .blocked block) ∧
      (resolveIn (Request.new "p" "make") context').block? =
        (resolveIn (Request.new "p" "make") context).block? := by
  obtain ⟨catalog, hcatalog, context, hcontext, hstrict, hloose⟩ :
      ∃ catalog, Catalog.ofDocument (clashingDocument []) = .ok catalog ∧
      ∃ context, Context.load catalog plainProjects (Request.new "p" "make") = .ok context ∧
      context.Active strictRule ∧ context.Active looseRule :=
    ⟨_, rfl, _, rfl, ⟨by decide, by decide, rfl⟩, ⟨by decide, by decide, rfl⟩⟩
  obtain ⟨catalog', hcatalog', context', hcontext', hstrict', hloose'⟩ :
      ∃ catalog, Catalog.ofDocument (clashingDocument [tidyRule]) = .ok catalog ∧
      ∃ context, Context.load catalog plainProjects (Request.new "p" "make") = .ok context ∧
      context.Active strictRule ∧ context.Active looseRule :=
    ⟨_, rfl, _, rfl, ⟨by decide, by decide, rfl⟩, ⟨by decide, by decide, rfl⟩⟩
  have herror := activeError_clashing [] (by decide) hstrict hloose
  have herror' := activeError_clashing [tidyRule] (by decide) hstrict' hloose'
  have hsame : SameErrors (clashingDocument []) (clashingDocument [tidyRule]) context context' := by
    constructor
    case rules =>
      intro id
      simp only [herror, herror']
    case conflicts =>
      intro a b a' b' ha hb ha' hb' haid hbid
      have heq {x y : Rule} (hx : x = strictRule ∨ x = looseRule)
          (hy : y = strictRule ∨ y = looseRule) (hid : x.id = y.id) : x = y := by
        rcases hx with rfl | rfl <;> rcases hy with rfl | rfl
        · rfl
        · exact absurd hid (by decide)
        · exact absurd hid (by decide)
        · rfl
      rw [heq ((herror a).mp ha) ((herror' a').mp ha') haid,
        heq ((herror b).mp hb) ((herror' b').mp hb') hbid]
  obtain ⟨hblocked, -, hweaker⟩ := block_exact hcatalog hcontext
  refine ⟨catalog, catalog', context, context', hcatalog, hcontext, hcatalog', hcontext', hsame,
    hblocked.mpr ⟨strictRule, looseRule, ?_⟩, hweaker _ _ _ _ _ hcatalog' hcontext' hsame⟩
  refine ⟨(herror _).mpr (Or.inl rfl), (herror _).mpr (Or.inr rfl), ?_, Or.inl ?_⟩
  · exact fun h => absurd (congrArg Rule.id h) (by decide)
  · exact List.mem_cons_self

open Resolution

theorem inConflict_empty_iff {a b : Rule} :
    inConflict ConflictGraph.empty a b = true ↔ a.Opposes b := by
  simp [inConflict, ConflictGraph.conflicts, ConflictGraph.empty, Rule.declares_iff, Rule.Opposes]

/-- The graph of a catalog knows a conflict between two of its rules exactly when one of them
declares it, so settling with the graph and settling by the declarations alone come to the same. -/
theorem conflictGraph_says_declared {document : CatalogDocument} {catalog : Catalog}
    (hcatalog : Catalog.ofDocument document = .ok catalog) :
    (∀ a ∈ catalog.rules.entries, ∀ b ∈ catalog.rules.entries,
      catalog.conflictGraph.conflicts a.id b.id = true ↔
        a.declares b.id = true ∨ b.declares a.id = true) ∧
    ∀ rules ⊆ catalog.rules.entries,
      settleAll catalog.conflictGraph rules = settleAll ConflictGraph.empty rules := by
  have hholds := Catalog.holds_of_ofDocument hcatalog
  have hconsistent := Catalog.consistent_of_ofDocument hcatalog
  refine ⟨?_, ?_⟩
  · intro a ha b hb
    rw [hholds.conflicts_iff hconsistent ha hb, Rule.declares_iff, Rule.declares_iff, Rule.Opposes]
  · intro rules hrules
    apply settleAll_congr
    intro a ha b hb
    rw [Bool.eq_iff_iff, inConflict_empty_iff]
    exact hholds.inConflict_iff ((hholds.rules a).mp (hrules ha)) ((hholds.rules b).mp (hrules hb))

theorem conflictGraph_says_declared_clashing :
    ∃ catalog, Catalog.ofDocument (clashingDocument [tidyRule]) = .ok catalog ∧
      catalog.conflictGraph.conflicts "loose" "strict" = true ∧
      settleAll ConflictGraph.empty [tidyRule, strictRule, looseRule] =
        .blocked [Conflict.betweenErrors "strict" "loose"] ∧
      settleAll catalog.conflictGraph [tidyRule, strictRule, looseRule] =
        .blocked [Conflict.betweenErrors "strict" "loose"] := by
  obtain ⟨catalog, hcatalog, hrules⟩ :
      ∃ catalog, Catalog.ofDocument (clashingDocument [tidyRule]) = .ok catalog ∧
        catalog.rules.entries = [looseRule, strictRule, tidyRule] :=
    ⟨_, rfl, rfl⟩
  obtain ⟨hgraph, hsettled⟩ := conflictGraph_says_declared hcatalog
  have hmem : [tidyRule, strictRule, looseRule] ⊆ catalog.rules.entries := by
    rw [hrules]
    simp
  have hempty : settleAll ConflictGraph.empty [tidyRule, strictRule, looseRule] =
      .blocked [Conflict.betweenErrors "strict" "loose"] :=
    rfl
  refine ⟨catalog, hcatalog, ?_, hempty, (hsettled _ hmem).trans hempty⟩
  have hdeclared := hgraph looseRule (hmem (by simp)) strictRule (hmem (by simp))
  exact hdeclared.mpr (Or.inr (by decide))

end Rulebook
