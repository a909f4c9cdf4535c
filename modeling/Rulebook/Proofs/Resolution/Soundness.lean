import Mathlib.Data.List.Nodup
import Rulebook.Catalog.Builtin
import Rulebook.Proofs.Catalog.Conflicts
import Rulebook.Proofs.Resolution.Active
import Rulebook.Proofs.Resolution.Settlement

namespace Rulebook

open Resolution

namespace Resolution

theorem resolveIn_eq_contract_iff {request : Request} {context : Context} {contract : Contract} :
    resolveIn request context = .contract contract ↔
      ∃ rules, settleAll context.catalog.conflictGraph context.activeRules = .resolved rules ∧
        contractOf request context rules = contract := by
  rw [resolveIn]
  cases settleAll context.catalog.conflictGraph context.activeRules <;> simp

theorem resolveIn_eq_blocked_iff {request : Request} {context : Context} {block : Block} :
    resolveIn request context = .blocked block ↔
      ∃ conflicts, settleAll context.catalog.conflictGraph context.activeRules =
          .blocked conflicts ∧ Block.conflictingRules conflicts = block := by
  rw [resolveIn]
  cases settleAll context.catalog.conflictGraph context.activeRules <;> simp

theorem not_opposes_of_settleAll {document : CatalogDocument} {context : Context}
    (hholds : context.catalog.Holds document) (hconsistent : document.Consistent)
    {rules : List Rule}
    (h : settleAll context.catalog.conflictGraph context.activeRules = .resolved rules)
    {a b : Rule} (ha : a ∈ rules) (hb : b ∈ rules) : ¬ a.Opposes b := by
  obtain ⟨hsublist, -, hclear⟩ := resolved_of_settleAll h
  have hascending := context.activeRules_ascending.sublist hsublist
  have hlisted : ∀ rule ∈ rules, rule ∈ document.rules :=
    fun rule hrule => ((Context.mem_activeRules_iff hholds).mp (hsublist.subset hrule)).1
  have hopposed : ∀ a ∈ rules, ∀ b ∈ rules, a.id < b.id → ¬ a.Opposes b := by
    intro a ha b hb hab
    have hpair := pairwise_iff_orderedPairs.mp hclear _
      ((mem_orderedPairs_iff hascending).mpr ⟨ha, hb, hab⟩)
    rw [← hholds.inConflict_iff (hlisted a ha) (hlisted b hb), hpair]
    exact Bool.false_ne_true
  rcases Std.lt_trichotomy a.id b.id with hab | hab | hba
  · exact hopposed a ha b hb hab
  · exact fun hopposed => hconsistent.id_ne_of_opposes (hlisted a ha) (hlisted b hb) hopposed hab
  · exact fun hab => hopposed b hb a ha hba (Rule.opposes_comm.mp hab)

theorem entries_compileConstraints (preset : StackPreset) (rules : List Rule) :
    (compileConstraints preset rules).entries =
      OrderedMap.overlay preset.constraints.entries
        (rules.flatMap fun rule => rule.contributes.entries) := by
  suffices h : ∀ base : ConstraintMap,
      (rules.foldl (fun constraints rule => constraints.overlay rule.contributes) base).entries =
        OrderedMap.overlay base.entries (rules.flatMap fun rule => rule.contributes.entries) from
    h preset.constraints
  induction rules with
  | nil => exact fun _ => rfl
  | cons rule rules ih =>
      intro base
      rw [List.foldl_cons, ih, List.flatMap_cons, OrderedMap.overlay, OrderedMap.overlay,
        List.foldl_append]
      rfl

end Resolution

theorem Template.named?_getD_standard (name : String) :
    (Template.named? name).getD Template.standard = Template.standard := by
  rw [Template.named?, Template.all, List.find?_singleton]
  split <;> rfl

/-- What a contract with these applied rules owes to what it was made from. -/
structure Contract.Sound (contract : Contract) (document : CatalogDocument) (catalog : Catalog)
    (context : Context) (rules : List Rule) : Prop where
  applied : contract.metadata.appliedRules = rules.map fun rule => ⟨rule.id, rule.severity⟩
  ascending : contract.metadata.appliedRules.Pairwise fun a b => a.id < b.id
  known : ∀ rule ∈ rules, rule ∈ document.rules ∧ catalog.rule? rule.id = some rule
  active : ∀ rule ∈ rules, context.Active rule
  errors_applied : ∀ rule ∈ document.rules, rule.severity = .error → context.Active rule →
    rule ∈ rules
  conflict_free : ∀ a ∈ rules, ∀ b ∈ rules, b.id ∉ a.conflictsWith
  constraints : contract.metadata.constraints.entries =
    OrderedMap.overlay context.stackPreset.constraints.entries
      (rules.flatMap fun rule => rule.contributes.entries)
  text : contract.text = Template.standard.fill context.command.intent rules
    contract.metadata.constraints context.stackPreset.name
  unstamped : contract.id = none ∧ contract.generatedAt = none

/-- Every contract is sound for the project, command, preset and ruleset that were asked for. -/
theorem contract_sound {document : CatalogDocument} {catalog : Catalog} {projects : ProjectStore}
    {request : Request} {context : Context} {contract : Contract}
    (hcatalog : Catalog.ofDocument document = .ok catalog)
    (hcontext : Context.load catalog projects request = .ok context)
    (hcontract : resolveIn request context = .contract contract) :
    (projects.project? request.projectId = some context.project ∧
      catalog.command? request.commandId = some context.command ∧
      catalog.stackPreset? context.project.stackPresetId = some context.stackPreset ∧
      catalog.ruleset? context.project.activeRulesetId = some context.ruleset) ∧
    ∃ rules, contract.Sound document catalog context rules := by
  obtain ⟨hproject, hcommand, hpreset, hruleset, hsource⟩ := Context.load_eq_ok_iff.mp hcontext
  have hholds := Catalog.holds_of_ofDocument hcatalog
  have hconsistent := Catalog.consistent_of_ofDocument hcatalog
  subst hsource
  obtain ⟨rules, hsettled, rfl⟩ := resolveIn_eq_contract_iff.mp hcontract
  obtain ⟨hsublist, herrors, -⟩ := resolved_of_settleAll hsettled
  have hactive (rule : Rule) (hrule : rule ∈ rules) :
      rule ∈ document.rules ∧ context.Active rule :=
    (Context.mem_activeRules_iff hholds).mp (hsublist.subset hrule)
  have hascending : rules.Pairwise fun a b => a.id < b.id :=
    context.activeRules_ascending.sublist hsublist
  refine ⟨⟨hproject, hcommand, hpreset, hruleset⟩, rules, ?_⟩
  constructor
  case applied => rfl
  case ascending => exact List.pairwise_map.mpr hascending
  case known =>
    intro rule hrule
    have hmem := (hactive rule hrule).1
    exact ⟨hmem, Index.get?_eq_some_iff.mpr ⟨(hholds.rules rule).mpr hmem, rfl⟩⟩
  case active => exact fun rule hrule => (hactive rule hrule).2
  case errors_applied =>
    intro rule hrule herror hactive
    exact herrors rule ((Context.mem_activeRules_iff hholds).mpr ⟨hrule, hactive⟩) herror
  case conflict_free =>
    intro a ha b hb hdeclared
    exact not_opposes_of_settleAll hholds hconsistent hsettled ha hb (Or.inl hdeclared)
  case constraints => exact entries_compileConstraints context.stackPreset rules
  case text =>
    rw [contractOf, Template.named?_getD_standard]
  case unstamped => exact ⟨rfl, rfl⟩

/-- A shop that turns on a rule which the built-in ruleset lists as optional. -/
def shopProjects : Registry :=
  (Registry.empty.insert <|
    (Project.new "shop" "nextjs-app-router" "standard").toggle "allow-experimental-packages" true).2

def shopRequest : Request :=
  Request.new "shop" "create-component"

theorem contract_sound_shop :
    ∃ catalog context contract,
      Catalog.ofDocument Catalog.builtinDocument = .ok catalog ∧
      Context.load catalog shopProjects shopRequest = .ok context ∧
      resolveIn shopRequest context = .contract contract ∧
      contract.ruleIds =
        ["follow-existing-patterns", "no-new-dependencies", "no-unrequested-changes"] ∧
      ∃ rules, contract.Sound Catalog.builtinDocument catalog context rules := by
  obtain ⟨catalog, hcatalog, context, hcontext, hids⟩ :
      ∃ catalog, Catalog.ofDocument Catalog.builtinDocument = .ok catalog ∧
      ∃ context, Context.load catalog shopProjects shopRequest = .ok context ∧
      (resolveIn shopRequest context).contract?.map Contract.ruleIds = some
        ["follow-existing-patterns", "no-new-dependencies", "no-unrequested-changes"] := by
    refine ⟨_, rfl, _, rfl, ?_⟩
    rw [resolveIn, Context.activeRules_eq_filter]
    rfl
  cases hcontract : resolveIn shopRequest context with
  | blocked block =>
      rw [hcontract] at hids
      cases hids
  | contract contract =>
      rw [hcontract] at hids
      exact ⟨catalog, context, contract, hcatalog, hcontext, hcontract, Option.some.inj hids,
        (contract_sound hcatalog hcontext hcontract).2⟩

end Rulebook
