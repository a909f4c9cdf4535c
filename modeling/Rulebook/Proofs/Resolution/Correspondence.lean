import Mathlib.Data.List.Nodup
import Rulebook.Proofs.Resolution.Soundness

namespace Rulebook

open Resolution

/-- Everything a resolution reads of a rule, its declared conflicts apart. -/
structure Rule.SameContent (a b : Rule) : Prop where
  id : a.id = b.id
  severity : a.severity = b.severity
  appliesTo : a.appliesTo = b.appliesTo
  directive : a.directive = b.directive
  contributes : a.contributes = b.contributes

structure StackPreset.SameContent (a b : StackPreset) : Prop where
  id : a.id = b.id
  name : a.name = b.name
  defaultRulesetId : a.defaultRulesetId = b.defaultRulesetId
  constraints : a.constraints = b.constraints

structure Command.SameContent (a b : Command) : Prop where
  id : a.id = b.id
  intent : a.intent = b.intent
  template : a.template = b.template

theorem Rule.TakesPart.congr {a b : Rule} {left right : Ruleset} {toggles : Toggles}
    {intent : Intent} (hcontent : a.SameContent b)
    (hmandatory : a.id ∈ left.ruleIds ↔ a.id ∈ right.ruleIds)
    (hoptional : a.id ∈ left.optionalRuleIds ↔ a.id ∈ right.optionalRuleIds) :
    a.TakesPart left toggles intent ↔ b.TakesPart right toggles intent := by
  have happlies : a.applies intent = b.applies intent := by
    rw [Rule.applies, Rule.applies, hcontent.appliesTo]
  constructor
  · rintro ⟨hlisted, hoff, happlied⟩
    rw [hmandatory, hoptional] at hlisted
    rw [hcontent.id] at hlisted hoff
    exact ⟨hlisted, hoff, happlies ▸ happlied⟩
  · rintro ⟨hlisted, hoff, happlied⟩
    rw [← hcontent.id] at hlisted hoff
    rw [← hmandatory, ← hoptional] at hlisted
    exact ⟨hlisted, hoff, happlies ▸ happlied⟩

namespace Resolution

section Map

variable {f : Rule → Rule} {graph graph' : ConflictGraph} {active rules : List Rule}

theorem scan_map (hcontent : ∀ rule ∈ active, rule.SameContent (f rule))
    (hconflict : ∀ a ∈ active, ∀ b ∈ active,
      inConflict graph' (f a) (f b) = inConflict graph a b) :
    scan graph' (active.map f) = scan graph active := by
  rw [scan, scan, List.zipIdx_map, orderedPairs_map, List.foldl_map]
  refine List.foldl_ext _ _ _ ?_
  rintro scan ⟨⟨a, i⟩, ⟨b, j⟩⟩ hpair
  obtain ⟨ha, hb⟩ := mem_of_mem_orderedPairs hpair
  have ha' : a ∈ active := List.fst_mem_of_mem_zipIdx ha
  have hb' : b ∈ active := List.fst_mem_of_mem_zipIdx hb
  simp only [Scan.step, Prod.map_apply, id_eq, hconflict a ha' b hb', ← (hcontent a ha').id,
    ← (hcontent b hb').id, ← (hcontent a ha').severity, ← (hcontent b hb').severity]

theorem survivors_map (f : Rule → Rule) (scan : Scan) (active : List Rule) :
    scan.survivors (active.map f) = (scan.survivors active).map f := by
  rw [Scan.survivors, Scan.survivors, List.zipIdx_map, List.filter_map, List.map_map, List.map_map]
  rfl

theorem settleAll_map (hcontent : ∀ rule ∈ active, rule.SameContent (f rule))
    (hconflict : ∀ a ∈ active, ∀ b ∈ active,
      inConflict graph' (f a) (f b) = inConflict graph a b) :
    settleAll graph' (active.map f) =
      match settleAll graph active with
      | .resolved rules => .resolved (rules.map f)
      | .blocked conflicts => .blocked conflicts := by
  have hscan := scan_map hcontent hconflict
  cases hsettled : settleAll graph active with
  | resolved rules =>
      obtain ⟨hnone, rfl⟩ := settleAll_eq_resolved_iff.mp hsettled
      refine settleAll_eq_resolved_iff.mpr ⟨?_, ?_⟩
      · rw [hscan]
        exact hnone
      · rw [hscan, survivors_map]
  | blocked conflicts =>
      obtain ⟨hsome, hfound⟩ := settleAll_eq_blocked_iff.mp hsettled
      refine settleAll_eq_blocked_iff.mpr ⟨hsome, ?_⟩
      rw [hscan]
      exact hfound

theorem settleAll_congr (h : ∀ a ∈ active, ∀ b ∈ active,
    inConflict graph' a b = inConflict graph a b) :
    settleAll graph' active = settleAll graph active := by
  have hmap : settleAll graph' (active.map id) = _ :=
    settleAll_map (fun rule _ => ⟨rfl, rfl, rfl, rfl, rfl⟩) h
  rw [List.map_id] at hmap
  rw [hmap]
  cases settleAll graph active with
  | resolved rules => exact congrArg Settlement.resolved (List.map_id rules)
  | blocked conflicts => rfl

theorem compileConstraints_map {preset preset' : StackPreset} (hpreset : preset.SameContent preset')
    (hcontent : ∀ rule ∈ rules, rule.SameContent (f rule)) :
    compileConstraints preset' (rules.map f) = compileConstraints preset rules := by
  rw [compileConstraints, compileConstraints, List.foldl_map, hpreset.constraints]
  refine List.foldl_ext _ _ _ ?_
  intro constraints rule hrule
  rw [(hcontent rule hrule).contributes]

theorem ruleLines_map (hcontent : ∀ rule ∈ rules, rule.SameContent (f rule)) :
    Template.ruleLines (rules.map f) = Template.ruleLines rules := by
  have hdirectives : (rules.map f).map Rule.directive = rules.map Rule.directive := by
    rw [List.map_map]
    exact List.map_congr_left fun rule hrule => (hcontent rule hrule).directive.symm
  rw [Template.ruleLines, Template.ruleLines, hdirectives, List.isEmpty_map]

theorem fill_congr {template : Template} {intent : Intent} {left right : List Rule}
    {constraints : ConstraintMap} {stack : String}
    (h : Template.ruleLines left = Template.ruleLines right) :
    template.fill intent left constraints stack = template.fill intent right constraints stack := by
  have hvalues : Template.slotValue? intent left constraints stack =
      Template.slotValue? intent right constraints stack := by
    funext name
    simp only [Template.slotValue?, h]
  rw [Template.fill, Template.fill, hvalues]

end Map

/-- The second context shows a resolution what the first one does, its rules under a map. -/
structure Context.Mirrors (f : Rule → Rule) (context context' : Context) : Prop where
  activeRules : context'.activeRules = context.activeRules.map f
  content : ∀ rule ∈ context.activeRules, rule.SameContent (f rule)
  conflicts : ∀ a ∈ context.activeRules, ∀ b ∈ context.activeRules,
    inConflict context'.catalog.conflictGraph (f a) (f b) =
      inConflict context.catalog.conflictGraph a b
  command : context.command.SameContent context'.command
  stackPreset : context.stackPreset.SameContent context'.stackPreset

variable {f : Rule → Rule} {context context' : Context} {request request' : Request}

theorem Context.Mirrors.contractOf_eq (h : context.Mirrors f context')
    (hproject : request.projectId = request'.projectId)
    (hcommand : request.commandId = request'.commandId) {rules : List Rule}
    (hrules : rules ⊆ context.activeRules) :
    contractOf request' context' (rules.map f) = contractOf request context rules := by
  have hcontent : ∀ rule ∈ rules, rule.SameContent (f rule) :=
    fun rule hrule => h.content rule (hrules hrule)
  have happlied : (rules.map f).map (fun rule => AppliedRule.mk rule.id rule.severity) =
      rules.map fun rule => AppliedRule.mk rule.id rule.severity := by
    rw [List.map_map]
    refine List.map_congr_left fun rule hrule => ?_
    rw [Function.comp_apply, (hcontent rule hrule).id, (hcontent rule hrule).severity]
  simp only [contractOf, hproject, hcommand, h.command.intent, h.command.template,
    h.stackPreset.id, h.stackPreset.name, compileConstraints_map h.stackPreset hcontent,
    fill_congr (ruleLines_map hcontent), happlied]

/-- Contexts that mirror each other have the same outcome. -/
theorem Context.Mirrors.resolveIn_eq (h : context.Mirrors f context')
    (hproject : request.projectId = request'.projectId)
    (hcommand : request.commandId = request'.commandId) :
    resolveIn request' context' = resolveIn request context := by
  rw [resolveIn, resolveIn, h.activeRules, settleAll_map h.content h.conflicts]
  cases hsettled : settleAll context.catalog.conflictGraph context.activeRules with
  | blocked conflicts => rfl
  | resolved rules =>
      have hsublist := (resolved_of_settleAll hsettled).1
      exact congrArg Resolution.contract (h.contractOf_eq hproject hcommand hsublist.subset)

theorem Context.activeRules_eq_map {document document' : CatalogDocument}
    (hholds : context.catalog.Holds document) (hholds' : context'.catalog.Holds document')
    (hid : ∀ rule ∈ context.activeRules, (f rule).id = rule.id)
    (hmem : ∀ rule', rule' ∈ document'.rules ∧ context'.Active rule' ↔
      ∃ rule, (rule ∈ document.rules ∧ context.Active rule) ∧ f rule = rule') :
    context'.activeRules = context.activeRules.map f := by
  refine Index.eq_of_ascending context'.activeRules_ascending ?_ ?_
  · rw [List.pairwise_map]
    refine context.activeRules_ascending.imp_of_mem ?_
    intro a b ha hb hab
    rw [hid a ha, hid b hb]
    exact hab
  · intro rule'
    rw [Context.mem_activeRules_iff hholds', hmem, List.mem_map]
    simp only [Context.mem_activeRules_iff hholds]

end Resolution

end Rulebook
