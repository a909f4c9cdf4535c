import Mathlib.Data.List.Nodup
import Rulebook.Proofs.Resolution.Correspondence

namespace Rulebook

open Resolution

def Rule.forget (gone : String) (rule : Rule) : Rule :=
  { rule with conflictsWith := rule.conflictsWith.filter (· ≠ gone) }

def Ruleset.forget (gone : String) (ruleset : Ruleset) : Ruleset :=
  { ruleset with
    ruleIds := ruleset.ruleIds.filter (· ≠ gone)
    optionalRuleIds := ruleset.optionalRuleIds.filter (· ≠ gone) }

/-- The document without the rule of an id and without any mention of it. -/
def CatalogDocument.erase (document : CatalogDocument) (gone : String) : CatalogDocument :=
  { document with
    rules := (document.rules.filter (·.id ≠ gone)).map (Rule.forget gone)
    rulesets := document.rulesets.map (Ruleset.forget gone) }

section Erase

variable {document : CatalogDocument} {gone : String}

theorem Rule.sameContent_forget (rule : Rule) (gone : String) :
    rule.SameContent (rule.forget gone) :=
  ⟨rfl, rfl, rfl, rfl, rfl⟩

theorem Rule.opposes_forget_iff {a b : Rule} (ha : a.id ≠ gone) (hb : b.id ≠ gone) :
    (a.forget gone).Opposes (b.forget gone) ↔ a.Opposes b := by
  simp [Rule.Opposes, Rule.forget, ha, hb]

theorem CatalogDocument.mem_rules_erase_iff {rule : Rule} :
    rule ∈ (document.erase gone).rules ↔
      ∃ rule' ∈ document.rules, rule'.id ≠ gone ∧ rule'.forget gone = rule := by
  simp [CatalogDocument.erase, and_assoc]

theorem CatalogDocument.mem_ruleIds_erase_iff {id : String} :
    id ∈ (document.erase gone).rules.map Rule.id ↔ id ∈ document.rules.map Rule.id ∧ id ≠ gone := by
  simp only [List.mem_map, mem_rules_erase_iff]
  constructor
  · rintro ⟨-, ⟨rule, hrule, hne, rfl⟩, rfl⟩
    exact ⟨⟨rule, hrule, rfl⟩, hne⟩
  · rintro ⟨⟨rule, hrule, rfl⟩, hne⟩
    exact ⟨rule.forget gone, ⟨rule, hrule, hne, rfl⟩, rfl⟩

theorem CatalogDocument.Consistent.erase (h : document.Consistent) (gone : String) :
    (document.erase gone).Consistent := by
  have hrulesetIds : (document.erase gone).rulesets.map Ruleset.id =
      document.rulesets.map Ruleset.id := by
    rw [CatalogDocument.erase, List.map_map]
    rfl
  constructor
  case rules_distinct =>
    have hids : (document.erase gone).rules.map Rule.id =
        (document.rules.filter (·.id ≠ gone)).map Rule.id := by
      rw [CatalogDocument.erase, List.map_map]
      rfl
    rw [hids]
    exact h.rules_distinct.sublist (List.filter_sublist.map Rule.id)
  case rulesets_distinct =>
    rw [hrulesetIds]
    exact h.rulesets_distinct
  case stackPresets_distinct => exact h.stackPresets_distinct
  case commands_distinct => exact h.commands_distinct
  case conflicts_known =>
    intro rule hrule other hother
    obtain ⟨rule, hlisted, -, rfl⟩ := CatalogDocument.mem_rules_erase_iff.mp hrule
    obtain ⟨hdeclared, hne⟩ := List.mem_filter.mp hother
    obtain ⟨hself, hknown⟩ := h.conflicts_known rule hlisted other hdeclared
    exact ⟨hself, CatalogDocument.mem_ruleIds_erase_iff.mpr ⟨hknown, by simpa using hne⟩⟩
  case references_known =>
    intro ruleset hruleset rule hrule
    obtain ⟨ruleset, hlisted, rfl⟩ := List.mem_map.mp hruleset
    rw [Ruleset.referenced, Ruleset.forget, ← List.filter_append] at hrule
    obtain ⟨hreferenced, hne⟩ := List.mem_filter.mp hrule
    exact CatalogDocument.mem_ruleIds_erase_iff.mpr
      ⟨h.references_known ruleset hlisted rule hreferenced, by simpa using hne⟩
  case defaults_known =>
    rw [hrulesetIds]
    exact h.defaults_known
  case templates_known => exact h.templates_known

theorem Context.active_forget_iff {context : Context} {rule : Rule} (hne : rule.id ≠ gone)
    (catalog : Catalog) :
    Context.Active { context with ruleset := context.ruleset.forget gone, catalog := catalog }
      (rule.forget gone) ↔ context.Active rule := by
  refine (Rule.TakesPart.congr (rule.sameContent_forget gone) ?_ ?_).symm
  · simp [Ruleset.forget, hne]
  · simp [Ruleset.forget, hne]

theorem Context.load_erase {catalog catalog' : Catalog} {projects : ProjectStore}
    {request : Request} {context : Context} (hcatalog : Catalog.ofDocument document = .ok catalog)
    (hcatalog' : Catalog.ofDocument (document.erase gone) = .ok catalog')
    (hcontext : Context.load catalog projects request = .ok context) :
    Context.load catalog' projects request =
      .ok { context with ruleset := context.ruleset.forget gone, catalog := catalog' } := by
  have hholds := Catalog.holds_of_ofDocument hcatalog
  have hholds' := Catalog.holds_of_ofDocument hcatalog'
  obtain ⟨hproject, hcommand, hpreset, hruleset, rfl⟩ := Context.load_eq_ok_iff.mp hcontext
  have hcommands : catalog'.commands = context.catalog.commands :=
    Index.ext_mem fun command => (hholds'.commands command).trans (hholds.commands command).symm
  have hpresets : catalog'.stackPresets = context.catalog.stackPresets :=
    Index.ext_mem fun preset =>
      (hholds'.stackPresets preset).trans (hholds.stackPresets preset).symm
  refine Context.load_eq_ok_iff.mpr ⟨hproject, ?_, ?_, ?_, rfl⟩
  · rw [Catalog.command?, hcommands]
    exact hcommand
  · rw [Catalog.stackPreset?, hpresets]
    exact hpreset
  · obtain ⟨hmem, hid⟩ := Index.get?_eq_some_iff.mp hruleset
    refine Index.get?_eq_some_iff.mpr ⟨(hholds'.rulesets _).mpr ?_, hid⟩
    exact List.mem_map_of_mem ((hholds.rulesets _).mp hmem)

theorem Context.mirrors_forget {context : Context} {catalog' : Catalog}
    (hholds : context.catalog.Holds document) (hholds' : catalog'.Holds (document.erase gone))
    (hgone : ∀ rule ∈ context.activeRules, rule.id ≠ gone) :
    context.Mirrors (Rule.forget gone)
      { context with ruleset := context.ruleset.forget gone, catalog := catalog' } := by
  have hkept : ∀ rule ∈ context.activeRules, rule ∈ document.rules ∧
      rule.forget gone ∈ (document.erase gone).rules := by
    intro rule hrule
    have hlisted := ((Context.mem_activeRules_iff hholds).mp hrule).1
    exact ⟨hlisted,
      CatalogDocument.mem_rules_erase_iff.mpr ⟨rule, hlisted, hgone rule hrule, rfl⟩⟩
  constructor
  case activeRules =>
    refine Context.activeRules_eq_map hholds hholds' (fun _ _ => rfl) ?_
    intro rule'
    rw [CatalogDocument.mem_rules_erase_iff]
    constructor
    · rintro ⟨⟨rule, hrule, hne, rfl⟩, hactive⟩
      exact ⟨rule, ⟨hrule, (Context.active_forget_iff hne _).mp hactive⟩, rfl⟩
    · rintro ⟨rule, ⟨hrule, hactive⟩, rfl⟩
      have hne := hgone rule ((Context.mem_activeRules_iff hholds).mpr ⟨hrule, hactive⟩)
      exact ⟨⟨rule, hrule, hne, rfl⟩, (Context.active_forget_iff hne _).mpr hactive⟩
  case content => exact fun rule _ => rule.sameContent_forget gone
  case conflicts =>
    intro a ha b hb
    obtain ⟨hlisted, hlisted'⟩ := hkept a ha
    obtain ⟨hother, hother'⟩ := hkept b hb
    rw [Bool.eq_iff_iff, hholds.inConflict_iff hlisted hother,
      hholds'.inConflict_iff hlisted' hother']
    exact Rule.opposes_forget_iff (hgone a ha) (hgone b hb)
  case command => exact ⟨rfl, rfl, rfl⟩
  case stackPreset => exact ⟨rfl, rfl, rfl, rfl⟩

end Erase

/-- An inactive rule may be taken out of the document altogether: there is a catalog again, and
the request has the same outcome. -/
theorem resolve_erase_inactive {document : CatalogDocument} {catalog : Catalog}
    {projects : ProjectStore} {request : Request} {context : Context} {rule : Rule}
    (hcatalog : Catalog.ofDocument document = .ok catalog)
    (hcontext : Context.load catalog projects request = .ok context)
    (hrule : rule ∈ document.rules) (hinactive : ¬ context.Active rule) :
    ∃ catalog', Catalog.ofDocument (document.erase rule.id) = .ok catalog' ∧
      (∃ context', Context.load catalog' projects request = .ok context' ∧
        resolveIn request context' = resolveIn request context) ∧
      resolve catalog' projects request = resolve catalog projects request := by
  have hholds := Catalog.holds_of_ofDocument hcatalog
  have hconsistent := Catalog.consistent_of_ofDocument hcatalog
  obtain ⟨catalog', hcatalog'⟩ := Catalog.exists_ofDocument (hconsistent.erase rule.id)
  have hholds' := Catalog.holds_of_ofDocument hcatalog'
  have hcontext' := Context.load_erase hcatalog hcatalog' hcontext
  obtain ⟨-, -, -, -, rfl⟩ := Context.load_eq_ok_iff.mp hcontext
  have hgone : ∀ other ∈ context.activeRules, other.id ≠ rule.id := by
    intro other hother hid
    obtain ⟨hlisted, hactive⟩ := (Context.mem_activeRules_iff hholds).mp hother
    rw [Index.eq_of_key_eq hconsistent.rules_distinct hlisted hrule hid] at hactive
    exact hinactive hactive
  have hresolve : resolveIn request _ = resolveIn request context :=
    (Context.mirrors_forget hholds hholds' hgone).resolveIn_eq rfl rfl
  refine ⟨catalog', hcatalog', ⟨_, hcontext', hresolve⟩, ?_⟩
  rw [resolve, resolve, hcontext, hcontext']
  exact hresolve

def cautiousProjects : Registry :=
  (Registry.empty.insert <|
    (Project.new "shop" "nextjs-app-router" "standard").toggle "allow-experimental-packages"
      false).2

theorem resolve_erase_inactive_shop :
    ∃ catalog context rule,
      Catalog.ofDocument Catalog.builtinDocument = .ok catalog ∧
      Context.load catalog cautiousProjects shopRequest = .ok context ∧
      rule ∈ Catalog.builtinDocument.rules ∧ rule.id = "allow-experimental-packages" ∧
      ¬ context.Active rule ∧
      ∃ catalog', Catalog.ofDocument (Catalog.builtinDocument.erase rule.id) = .ok catalog' ∧
        resolve catalog' cautiousProjects shopRequest =
          resolve catalog cautiousProjects shopRequest := by
  obtain ⟨catalog, hcatalog, context, hcontext, hoff⟩ :
      ∃ catalog, Catalog.ofDocument Catalog.builtinDocument = .ok catalog ∧
      ∃ context, Context.load catalog cautiousProjects shopRequest = .ok context ∧
      context.project.toggles.state? "allow-experimental-packages" = some false :=
    ⟨_, rfl, _, rfl, rfl⟩
  obtain ⟨rule, hrule, hid⟩ :
      ∃ rule ∈ Catalog.builtinDocument.rules, rule.id = "allow-experimental-packages" :=
    ⟨Catalog.builtinRules[4], List.getElem_mem _, rfl⟩
  have hinactive : ¬ context.Active rule := by
    intro hactive
    rw [← hid] at hoff
    exact hactive.not_off hoff
  obtain ⟨catalog', hcatalog', -, hresolve⟩ :=
    resolve_erase_inactive hcatalog hcontext hrule hinactive
  exact ⟨catalog, context, rule, hcatalog, hcontext, hrule, hid, hinactive, catalog', hcatalog',
    hresolve⟩

end Rulebook
