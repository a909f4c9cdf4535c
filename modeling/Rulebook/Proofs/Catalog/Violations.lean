import Mathlib.Data.List.Basic
import Rulebook.Proofs.Catalog.Validation

/-!
Why a document is refused: of all that is wrong with it, the answer is what comes first in the order
of the checks. Ids are checked in the order of their list, references in the order of the ids of
those who refer and then in the order in which they stand there.
-/

namespace Rulebook

/-- The item is the first bad one of the list. -/
def Earliest {α : Type} (Bad : α → Prop) (items : List α) (a : α) : Prop :=
  ∃ before after, items = before ++ a :: after ∧ Bad a ∧ ∀ b ∈ before, ¬ Bad b

/-- The key stands at the earliest place where a key comes again. -/
def EarliestRepeat (keys : List String) (k : String) : Prop :=
  ∃ before after, keys = before ++ k :: after ∧ k ∈ before ∧ before.Nodup

theorem EarliestRepeat.not_nodup {keys : List String} {k : String} (h : EarliestRepeat keys k) :
    ¬ keys.Nodup := by
  obtain ⟨before, after, rfl, hmem, -⟩ := h
  intro hnodup
  exact (List.nodup_append.mp hnodup).2.2 k hmem k List.mem_cons_self rfl

/-- The entry is bad, and no entry of a smaller key is. -/
structure LeastBad {α : Type} (key : α → String) (Bad : α → Prop) (entries : List α) (a : α) :
    Prop where
  mem : a ∈ entries
  bad : Bad a
  least : ∀ b ∈ entries, key b < key a → ¬ Bad b

theorem findSome?_eq_some_iff_earliest {α β : Type} {f : α → Option β} {items : List α} {b : β} :
    items.findSome? f = some b ↔ ∃ a, Earliest (fun a => f a ≠ none) items a ∧ f a = some b := by
  rw [List.findSome?_eq_some_iff]
  constructor
  · rintro ⟨before, a, after, hitems, ha, hbefore⟩
    refine ⟨a, ⟨before, after, hitems, ?_, ?_⟩, ha⟩
    · show f a ≠ none
      rw [ha]
      exact Option.some_ne_none b
    · intro c hc hbad
      exact hbad (hbefore c hc)
  · rintro ⟨a, ⟨before, after, hitems, -, hbefore⟩, ha⟩
    exact ⟨before, a, after, hitems, ha, fun c hc => not_not.mp (hbefore c hc)⟩

theorem Earliest.congr {α : Type} {P Q : α → Prop} (h : ∀ a, P a ↔ Q a) (items : List α) (a : α) :
    Earliest P items a ↔ Earliest Q items a := by
  simp only [Earliest, h]

namespace Index

variable {α : Type} {key : α → String}

theorem addNew_append (index : Index α key) (before after : List α) :
    index.addNew (before ++ after) = index.addNew before >>= (·.addNew after) := by
  induction before generalizing index with
  | nil => rfl
  | cons a before ih =>
      rw [List.cons_append, addNew, addNew]
      split
      · rfl
      · exact ih _

theorem addNew_eq_error {index : Index α key} {entries : List α} {k : String}
    (h : index.addNew entries = .error k) :
    ∃ before a after final, entries = before ++ a :: after ∧ key a = k ∧
      index.addNew before = .ok final ∧ final.contains k = true := by
  induction entries generalizing index with
  | nil => cases h
  | cons a entries ih =>
      rw [addNew] at h
      split at h
      · rename_i hcontains
        cases h
        exact ⟨[], a, entries, index, rfl, rfl, rfl, hcontains⟩
      · rename_i hcontains
        obtain ⟨before, b, after, final, rfl, hkey, hbefore, hfinal⟩ := ih h
        refine ⟨a :: before, b, after, final, rfl, hkey, ?_, hfinal⟩
        rw [addNew, if_neg hcontains]
        exact hbefore

theorem ofDistinct_eq_error_iff {entries : List α} {k : String} :
    (ofDistinct entries : Except String (Index α key)) = .error k ↔
      EarliestRepeat (entries.map key) k := by
  have hcontains {before : List α} {final : Index α key} (h : ofDistinct before = .ok final) :
      final.contains k = true ↔ k ∈ before.map key :=
    Catalog.contains_iff_mem_map (mem_of_ofDistinct h) k
  constructor
  · intro h
    obtain ⟨before, a, after, final, rfl, rfl, hbefore, hfinal⟩ := addNew_eq_error h
    refine ⟨before.map key, after.map key, List.map_append, ?_, ?_⟩
    · exact (hcontains hbefore).mp hfinal
    · exact exists_ofDistinct_iff.mp ⟨final, hbefore⟩
  · rintro ⟨keys, rest, hkeys, hmem, hnodup⟩
    obtain ⟨before, entries, rfl, rfl, hentries⟩ := List.map_eq_append_iff.mp hkeys
    obtain ⟨a, after, rfl, rfl, rfl⟩ := List.map_eq_cons_iff.mp hentries
    obtain ⟨final, hfinal⟩ := exists_ofDistinct_iff.mpr hnodup
    have hagain : final.contains (key a) = true := (hcontains hfinal).mpr hmem
    rw [ofDistinct, addNew_append]
    rw [ofDistinct] at hfinal
    rw [hfinal]
    show final.addNew (a :: after) = .error (key a)
    rw [addNew, if_pos hagain]

theorem findSome?_entries_iff {β : Type} {index : Index α key} {entries : List α}
    (hmem : ∀ a, a ∈ index.entries ↔ a ∈ entries) {f : α → Option β} {b : β} :
    index.entries.findSome? f = some b ↔
      ∃ a, LeastBad key (fun a => f a ≠ none) entries a ∧ f a = some b := by
  rw [findSome?_eq_some_iff_earliest]
  refine exists_congr fun a => and_congr_left fun _ => ?_
  constructor
  · rintro ⟨before, after, hindex, hbad, hbefore⟩
    have hascending := index.ascending
    rw [hindex, List.pairwise_append, List.pairwise_cons] at hascending
    obtain ⟨-, ⟨hafter, -⟩, -⟩ := hascending
    refine ⟨(hmem a).mp ?_, hbad, fun c hc hlt => ?_⟩
    · rw [hindex]
      exact List.mem_append_right _ List.mem_cons_self
    · have hc' := (hmem c).mpr hc
      rw [hindex, List.mem_append, List.mem_cons] at hc'
      rcases hc' with hc' | rfl | hc'
      · exact hbefore c hc'
      · exact absurd hlt (String.lt_irrefl _)
      · exact absurd (String.lt_trans hlt (hafter c hc')) (String.lt_irrefl _)
  · rintro ⟨ha, hbad, hleast⟩
    obtain ⟨before, after, hindex⟩ := List.append_of_mem ((hmem a).mpr ha)
    have hascending := index.ascending
    rw [hindex, List.pairwise_append] at hascending
    refine ⟨before, after, hindex, hbad, fun c hc => ?_⟩
    refine hleast c ((hmem c).mp ?_) (hascending.2.2 c hc a List.mem_cons_self)
    rw [hindex]
    exact List.mem_append_left _ hc

theorem findSome?_entries_eq_none_iff {β : Type} {index : Index α key} {entries : List α}
    (hmem : ∀ a, a ∈ index.entries ↔ a ∈ entries) {f : α → Option β} :
    index.entries.findSome? f = none ↔ ∀ a ∈ entries, f a = none := by
  rw [List.findSome?_eq_none_iff]
  simp only [hmem]

end Index

theorem LeastBad.congr {α : Type} {key : α → String} {P Q : α → Prop} (h : ∀ a, P a ↔ Q a)
    (entries : List α) (a : α) : LeastBad key P entries a ↔ LeastBad key Q entries a := by
  have heq : P = Q := funext fun a => propext (h a)
  rw [heq]

namespace CatalogDocument

/-- A rule may declare a conflict with any other rule of the document. -/
def AllowsConflict (document : CatalogDocument) (rule : Rule) (other : String) : Prop :=
  other ≠ rule.id ∧ other ∈ document.rules.map Rule.id

def AllowsConflicts (document : CatalogDocument) (rule : Rule) : Prop :=
  ∀ other ∈ rule.conflictsWith, document.AllowsConflict rule other

def HasRules (document : CatalogDocument) (ruleset : Ruleset) : Prop :=
  ∀ rule ∈ ruleset.ruleIds ++ ruleset.optionalRuleIds, rule ∈ document.rules.map Rule.id

def HasDefault (document : CatalogDocument) (preset : StackPreset) : Prop :=
  preset.defaultRulesetId ∈ document.rulesets.map Ruleset.id

/-- No id stands twice in one of the four lists. -/
structure DistinctIds (document : CatalogDocument) : Prop where
  rules : (document.rules.map Rule.id).Nodup
  rulesets : (document.rulesets.map Ruleset.id).Nodup
  stackPresets : (document.stackPresets.map StackPreset.id).Nodup
  commands : (document.commands.map Command.id).Nodup

/-- The error names what is wrong with the document first. What is checked before it is as it should
be: the lists in front of it, and there the entries of smaller ids and the references that stand
before. -/
inductive FirstViolation (document : CatalogDocument) : CatalogError → Prop where
  | repeatedRule {id : String} (hrepeat : EarliestRepeat (document.rules.map Rule.id) id) :
      FirstViolation document (.duplicateId .rule id)
  | repeatedRuleset {id : String} (hrules : (document.rules.map Rule.id).Nodup)
      (hrepeat : EarliestRepeat (document.rulesets.map Ruleset.id) id) :
      FirstViolation document (.duplicateId .ruleset id)
  | repeatedStackPreset {id : String} (hrules : (document.rules.map Rule.id).Nodup)
      (hrulesets : (document.rulesets.map Ruleset.id).Nodup)
      (hrepeat : EarliestRepeat (document.stackPresets.map StackPreset.id) id) :
      FirstViolation document (.duplicateId .stackPreset id)
  | repeatedCommand {id : String} (hrules : (document.rules.map Rule.id).Nodup)
      (hrulesets : (document.rulesets.map Ruleset.id).Nodup)
      (hpresets : (document.stackPresets.map StackPreset.id).Nodup)
      (hrepeat : EarliestRepeat (document.commands.map Command.id) id) :
      FirstViolation document (.duplicateId .command id)
  | selfConflict {rule : Rule} (hids : document.DistinctIds)
      (hrule : LeastBad Rule.id (fun rule => ¬ document.AllowsConflicts rule) document.rules rule)
      (hself : Earliest (fun other => ¬ document.AllowsConflict rule other) rule.conflictsWith
        rule.id) :
      FirstViolation document (.selfConflict rule.id)
  | unknownConflict {rule : Rule} {other : String} (hids : document.DistinctIds)
      (hrule : LeastBad Rule.id (fun rule => ¬ document.AllowsConflicts rule) document.rules rule)
      (hother : Earliest (fun other => ¬ document.AllowsConflict rule other) rule.conflictsWith
        other)
      (hne : other ≠ rule.id) :
      FirstViolation document (.unknownConflict rule.id other)
  | unknownRulesetRule {ruleset : Ruleset} {rule : String} (hids : document.DistinctIds)
      (hconflicts : ∀ rule ∈ document.rules, document.AllowsConflicts rule)
      (hruleset : LeastBad Ruleset.id (fun ruleset => ¬ document.HasRules ruleset)
        document.rulesets ruleset)
      (hrule : Earliest (fun rule => rule ∉ document.rules.map Rule.id)
        (ruleset.ruleIds ++ ruleset.optionalRuleIds) rule) :
      FirstViolation document (.unknownRulesetRule ruleset.id rule)
  | unknownDefaultRuleset {preset : StackPreset} (hids : document.DistinctIds)
      (hconflicts : ∀ rule ∈ document.rules, document.AllowsConflicts rule)
      (hrulesets : ∀ ruleset ∈ document.rulesets, document.HasRules ruleset)
      (hpreset : LeastBad StackPreset.id (fun preset => ¬ document.HasDefault preset)
        document.stackPresets preset) :
      FirstViolation document (.unknownDefaultRuleset preset.id preset.defaultRulesetId)
  | unknownTemplate {command : Command} (hids : document.DistinctIds)
      (hconflicts : ∀ rule ∈ document.rules, document.AllowsConflicts rule)
      (hrulesets : ∀ ruleset ∈ document.rulesets, document.HasRules ruleset)
      (hpresets : ∀ preset ∈ document.stackPresets, document.HasDefault preset)
      (hcommand : LeastBad Command.id (fun command => Template.named? command.template = none)
        document.commands command) :
      FirstViolation document (.unknownTemplate command.id command.template)

end CatalogDocument

namespace Catalog

open CatalogDocument

section Violations

variable {document : CatalogDocument} {rules : Index Rule Rule.id}
  {rulesets : Index Ruleset Ruleset.id} {stackPresets : Index StackPreset StackPreset.id}
  {commands : Index Command Command.id} {error : CatalogError}

theorem ruleViolation?_eq_none_iff_allows
    (hrules : ∀ rule, rule ∈ rules.entries ↔ rule ∈ document.rules) (rule : Rule) :
    ruleViolation? rules rule = none ↔ document.AllowsConflicts rule := by
  rw [ruleViolation?_eq_none_iff]
  simp only [contains_iff_mem_map hrules]
  rfl

theorem ruleViolation?_eq_some_iff (hrules : ∀ rule, rule ∈ rules.entries ↔ rule ∈ document.rules)
    (rule : Rule) :
    ruleViolation? rules rule = some error ↔
      ∃ other, Earliest (fun other => ¬ document.AllowsConflict rule other) rule.conflictsWith
          other ∧
        error =
          if other = rule.id then .selfConflict rule.id else .unknownConflict rule.id other := by
  have hknown := contains_iff_mem_map hrules
  rw [ruleViolation?, findSome?_eq_some_iff_earliest]
  refine exists_congr fun other => ?_
  rw [Earliest.congr (Q := fun other => ¬ document.AllowsConflict rule other)]
  · refine and_congr_right fun hfirst => ?_
    obtain ⟨_, _, _, hbad, _⟩ := hfirst
    by_cases hself : other = rule.id
    · simp [hself, eq_comm]
    · have hunknown : rules.contains other = false := by
        rw [Bool.eq_false_iff, Ne, hknown]
        exact fun hmem => hbad ⟨hself, hmem⟩
      simp [hself, hunknown, eq_comm]
  · intro other
    by_cases hself : other = rule.id
    · simp [hself, AllowsConflict]
    · simp [hself, AllowsConflict, ← hknown]

theorem rulesetViolation?_eq_none_iff_has
    (hrules : ∀ rule, rule ∈ rules.entries ↔ rule ∈ document.rules) (ruleset : Ruleset) :
    rulesetViolation? rules ruleset = none ↔ document.HasRules ruleset := by
  rw [rulesetViolation?_eq_none_iff]
  simp only [contains_iff_mem_map hrules]
  rfl

theorem rulesetViolation?_eq_some_iff
    (hrules : ∀ rule, rule ∈ rules.entries ↔ rule ∈ document.rules) (ruleset : Ruleset) :
    rulesetViolation? rules ruleset = some error ↔
      ∃ rule, Earliest (fun rule => rule ∉ document.rules.map Rule.id)
          (ruleset.ruleIds ++ ruleset.optionalRuleIds) rule ∧
        error = .unknownRulesetRule ruleset.id rule := by
  have hknown := contains_iff_mem_map hrules
  rw [rulesetViolation?, findSome?_eq_some_iff_earliest]
  refine exists_congr fun rule => ?_
  rw [Earliest.congr (Q := fun rule => rule ∉ document.rules.map Rule.id)]
  · refine and_congr_right fun hfirst => ?_
    obtain ⟨_, _, _, hbad, _⟩ := hfirst
    have hunknown : rules.contains rule = false := by
      rw [Bool.eq_false_iff, Ne, hknown]
      exact hbad
    simp [hunknown, eq_comm]
  · intro rule
    simp [← hknown]

theorem presetViolation?_eq_none_iff_has
    (hrulesets : ∀ ruleset, ruleset ∈ rulesets.entries ↔ ruleset ∈ document.rulesets)
    (preset : StackPreset) :
    presetViolation? rulesets preset = none ↔ document.HasDefault preset := by
  rw [presetViolation?_eq_none_iff, contains_iff_mem_map hrulesets, HasDefault]

theorem presetViolation?_eq_some_iff {preset : StackPreset}
    (hbad : presetViolation? rulesets preset ≠ none) :
    presetViolation? rulesets preset = some error ↔
      error = .unknownDefaultRuleset preset.id preset.defaultRulesetId := by
  rw [presetViolation?] at hbad ⊢
  split
  · rename_i hknown
    rw [if_pos hknown] at hbad
    exact absurd rfl hbad
  · rw [Option.some_inj, eq_comm]

theorem commandViolation?_eq_some_iff {command : Command}
    (hbad : commandViolation? command ≠ none) :
    commandViolation? command = some error ↔
      error = .unknownTemplate command.id command.template := by
  rw [commandViolation?] at hbad ⊢
  split
  · rename_i hknown
    rw [if_pos hknown] at hbad
    exact absurd rfl hbad
  · rw [Option.some_inj, eq_comm]

theorem violation?_eq_some_iff (hids : document.DistinctIds)
    (hrules : ∀ rule, rule ∈ rules.entries ↔ rule ∈ document.rules)
    (hrulesets : ∀ ruleset, ruleset ∈ rulesets.entries ↔ ruleset ∈ document.rulesets)
    (hpresets : ∀ preset, preset ∈ stackPresets.entries ↔ preset ∈ document.stackPresets)
    (hcommands : ∀ command, command ∈ commands.entries ↔ command ∈ document.commands) :
    violation? rules rulesets stackPresets commands = some error ↔
      document.FirstViolation error := by
  have hbadRule (rule : Rule) :
      ruleViolation? rules rule ≠ none ↔ ¬ document.AllowsConflicts rule :=
    not_congr (ruleViolation?_eq_none_iff_allows hrules rule)
  have hbadRuleset (ruleset : Ruleset) :
      rulesetViolation? rules ruleset ≠ none ↔ ¬ document.HasRules ruleset :=
    not_congr (rulesetViolation?_eq_none_iff_has hrules ruleset)
  have hbadPreset (preset : StackPreset) :
      presetViolation? rulesets preset ≠ none ↔ ¬ document.HasDefault preset :=
    not_congr (presetViolation?_eq_none_iff_has hrulesets preset)
  have hbadCommand (command : Command) :
      commandViolation? command ≠ none ↔ Template.named? command.template = none := by
    rw [Ne, commandViolation?_eq_none_iff, Option.not_isSome_iff_eq_none]
  simp only [violation?, Option.orElse_eq_orElse, Option.orElse_eq_or, Option.or_eq_some_iff,
    Index.findSome?_entries_iff hrules, Index.findSome?_entries_iff hrulesets,
    Index.findSome?_entries_iff hpresets, Index.findSome?_entries_iff hcommands,
    Index.findSome?_entries_eq_none_iff hrules, Index.findSome?_entries_eq_none_iff hrulesets,
    Index.findSome?_entries_eq_none_iff hpresets, LeastBad.congr hbadRule,
    LeastBad.congr hbadRuleset, LeastBad.congr hbadPreset, LeastBad.congr hbadCommand,
    ruleViolation?_eq_none_iff_allows hrules, rulesetViolation?_eq_none_iff_has hrules,
    presetViolation?_eq_none_iff_has hrulesets]
  constructor
  · rintro (⟨rule, hrule, h⟩ | ⟨hconflicts, ⟨ruleset, hruleset, h⟩ | ⟨hreferences,
      ⟨preset, hpreset, h⟩ | ⟨hdefaults, ⟨command, hcommand, h⟩⟩⟩⟩)
    · obtain ⟨other, hother, rfl⟩ := (ruleViolation?_eq_some_iff hrules rule).mp h
      split
      · rename_i hself
        rw [hself] at hother
        exact .selfConflict hids hrule hother
      · rename_i hself
        exact .unknownConflict hids hrule hother hself
    · obtain ⟨rule, hrule, rfl⟩ := (rulesetViolation?_eq_some_iff hrules ruleset).mp h
      exact .unknownRulesetRule hids hconflicts hruleset hrule
    · obtain rfl := (presetViolation?_eq_some_iff ((hbadPreset preset).mpr hpreset.bad)).mp h
      exact .unknownDefaultRuleset hids hconflicts hreferences hpreset
    · obtain rfl := (commandViolation?_eq_some_iff ((hbadCommand command).mpr hcommand.bad)).mp h
      exact .unknownTemplate hids hconflicts hreferences hdefaults hcommand
  · intro h
    cases h with
    | repeatedRule hrepeat => exact absurd hids.rules hrepeat.not_nodup
    | repeatedRuleset _ hrepeat => exact absurd hids.rulesets hrepeat.not_nodup
    | repeatedStackPreset _ _ hrepeat => exact absurd hids.stackPresets hrepeat.not_nodup
    | repeatedCommand _ _ _ hrepeat => exact absurd hids.commands hrepeat.not_nodup
    | selfConflict _ hrule hself =>
        refine Or.inl ⟨_, hrule, (ruleViolation?_eq_some_iff hrules _).mpr ⟨_, hself, ?_⟩⟩
        rw [if_pos rfl]
    | unknownConflict _ hrule hother hne =>
        refine Or.inl ⟨_, hrule, (ruleViolation?_eq_some_iff hrules _).mpr ⟨_, hother, ?_⟩⟩
        rw [if_neg hne]
    | unknownRulesetRule _ hconflicts hruleset hrule =>
        refine Or.inr ⟨hconflicts, Or.inl ⟨_, hruleset, ?_⟩⟩
        exact (rulesetViolation?_eq_some_iff hrules _).mpr ⟨_, hrule, rfl⟩
    | unknownDefaultRuleset _ hconflicts hreferences hpreset =>
        refine Or.inr ⟨hconflicts, Or.inr ⟨hreferences, Or.inl ⟨_, hpreset, ?_⟩⟩⟩
        exact (presetViolation?_eq_some_iff ((hbadPreset _).mpr hpreset.bad)).mpr rfl
    | unknownTemplate _ hconflicts hreferences hdefaults hcommand =>
        refine Or.inr ⟨hconflicts, Or.inr ⟨hreferences, Or.inr ⟨hdefaults, ⟨_, hcommand, ?_⟩⟩⟩⟩
        exact (commandViolation?_eq_some_iff ((hbadCommand _).mpr hcommand.bad)).mpr rfl

theorem index_eq_error_iff {α : Type} {id : α → String} {kind : EntryKind} {entries : List α} :
    (index kind entries : Except CatalogError (Index α id)) = .error error ↔
      ∃ k, EarliestRepeat (entries.map id) k ∧ error = .duplicateId kind k := by
  simp only [index, ← Index.ofDistinct_eq_error_iff]
  cases (Index.ofDistinct entries : Except String (Index α id)) <;>
    simp [Except.mapError, eq_comm]

theorem ofDocument_eq_error_iff :
    ofDocument document = .error error ↔
      (∃ id, EarliestRepeat (document.rules.map Rule.id) id ∧ error = .duplicateId .rule id) ∨
      ∃ rules, Index.ofDistinct document.rules = .ok rules ∧
      ((∃ id, EarliestRepeat (document.rulesets.map Ruleset.id) id ∧
        error = .duplicateId .ruleset id) ∨
      ∃ rulesets, Index.ofDistinct document.rulesets = .ok rulesets ∧
      ((∃ id, EarliestRepeat (document.stackPresets.map StackPreset.id) id ∧
        error = .duplicateId .stackPreset id) ∨
      ∃ stackPresets, Index.ofDistinct document.stackPresets = .ok stackPresets ∧
      ((∃ id, EarliestRepeat (document.commands.map Command.id) id ∧
        error = .duplicateId .command id) ∨
      ∃ commands, Index.ofDistinct document.commands = .ok commands ∧
        violation? rules rulesets stackPresets commands = some error))) := by
  simp only [ofDocument, bind_eq_error_iff, index_eq_error_iff, index_eq_ok_iff]
  iterate 4 refine or_congr_right (exists_congr fun _ => and_congr_right fun _ => ?_)
  split
  · rename_i found hfound
    simp only [hfound, throw, throwThe, MonadExceptOf.throw, Except.error.injEq, Option.some.injEq]
  · rename_i hnone
    simp only [hnone, reduceCtorEq, pure, Except.pure]

theorem ofDocument_eq_error_iff_firstViolation :
    ofDocument document = .error error ↔ document.FirstViolation error := by
  rw [ofDocument_eq_error_iff]
  constructor
  · rintro (⟨id, hrepeat, rfl⟩ | ⟨rules, hrules, h⟩)
    · exact .repeatedRule hrepeat
    have hruleIds := Index.exists_ofDistinct_iff.mp ⟨_, hrules⟩
    rcases h with ⟨id, hrepeat, rfl⟩ | ⟨rulesets, hrulesets, h⟩
    · exact .repeatedRuleset hruleIds hrepeat
    have hrulesetIds := Index.exists_ofDistinct_iff.mp ⟨_, hrulesets⟩
    rcases h with ⟨id, hrepeat, rfl⟩ | ⟨presets, hpresets, h⟩
    · exact .repeatedStackPreset hruleIds hrulesetIds hrepeat
    have hpresetIds := Index.exists_ofDistinct_iff.mp ⟨_, hpresets⟩
    rcases h with ⟨id, hrepeat, rfl⟩ | ⟨commands, hcommands, h⟩
    · exact .repeatedCommand hruleIds hrulesetIds hpresetIds hrepeat
    have hcommandIds := Index.exists_ofDistinct_iff.mp ⟨_, hcommands⟩
    exact (violation?_eq_some_iff ⟨hruleIds, hrulesetIds, hpresetIds, hcommandIds⟩
      (Index.mem_of_ofDistinct hrules) (Index.mem_of_ofDistinct hrulesets)
      (Index.mem_of_ofDistinct hpresets) (Index.mem_of_ofDistinct hcommands)).mp h
  · intro h
    by_cases hids : document.DistinctIds
    · obtain ⟨rules, hrules⟩ := Index.exists_ofDistinct_iff.mpr hids.rules
      obtain ⟨rulesets, hrulesets⟩ := Index.exists_ofDistinct_iff.mpr hids.rulesets
      obtain ⟨presets, hpresets⟩ := Index.exists_ofDistinct_iff.mpr hids.stackPresets
      obtain ⟨commands, hcommands⟩ := Index.exists_ofDistinct_iff.mpr hids.commands
      refine Or.inr ⟨rules, hrules, Or.inr ⟨rulesets, hrulesets, Or.inr ⟨presets, hpresets,
        Or.inr ⟨commands, hcommands, ?_⟩⟩⟩⟩
      exact (violation?_eq_some_iff hids (Index.mem_of_ofDistinct hrules)
        (Index.mem_of_ofDistinct hrulesets) (Index.mem_of_ofDistinct hpresets)
        (Index.mem_of_ofDistinct hcommands)).mpr h
    -- a reference is only looked at when all ids are distinct
    · cases h with
      | repeatedRule hrepeat => exact Or.inl ⟨_, hrepeat, rfl⟩
      | repeatedRuleset hruleIds hrepeat =>
          obtain ⟨rules, hrules⟩ := Index.exists_ofDistinct_iff.mpr hruleIds
          exact Or.inr ⟨rules, hrules, Or.inl ⟨_, hrepeat, rfl⟩⟩
      | repeatedStackPreset hruleIds hrulesetIds hrepeat =>
          obtain ⟨rules, hrules⟩ := Index.exists_ofDistinct_iff.mpr hruleIds
          obtain ⟨rulesets, hrulesets⟩ := Index.exists_ofDistinct_iff.mpr hrulesetIds
          exact Or.inr ⟨rules, hrules, Or.inr ⟨rulesets, hrulesets, Or.inl ⟨_, hrepeat, rfl⟩⟩⟩
      | repeatedCommand hruleIds hrulesetIds hpresetIds hrepeat =>
          obtain ⟨rules, hrules⟩ := Index.exists_ofDistinct_iff.mpr hruleIds
          obtain ⟨rulesets, hrulesets⟩ := Index.exists_ofDistinct_iff.mpr hrulesetIds
          obtain ⟨presets, hpresets⟩ := Index.exists_ofDistinct_iff.mpr hpresetIds
          exact Or.inr ⟨rules, hrules, Or.inr ⟨rulesets, hrulesets, Or.inr ⟨presets, hpresets,
            Or.inl ⟨_, hrepeat, rfl⟩⟩⟩⟩
      | selfConflict hids' | unknownConflict hids' | unknownRulesetRule hids'
      | unknownDefaultRuleset hids' | unknownTemplate hids' => exact absurd hids' hids

end Violations

/-- A document becomes a catalog exactly when nothing is wrong with it, and else the answer is what
is wrong with it first. -/
theorem ofDocument_reports_first (document : CatalogDocument) :
    ((∃ catalog, ofDocument document = .ok catalog) ↔ document.Consistent) ∧
      ∀ error, ofDocument document = .error error ↔ document.FirstViolation error :=
  ⟨exists_ofDocument_iff, fun _ => ofDocument_eq_error_iff_firstViolation⟩

end Catalog

end Rulebook
