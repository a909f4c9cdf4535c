import Mathlib.Data.List.Forall2
import Mathlib.Data.List.Nodup
import Mathlib.Tactic.Choose
import Rulebook.Proofs.Resolution.Correspondence

namespace Rulebook

open Resolution

/-- The items of one list match those of the other, one by one but in any order. -/
def Rearranged {α β : Type} (R : α → β → Prop) (left : List α) (right : List β) : Prop :=
  ∃ middle, List.Forall₂ R left middle ∧ middle.Perm right

/-- Everything a resolution reads of a ruleset: which rules it lists, however often and where. -/
structure Ruleset.SameContent (a b : Ruleset) : Prop where
  id : a.id = b.id
  mandatory : ∀ rule, rule ∈ a.ruleIds ↔ rule ∈ b.ruleIds
  optional : ∀ rule, rule ∈ a.optionalRuleIds ↔ rule ∈ b.optionalRuleIds

structure Project.SameContent (a b : Project) : Prop where
  id : a.id = b.id
  stackPresetId : a.stackPresetId = b.stackPresetId
  activeRulesetId : a.activeRulesetId = b.activeRulesetId
  toggles : a.toggles = b.toggles

/-- The same projects, but for their names. -/
def ProjectStore.SameContent (projects projects' : ProjectStore) : Prop :=
  ∀ id, Option.Rel Project.SameContent (projects.project? id) (projects'.project? id)

/-- The second document says what the first one does. Its lists may stand in another order, and a
conflict may be declared by either of its two rules, or by both. -/
structure CatalogDocument.Restates (document document' : CatalogDocument) : Prop where
  rules : Rearranged Rule.SameContent document.rules document'.rules
  rulesets : Rearranged Ruleset.SameContent document.rulesets document'.rulesets
  stackPresets : Rearranged StackPreset.SameContent document.stackPresets document'.stackPresets
  commands : Rearranged Command.SameContent document.commands document'.commands
  conflicts : ∀ a b, ConflictDeclared document.rules a b ↔ ConflictDeclared document'.rules a b

namespace Rearranged

variable {α β : Type} {R : α → β → Prop} {left : List α} {right : List β}

theorem exists_right (h : Rearranged R left right) {a : α} (ha : a ∈ left) :
    ∃ b ∈ right, R a b := by
  obtain ⟨middle, hmatch, hperm⟩ := h
  obtain ⟨i, hi, rfl⟩ := List.mem_iff_getElem.mp ha
  have hi' : i < middle.length := hmatch.length_eq ▸ hi
  exact ⟨middle[i], hperm.mem_iff.mp (List.getElem_mem hi'), hmatch.get hi hi'⟩

theorem exists_left (h : Rearranged R left right) {b : β} (hb : b ∈ right) :
    ∃ a ∈ left, R a b := by
  obtain ⟨middle, hmatch, hperm⟩ := h
  obtain ⟨i, hi, rfl⟩ := List.mem_iff_getElem.mp (hperm.mem_iff.mpr hb)
  have hi' : i < left.length := hmatch.length_eq ▸ hi
  exact ⟨left[i], List.getElem_mem hi', hmatch.get hi' hi⟩

theorem map_perm (h : Rearranged R left right) {key : α → String} {key' : β → String}
    (hkey : ∀ a b, R a b → key a = key' b) : (left.map key).Perm (right.map key') := by
  obtain ⟨middle, hmatch, hperm⟩ := h
  have hkeys : left.map key = middle.map key' := by
    rw [← List.forall₂_eq_eq_eq, List.forall₂_map_left_iff, List.forall₂_map_right_iff]
    exact hmatch.imp hkey
  rw [hkeys]
  exact hperm.map key'

theorem get?_rel (h : Rearranged R left right) {key : α → String} {key' : β → String}
    (hkey : ∀ a b, R a b → key a = key' b) {index : Index α key} {index' : Index β key'}
    (hmem : ∀ a, a ∈ index.entries ↔ a ∈ left) (hmem' : ∀ b, b ∈ index'.entries ↔ b ∈ right)
    (id : String) : Option.Rel R (index.get? id) (index'.get? id) := by
  refine Index.get?_rel hkey ?_ ?_ id
  · intro a ha
    obtain ⟨b, hb, hab⟩ := h.exists_right ((hmem a).mp ha)
    exact ⟨b, (hmem' b).mpr hb, hab⟩
  · intro b hb
    obtain ⟨a, ha, hab⟩ := h.exists_left ((hmem' b).mp hb)
    exact ⟨a, (hmem a).mpr ha, hab⟩

end Rearranged

section Restates

variable {document document' : CatalogDocument}

theorem CatalogDocument.Restates.consistent (h : document.Restates document')
    (hconsistent : document.Consistent) : document'.Consistent := by
  have hrules := h.rules.map_perm fun _ _ hab => hab.id
  have hrulesets := h.rulesets.map_perm fun _ _ hab => hab.id
  constructor
  case rules_distinct => exact hrules.nodup_iff.mp hconsistent.rules_distinct
  case rulesets_distinct => exact hrulesets.nodup_iff.mp hconsistent.rulesets_distinct
  case stackPresets_distinct =>
    exact (h.stackPresets.map_perm fun _ _ hab => hab.id).nodup_iff.mp
      hconsistent.stackPresets_distinct
  case commands_distinct =>
    exact (h.commands.map_perm fun _ _ hab => hab.id).nodup_iff.mp hconsistent.commands_distinct
  case conflicts_known =>
    intro rule' hrule' other hother
    rw [← hrules.mem_iff]
    have hids := hrules.mem_iff.mpr (List.mem_map_of_mem hrule')
    -- the conflict may be declared by the other rule in the first document
    obtain ⟨rule, hrule, ⟨hid, hdeclared⟩ | ⟨rfl, hdeclared⟩⟩ :=
      (h.conflicts rule'.id other).mpr ⟨rule', hrule', Or.inl ⟨rfl, hother⟩⟩
    · rw [← hid]
      exact hconsistent.conflicts_known rule hrule other hdeclared
    · have hself := (hconsistent.conflicts_known rule hrule rule'.id hdeclared).1
      exact ⟨hself.symm, List.mem_map_of_mem hrule⟩
  case references_known =>
    intro ruleset' hruleset' rule hrule
    obtain ⟨ruleset, hruleset, hsame⟩ := h.rulesets.exists_left hruleset'
    refine hrules.mem_iff.mp (hconsistent.references_known ruleset hruleset rule ?_)
    rw [Ruleset.referenced, List.mem_append] at hrule ⊢
    rw [hsame.mandatory, hsame.optional]
    exact hrule
  case defaults_known =>
    intro preset' hpreset'
    obtain ⟨preset, hpreset, hsame⟩ := h.stackPresets.exists_left hpreset'
    rw [← hsame.defaultRulesetId]
    exact hrulesets.mem_iff.mp (hconsistent.defaults_known preset hpreset)
  case templates_known =>
    intro command' hcommand'
    obtain ⟨command, hcommand, hsame⟩ := h.commands.exists_left hcommand'
    rw [← hsame.template]
    exact hconsistent.templates_known command hcommand

end Restates

namespace Resolution

/-- Two contexts with the same content; their catalogs are not compared. -/
structure Context.SameContent (context context' : Context) : Prop where
  project : context.project.SameContent context'.project
  command : context.command.SameContent context'.command
  stackPreset : context.stackPreset.SameContent context'.stackPreset
  ruleset : context.ruleset.SameContent context'.ruleset

variable {document document' : CatalogDocument} {catalog catalog' : Catalog}
variable {projects projects' : ProjectStore} {request request' : Request}
variable {context context' : Context}

theorem Context.SameContent.active_iff (h : context.SameContent context') {a b : Rule}
    (hab : a.SameContent b) : context.Active a ↔ context'.Active b := by
  rw [Context.Active, Context.Active, h.project.toggles, h.command.intent]
  exact Rule.TakesPart.congr hab (h.ruleset.mandatory a.id) (h.ruleset.optional a.id)

/-- Two answers that are the same error, or values that match. -/
inductive Alike {ε α β : Type} (R : α → β → Prop) : Except ε α → Except ε β → Prop
  | error (e : ε) : Alike R (.error e) (.error e)
  | ok {a : α} {b : β} (h : R a b) : Alike R (.ok a) (.ok b)

theorem Alike.bind {ε α β γ δ : Type} {R : α → β → Prop} {S : γ → δ → Prop} {x : Except ε α}
    {y : Except ε β} {f : α → Except ε γ} {g : β → Except ε δ} (h : Alike R x y)
    (hrest : ∀ a b, R a b → Alike S (f a) (g b)) : Alike S (x >>= f) (y >>= g) := by
  cases h with
  | error e => exact .error e
  | ok hab => exact hrest _ _ hab

theorem Context.alike_require {α β : Type} {R : α → β → Prop} {a? : Option α} {b? : Option β}
    (h : Option.Rel R a? b?) (block : Block) : Alike R (require a? block) (require b? block) := by
  cases h with
  | none => exact .error block
  | some hab => exact .ok hab

theorem Context.alike_load (hdocument : document.Restates document')
    (hholds : catalog.Holds document) (hholds' : catalog'.Holds document')
    (hprojects : projects.SameContent projects') (hproject : request.projectId = request'.projectId)
    (hcommand : request.commandId = request'.commandId) :
    Alike Context.SameContent (load catalog projects request)
      (load catalog' projects' request') := by
  have hcommands := hdocument.commands.get?_rel (fun _ _ h => h.id) hholds.commands
    hholds'.commands
  have hpresets := hdocument.stackPresets.get?_rel (fun _ _ h => h.id) hholds.stackPresets
    hholds'.stackPresets
  have hrulesets := hdocument.rulesets.get?_rel (fun _ _ h => h.id) hholds.rulesets
    hholds'.rulesets
  rw [load, load, ← hproject, ← hcommand]
  refine (alike_require (hprojects _) _).bind ?_
  intro project project' hsame
  rw [← hsame.id, ← hsame.stackPresetId, ← hsame.activeRulesetId]
  refine (alike_require (hcommands _) _).bind fun command command' hcommand => ?_
  refine (alike_require (hpresets _) _).bind fun preset preset' hpreset => ?_
  refine (alike_require (hrulesets _) _).bind fun ruleset ruleset' hruleset => ?_
  exact .ok ⟨hsame, hcommand, hpreset, hruleset⟩

theorem Context.SameContent.exists_mirrors (h : context.SameContent context')
    (hdocument : document.Restates document') (hconsistent : document.Consistent)
    (hholds : context.catalog.Holds document) (hholds' : context'.catalog.Holds document') :
    ∃ f, context.Mirrors f context' := by
  have hconsistent' := hdocument.consistent hconsistent
  have hmatch : ∀ rule, ∃ rule', rule ∈ document.rules →
      rule' ∈ document'.rules ∧ rule.SameContent rule' := by
    intro rule
    by_cases hrule : rule ∈ document.rules
    · obtain ⟨rule', hrule', hsame⟩ := hdocument.rules.exists_right hrule
      exact ⟨rule', fun _ => ⟨hrule', hsame⟩⟩
    · exact ⟨rule, fun hmem => absurd hmem hrule⟩
  choose f hf using hmatch
  have hlisted : ∀ rule ∈ context.activeRules, rule ∈ document.rules :=
    fun rule hrule => ((Context.mem_activeRules_iff hholds).mp hrule).1
  refine ⟨f, ?_, fun rule hrule => (hf rule (hlisted rule hrule)).2, ?_, h.command, h.stackPreset⟩
  · refine Context.activeRules_eq_map hholds hholds' ?_ ?_
    · exact fun rule hrule => (hf rule (hlisted rule hrule)).2.id.symm
    · intro rule'
      constructor
      · rintro ⟨hrule', hactive⟩
        obtain ⟨rule, hrule, hsame⟩ := hdocument.rules.exists_left hrule'
        refine ⟨rule, ⟨hrule, (h.active_iff hsame).mpr hactive⟩, ?_⟩
        refine Index.eq_of_key_eq hconsistent'.rules_distinct (hf rule hrule).1 hrule' ?_
        rw [← (hf rule hrule).2.id, hsame.id]
      · rintro ⟨rule, ⟨hrule, hactive⟩, rfl⟩
        exact ⟨(hf rule hrule).1, (h.active_iff (hf rule hrule).2).mp hactive⟩
  · intro a ha b hb
    obtain ⟨ha', hasame⟩ := hf a (hlisted a ha)
    obtain ⟨hb', hbsame⟩ := hf b (hlisted b hb)
    rw [Bool.eq_iff_iff, hholds'.inConflict_iff ha' hb',
      hholds.inConflict_iff (hlisted a ha) (hlisted b hb),
      ← conflictDeclared_iff hconsistent'.rules_distinct ha' hb',
      ← conflictDeclared_iff hconsistent.rules_distinct (hlisted a ha) (hlisted b hb),
      ← hasame.id, ← hbsame.id]
    exact (hdocument.conflicts a.id b.id).symm

end Resolution

/-- An outcome depends on what a catalog says and not on how it is written down, on the ids of a
request and not on its hints, and on no project's name. -/
theorem resolve_restated {document document' : CatalogDocument} {catalog : Catalog}
    (hcatalog : Catalog.ofDocument document = .ok catalog)
    (hdocument : document.Restates document') :
    ∃ catalog', Catalog.ofDocument document' = .ok catalog' ∧
      ∀ (projects projects' : ProjectStore) (request request' : Request),
        projects.SameContent projects' → request.projectId = request'.projectId →
        request.commandId = request'.commandId →
        resolve catalog' projects' request' = resolve catalog projects request ∧
        (resolve catalog' projects' request').toJson.compact =
          (resolve catalog projects request).toJson.compact := by
  have hholds := Catalog.holds_of_ofDocument hcatalog
  have hconsistent := Catalog.consistent_of_ofDocument hcatalog
  obtain ⟨catalog', hcatalog'⟩ := Catalog.exists_ofDocument (hdocument.consistent hconsistent)
  have hholds' := Catalog.holds_of_ofDocument hcatalog'
  refine ⟨catalog', hcatalog', ?_⟩
  intro projects projects' request request' hprojects hproject hcommand
  have hresolve : resolve catalog' projects' request' = resolve catalog projects request := by
    have halike := Context.alike_load hdocument hholds hholds' hprojects hproject hcommand
    rw [resolve, resolve]
    generalize hcontext : Context.load catalog projects request = loaded at halike ⊢
    generalize hcontext' : Context.load catalog' projects' request' = loaded' at halike ⊢
    cases halike with
    | error block => rfl
    | ok hsame =>
        obtain ⟨-, -, -, -, rfl⟩ := Context.load_eq_ok_iff.mp hcontext
        obtain ⟨-, -, -, -, rfl⟩ := Context.load_eq_ok_iff.mp hcontext'
        obtain ⟨f, hmirrors⟩ := hsame.exists_mirrors hdocument hconsistent hholds hholds'
        exact hmirrors.resolveIn_eq hproject hcommand
  exact ⟨hresolve, congrArg (fun outcome => outcome.toJson.compact) hresolve⟩

def briefRule : Rule :=
  ((Rule.new "brief" .warn).withDirective "Be brief.").contribute "length" (.text "short")

def thoroughRule : Rule :=
  (((Rule.new "thorough" .info).withDirective "Leave nothing out.").contribute "length"
    (.text "long")).addConflict "brief"

def notesDocument : CatalogDocument where
  rules := [briefRule, thoroughRule]
  rulesets := [((Ruleset.new "base").addRule "brief").addRule "thorough"]
  stackPresets := [StackPreset.new "stack" "base"]
  commands := [Command.new "make" .generate]

/-- The document again: the rules change places, the other one declares their conflict, and it does
so twice; an id is repeated, and titles and names are new. -/
def rewrittenNotes : CatalogDocument where
  rules :=
    [{ thoroughRule with title := "All of it", conflictsWith := [] },
      (briefRule.addConflict "thorough").addConflict "thorough"]
  rulesets :=
    [((((Ruleset.new "base").addRule "thorough").addRule "brief").addRule "brief").withName
      "Basics"]
  stackPresets := [{ StackPreset.new "stack" "base" with description := "The only one." }]
  commands := [(Command.new "make" .generate).withName "Make it"]

theorem restates_notes : notesDocument.Restates rewrittenNotes := by
  constructor
  case rules =>
    refine ⟨[_, _], .cons ?_ (.cons ?_ .nil), .swap _ _ _⟩
    · exact ⟨rfl, rfl, rfl, rfl, rfl⟩
    · exact ⟨rfl, rfl, rfl, rfl, rfl⟩
  case rulesets =>
    refine ⟨rewrittenNotes.rulesets, .cons ⟨rfl, fun rule => ?_, fun _ => Iff.rfl⟩ .nil, .refl _⟩
    simp [Ruleset.new, Ruleset.addRule, Ruleset.withName, or_comm]
  case stackPresets =>
    exact ⟨rewrittenNotes.stackPresets, .cons ⟨rfl, rfl, rfl, rfl⟩ .nil, .refl _⟩
  case commands => exact ⟨rewrittenNotes.commands, .cons ⟨rfl, rfl, rfl⟩ .nil, .refl _⟩
  case conflicts =>
    intro a b
    have hleft : ConflictDeclared notesDocument.rules a b ↔
        "thorough" = a ∧ b = "brief" ∨ "thorough" = b ∧ a = "brief" := by
      simp [ConflictDeclared, notesDocument, briefRule, thoroughRule, Rule.new,
        Rule.withDirective, Rule.contribute, Rule.addConflict]
    have hright : ConflictDeclared rewrittenNotes.rules a b ↔
        "brief" = a ∧ b = "thorough" ∨ "brief" = b ∧ a = "thorough" := by
      simp [ConflictDeclared, rewrittenNotes, briefRule, thoroughRule, Rule.new,
        Rule.withDirective, Rule.contribute, Rule.addConflict]
    rw [hleft, hright]
    constructor
    · rintro (⟨rfl, rfl⟩ | ⟨rfl, rfl⟩)
      · exact Or.inr ⟨rfl, rfl⟩
      · exact Or.inl ⟨rfl, rfl⟩
    · rintro (⟨rfl, rfl⟩ | ⟨rfl, rfl⟩)
      · exact Or.inr ⟨rfl, rfl⟩
      · exact Or.inl ⟨rfl, rfl⟩

def namedProjects (name : String) : ProjectStore :=
  (Registry.empty.insert ((Project.new "p" "stack" "base").withName name)).2

theorem sameContent_namedProjects (name name' : String) :
    (namedProjects name).SameContent (namedProjects name') := by
  refine Index.get?_rel (fun _ _ h => h.id) ?_ ?_
  · intro project hproject
    obtain rfl := List.mem_singleton.mp hproject
    exact ⟨_, List.mem_singleton_self _, rfl, rfl, rfl, rfl⟩
  · intro project hproject
    obtain rfl := List.mem_singleton.mp hproject
    exact ⟨_, List.mem_singleton_self _, rfl, rfl, rfl, rfl⟩

theorem resolve_restated_notes :
    ∃ catalog catalog',
      Catalog.ofDocument notesDocument = .ok catalog ∧
      Catalog.ofDocument rewrittenNotes = .ok catalog' ∧
      notesDocument.Restates rewrittenNotes ∧
      (resolve catalog (namedProjects "Notes") (Request.new "p" "make")).contract?.map
        Contract.ruleIds = some ["brief"] ∧
      resolve catalog' (namedProjects "Journal") ((Request.new "p" "make").withInput "Write.") =
        resolve catalog (namedProjects "Notes") (Request.new "p" "make") := by
  obtain ⟨catalog, hcatalog, context, hcontext, hids⟩ :
      ∃ catalog, Catalog.ofDocument notesDocument = .ok catalog ∧
      ∃ context, Context.load catalog (namedProjects "Notes") (Request.new "p" "make") =
        .ok context ∧
      (resolveIn (Request.new "p" "make") context).contract?.map Contract.ruleIds =
        some ["brief"] := by
    refine ⟨_, rfl, _, rfl, ?_⟩
    rw [resolveIn, Context.activeRules_eq_filter]
    rfl
  obtain ⟨catalog', hcatalog', hsame⟩ := resolve_restated hcatalog restates_notes
  obtain ⟨hresolve, -⟩ := hsame (namedProjects "Notes") (namedProjects "Journal")
    (Request.new "p" "make") ((Request.new "p" "make").withInput "Write.")
    (sameContent_namedProjects _ _) rfl rfl
  refine ⟨catalog, catalog', hcatalog, hcatalog', restates_notes, ?_, hresolve⟩
  rw [resolve, hcontext]
  exact hids

end Rulebook
