import Mathlib.Data.List.Perm.Basic
import Rulebook.Proofs.Catalog.Validation

namespace Rulebook

namespace Index

variable {α : Type} {key : α → String} {entries entries' : List α} {index : Index α key}

theorem entries_perm_of_ofDistinct (h : ofDistinct entries = .ok index) :
    index.entries.Perm entries := by
  have hindex : index.entries.Nodup := (nodup_of_ascending index.ascending).of_map key
  have hentries : entries.Nodup := (exists_ofDistinct_iff.mp ⟨index, h⟩).of_map key
  exact (List.perm_ext_iff_of_nodup hindex hentries).mpr (mem_of_ofDistinct h)

theorem ofDistinct_of_perm (h : ofDistinct entries = .ok index) (hperm : entries'.Perm entries) :
    (ofDistinct entries' : Except String (Index α key)) = .ok index := by
  have hdistinct : (entries'.map key).Nodup :=
    (hperm.map key).nodup_iff.mpr (exists_ofDistinct_iff.mp ⟨index, h⟩)
  obtain ⟨index', h'⟩ := exists_ofDistinct_iff.mpr hdistinct
  have heq : index' = index := by
    apply ext_mem
    intro a
    rw [mem_of_ofDistinct h', mem_of_ofDistinct h, hperm.mem_iff]
  rw [h', heq]

end Index

namespace CatalogDocument

/-- Every list of the document is in strictly ascending order of its ids. -/
structure Ascending (document : CatalogDocument) : Prop where
  rules : document.rules.Pairwise fun a b => a.id < b.id
  rulesets : document.rulesets.Pairwise fun a b => a.id < b.id
  stackPresets : document.stackPresets.Pairwise fun a b => a.id < b.id
  commands : document.commands.Pairwise fun a b => a.id < b.id

/-- The two documents list the same entries, each list in an order of its own. -/
structure Permutes (document' document : CatalogDocument) : Prop where
  rules : document'.rules.Perm document.rules
  rulesets : document'.rulesets.Perm document.rulesets
  stackPresets : document'.stackPresets.Perm document.stackPresets
  commands : document'.commands.Perm document.commands

end CatalogDocument

namespace Catalog

/-- The two catalogs give the same answer to every query. -/
structure SameAnswers (catalog' catalog : Catalog) : Prop where
  rule? : ∀ id, catalog'.rule? id = catalog.rule? id
  ruleset? : ∀ id, catalog'.ruleset? id = catalog.ruleset? id
  stackPreset? : ∀ id, catalog'.stackPreset? id = catalog.stackPreset? id
  command? : ∀ id, catalog'.command? id = catalog.command? id
  conflicts : ∀ a b, catalog'.conflictGraph.conflicts a b = catalog.conflictGraph.conflicts a b
  neighbors : ∀ id, catalog'.conflictGraph.neighbors id = catalog.conflictGraph.neighbors id
  conflictCount : catalog'.conflictCount = catalog.conflictCount
  ruleCount : catalog'.ruleCount = catalog.ruleCount

theorem SameAnswers.refl (catalog : Catalog) : catalog.SameAnswers catalog :=
  ⟨fun _ => rfl, fun _ => rfl, fun _ => rfl, fun _ => rfl, fun _ _ => rfl, fun _ => rfl, rfl, rfl⟩

variable {document document' : CatalogDocument} {catalog : Catalog}

theorem ofDocument_of_permutes (h : ofDocument document = .ok catalog)
    (hpermutes : document'.Permutes document) : ofDocument document' = .ok catalog := by
  obtain ⟨hrules, hrulesets, hpresets, hcommands, hviolation, hgraph⟩ := ofDocument_eq_ok_iff.mp h
  exact ofDocument_eq_ok_iff.mpr ⟨Index.ofDistinct_of_perm hrules hpermutes.rules,
    Index.ofDistinct_of_perm hrulesets hpermutes.rulesets,
    Index.ofDistinct_of_perm hpresets hpermutes.stackPresets,
    Index.ofDistinct_of_perm hcommands hpermutes.commands, hviolation, hgraph⟩

theorem ascending_toDocument (catalog : Catalog) : catalog.toDocument.Ascending :=
  ⟨catalog.rules.ascending, catalog.rulesets.ascending, catalog.stackPresets.ascending,
    catalog.commands.ascending⟩

theorem permutes_toDocument (h : ofDocument document = .ok catalog) :
    catalog.toDocument.Permutes document := by
  obtain ⟨hrules, hrulesets, hpresets, hcommands, -⟩ := ofDocument_eq_ok_iff.mp h
  exact ⟨Index.entries_perm_of_ofDistinct hrules, Index.entries_perm_of_ofDistinct hrulesets,
    Index.entries_perm_of_ofDistinct hpresets, Index.entries_perm_of_ofDistinct hcommands⟩

/-- The document of a catalog is its normal form: it lists what the first document lists in
ascending order, and it makes a catalog that answers alike and is written down as the same
document. -/
theorem toDocument_normalForm (h : ofDocument document = .ok catalog) :
    catalog.toDocument.Ascending ∧ catalog.toDocument.Permutes document ∧
      ∃ catalog', ofDocument catalog.toDocument = .ok catalog' ∧ catalog'.SameAnswers catalog ∧
        catalog'.toDocument = catalog.toDocument :=
  have hpermutes := permutes_toDocument h
  ⟨catalog.ascending_toDocument, hpermutes, catalog, ofDocument_of_permutes h hpermutes,
    .refl catalog, rfl⟩

end Catalog

/-- A document with every list in descending order. -/
def backwards : CatalogDocument where
  rules := [(Rule.new "terse" .warn).addConflict "cited", Rule.new "cited" .error]
  rulesets := [((Ruleset.new "strict").addRule "terse").addOptionalRule "cited", Ruleset.new "lax"]
  stackPresets := [StackPreset.new "web" "lax", StackPreset.new "cli" "strict"]
  commands := [Command.new "write" .generate, Command.new "check" .review]

theorem Catalog.toDocument_normalForm_backwards :
    ∃ catalog, Catalog.ofDocument backwards = .ok catalog ∧
      catalog.toDocument.rules.map Rule.id = ["cited", "terse"] ∧
      catalog.conflictGraph.neighbors "cited" = ["terse"] ∧
      catalog.toDocument.Ascending ∧ catalog.toDocument.Permutes backwards ∧
      ∃ catalog', Catalog.ofDocument catalog.toDocument = .ok catalog' ∧
        catalog'.SameAnswers catalog ∧ catalog'.toDocument = catalog.toDocument := by
  obtain ⟨catalog, hcatalog, hids, hneighbors⟩ :
      ∃ catalog, Catalog.ofDocument backwards = .ok catalog ∧
        catalog.toDocument.rules.map Rule.id = ["cited", "terse"] ∧
        catalog.conflictGraph.neighbors "cited" = ["terse"] :=
    ⟨_, rfl, rfl, by decide +kernel⟩
  exact ⟨catalog, hcatalog, hids, hneighbors, Catalog.toDocument_normalForm hcatalog⟩

end Rulebook
