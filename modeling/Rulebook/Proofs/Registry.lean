import Mathlib.Data.Finset.Card
import Mathlib.Data.List.Induction
import Rulebook.Project
import Rulebook.Proofs.Catalog.Violations

namespace Rulebook

/-- The entry is the last of its key. -/
def Latest {α : Type} (key : α → String) (entries : List α) (a : α) : Prop :=
  ∃ earlier later, entries = earlier ++ a :: later ∧ ∀ b ∈ later, key b ≠ key a

section Latest

variable {α : Type} {key : α → String} {entries : List α} {a b : α}

theorem latest_append_singleton_iff :
    Latest key (entries ++ [a]) b ↔ b = a ∨ Latest key entries b ∧ key b ≠ key a := by
  constructor
  · rintro ⟨earlier, later, hentries, hlater⟩
    rcases List.eq_nil_or_concat' later with rfl | ⟨later, c, rfl⟩
    · exact Or.inl (List.cons.inj (List.append_inj_right' hentries rfl)).1.symm
    · rw [← List.cons_append, ← List.append_assoc] at hentries
      obtain ⟨rfl, hlast⟩ := List.append_inj' hentries rfl
      obtain rfl := (List.cons.inj hlast).1
      refine Or.inr ⟨⟨earlier, later, rfl, fun d hd => ?_⟩, ?_⟩
      · exact hlater d (List.mem_append_left _ hd)
      · exact (hlater a (List.mem_append_right _ List.mem_cons_self)).symm
  · rintro (rfl | ⟨⟨earlier, later, rfl, hlater⟩, hne⟩)
    · exact ⟨entries, [], rfl, nofun⟩
    · refine ⟨earlier, later ++ [a], by simp, fun c hc => ?_⟩
      rcases List.mem_append.mp hc with hc | hc
      · exact hlater c hc
      · rw [List.mem_singleton.mp hc]
        exact hne.symm

end Latest

namespace Index

variable {α : Type} {key : α → String}

theorem ofList_append_singleton (entries : List α) (a : α) :
    (ofList (entries ++ [a]) : Index α key) = (ofList entries).insert a := by
  rw [ofList, List.foldl_append]
  rfl

theorem mem_ofList_iff {entries : List α} {a : α} :
    a ∈ (ofList entries : Index α key).entries ↔ Latest key entries a := by
  induction entries using List.reverseRecOn with
  | nil =>
      refine iff_of_false List.not_mem_nil ?_
      rintro ⟨earlier, later, hentries, -⟩
      simp at hentries
  | append_singleton entries b ih =>
      rw [ofList_append_singleton, mem_insert_iff, ih, latest_append_singleton_iff]

theorem get?_ofList_eq_some_iff {entries : List α} {k : String} {a : α} :
    (ofList entries : Index α key).get? k = some a ↔ Latest key entries a ∧ key a = k := by
  rw [get?_eq_some_iff, mem_ofList_iff]

theorem get?_ofList_eq_none_iff {entries : List α} {k : String} :
    (ofList entries : Index α key).get? k = none ↔ ∀ a ∈ entries, key a ≠ k := by
  rw [← Option.not_isSome_iff_eq_none]
  show ¬ (ofList entries : Index α key).contains k = true ↔ _
  rw [contains_ofList_iff]
  push Not
  rfl

theorem size_ofList (entries : List α) :
    (ofList entries : Index α key).size = (entries.map key).toFinset.card := by
  have hkeys : (entries.map key).toFinset =
      ((ofList entries : Index α key).entries.map key).toFinset := by
    ext k
    rw [List.mem_toFinset, List.mem_toFinset, List.mem_map, List.mem_map, ← contains_iff,
      contains_ofList_iff]
  rw [hkeys, List.toFinset_card_of_nodup (nodup_of_ascending (ofList entries).ascending),
    List.length_map, size]

end Index

namespace Registry

/-- The registry with projects inserted one after the other. -/
def insertAll (registry : Registry) (projects : List Project) : Registry :=
  projects.foldl (fun registry project => (registry.insert project).2) registry

/-- The registry is a map of the records that were inserted: of each id it has the last one, and
gives it for this id and for no other. -/
structure Maps (registry : Registry) (inserted : List Project) : Prop where
  found : ∀ id project,
    registry.project? id = some project ↔ Latest Project.id inserted project ∧ project.id = id
  missing : ∀ id, registry.project? id = none ↔ ∀ project ∈ inserted, project.id ≠ id
  listed : ∀ project, project ∈ registry.toList ↔ Latest Project.id inserted project
  ascending : registry.toList.Pairwise fun a b => a.id < b.id
  size : registry.size = (inserted.map Project.id).toFinset.card
  isEmpty : registry.isEmpty = true ↔ registry.size = 0

theorem addAll_eq (registry : Registry) (projects : List Project) :
    registry.addAll projects =
      ((registry.projects.addNew projects).map Registry.mk).mapError
        ConfigError.duplicateProject := by
  induction projects generalizing registry with
  | nil => rfl
  | cons project projects ih =>
      rw [addAll, insert, Index.addNew, Index.contains, ← project?]
      cases registry.project? project.id with
      | some old => rfl
      | none => exact ih _

theorem insertAll_ofList (projects further : List Project) :
    insertAll ⟨Index.ofList projects⟩ further = ⟨Index.ofList (projects ++ further)⟩ := by
  induction further generalizing projects with
  | nil => rw [List.append_nil, insertAll, List.foldl_nil]
  | cons project further ih =>
      have hinsert : (insert ⟨Index.ofList projects⟩ project).2 =
          ⟨Index.ofList (projects ++ [project])⟩ := by
        rw [Index.ofList_append_singleton]
        rfl
      rw [insertAll, List.foldl_cons, hinsert, ← insertAll, ih, List.append_assoc,
        List.singleton_append]

theorem ofProjects_eq (projects : List Project) :
    ofProjects projects =
      ((Index.ofDistinct projects).map Registry.mk).mapError ConfigError.duplicateProject :=
  addAll_eq empty projects

theorem ofProjects_eq_ok_iff {projects : List Project} {registry : Registry} :
    ofProjects projects = .ok registry ↔ Index.ofDistinct projects = .ok registry.projects := by
  obtain ⟨index⟩ := registry
  rw [ofProjects_eq]
  cases (Index.ofDistinct projects : Except String (Index Project Project.id)) <;>
    simp [Except.map, Except.mapError]

theorem ofProjects_eq_error_iff {projects : List Project} {error : ConfigError} :
    ofProjects projects = .error error ↔
      ∃ id, error = .duplicateProject id ∧ EarliestRepeat (projects.map Project.id) id := by
  have hrefused (id : String) : EarliestRepeat (projects.map Project.id) id ↔
      (Index.ofDistinct projects : Except String (Index Project Project.id)) = .error id :=
    Index.ofDistinct_eq_error_iff.symm
  simp only [hrefused]
  rw [ofProjects_eq]
  cases (Index.ofDistinct projects : Except String (Index Project Project.id)) <;>
    simp [Except.map, Except.mapError, eq_comm]

theorem eq_ofList_of_ofProjects {projects : List Project} {registry : Registry}
    (h : ofProjects projects = .ok registry) : registry = ⟨Index.ofList projects⟩ := by
  rw [Index.ofList, Index.foldl_insert_of_addNew (ofProjects_eq_ok_iff.mp h)]

theorem mem_toList_of_ofProjects {projects : List Project} {registry : Registry}
    (h : ofProjects projects = .ok registry) {project : Project} :
    project ∈ registry.toList ↔ project ∈ projects :=
  Index.mem_of_ofDistinct (ofProjects_eq_ok_iff.mp h) project

theorem maps_ofList (inserted : List Project) : Maps ⟨Index.ofList inserted⟩ inserted where
  found _ _ := Index.get?_ofList_eq_some_iff
  missing _ := Index.get?_ofList_eq_none_iff
  listed _ := Index.mem_ofList_iff
  ascending := (Index.ofList inserted).ascending
  size := Index.size_ofList inserted
  isEmpty := List.isEmpty_iff_length_eq_zero

/-- Inserting the project returns the record that it takes the place of, if there is one, and
changes no answer but its own. -/
structure Replaces (registry : Registry) (inserted : List Project) (project : Project) : Prop where
  returned : ∀ old, (registry.insert project).1 = some old ↔
    Latest Project.id inserted old ∧ old.id = project.id
  fresh : (registry.insert project).1 = none ↔ ∀ old ∈ inserted, old.id ≠ project.id
  unmoved : ∀ id, id ≠ project.id →
    (registry.insert project).2.project? id = registry.project? id

theorem Maps.replaces {registry : Registry} {inserted : List Project} (h : Maps registry inserted)
    (project : Project) : Replaces registry inserted project where
  returned := h.found project.id
  fresh := h.missing project.id
  unmoved id hid := by
    rw [insert, project?, Index.get?_insert, if_neg hid.symm]
    rfl

/-- A registry is made of projects exactly when their ids differ, and refuses others with the id
that comes again first. It then is a map of all that was inserted, however much more comes; every
insertion returns what it replaces and leaves the rest alone. -/
theorem ofProjects_maps (projects : List Project) :
    ((∃ registry, ofProjects projects = .ok registry) ↔ (projects.map Project.id).Nodup) ∧
    (∀ error, ofProjects projects = .error error ↔
      ∃ id, error = .duplicateProject id ∧ EarliestRepeat (projects.map Project.id) id) ∧
    ∀ registry, ofProjects projects = .ok registry → ∀ further : List Project,
      Maps (registry.insertAll further) (projects ++ further) ∧
      ∀ project, Replaces (registry.insertAll further) (projects ++ further) project := by
  refine ⟨?_, fun error => ofProjects_eq_error_iff, fun registry hregistry further => ?_⟩
  · rw [← Index.exists_ofDistinct_iff]
    constructor
    · rintro ⟨registry, h⟩
      exact ⟨registry.projects, ofProjects_eq_ok_iff.mp h⟩
    · rintro ⟨index, h⟩
      exact ⟨⟨index⟩, ofProjects_eq_ok_iff.mpr h⟩
  · have hmaps : Maps (registry.insertAll further) (projects ++ further) := by
      rw [eq_ofList_of_ofProjects hregistry, insertAll_ofList]
      exact maps_ofList _
    exact ⟨hmaps, hmaps.replaces⟩

/-- A project that is inserted under the same id three times. -/
def movedProject (ruleset : String) : Project :=
  Project.new "web" "rust-service" ruleset

def firstProjects : List Project :=
  [movedProject "starter", Project.new "api" "rust-service" "standard"]

def laterProjects : List Project :=
  [movedProject "standard", Project.new "app" "nextjs-app-router" "starter"]

theorem ofProjects_maps_moved :
    ofProjects (firstProjects ++ laterProjects) = .error (.duplicateProject "web") ∧
      ∃ registry, ofProjects firstProjects = .ok registry ∧
        (registry.insertAll laterProjects).project? "web" = some (movedProject "standard") ∧
        (registry.insertAll laterProjects).project? "cli" = none ∧
        (registry.insertAll laterProjects).size = 3 ∧
        ((registry.insertAll laterProjects).insert (movedProject "careful-refactor")).1 =
          some (movedProject "standard") ∧
        ((registry.insertAll laterProjects).insert
          (movedProject "careful-refactor")).2.project? "api" =
            (registry.insertAll laterProjects).project? "api" := by
  obtain ⟨-, hrefused, -⟩ := ofProjects_maps (firstProjects ++ laterProjects)
  obtain ⟨hmade, -, hmaps⟩ := ofProjects_maps firstProjects
  obtain ⟨registry, hregistry⟩ := hmade.mpr (by decide)
  obtain ⟨hlater, hreplaces⟩ := hmaps registry hregistry laterProjects
  have hlast : Latest Project.id (firstProjects ++ laterProjects) (movedProject "standard") :=
    ⟨firstProjects, [Project.new "app" "nextjs-app-router" "starter"], rfl, by decide⟩
  have hrepeat : EarliestRepeat ((firstProjects ++ laterProjects).map Project.id) "web" :=
    ⟨["web", "api"], ["app"], rfl, by decide, by decide⟩
  refine ⟨(hrefused _).mpr ⟨"web", rfl, hrepeat⟩, registry, hregistry, ?_, ?_, ?_, ?_, ?_⟩
  · exact (hlater.found _ _).mpr ⟨hlast, rfl⟩
  · exact (hlater.missing _).mpr (by decide)
  · rw [hlater.size]
    decide
  · exact ((hreplaces _).returned _).mpr ⟨hlast, rfl⟩
  · exact (hreplaces _).unmoved _ (by decide)

end Registry

end Rulebook
