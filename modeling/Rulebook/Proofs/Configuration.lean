import Rulebook.Proofs.Document.Given
import Rulebook.Proofs.Files.Reading

namespace Rulebook

open Document FileTree

namespace Document

def Node.text? : Node → Option String
  | .text s => some s
  | _ => none

/-- The text that stands under a name in an object, at the first member of this name. -/
def Node.textAt? (name : String) : Node → Option String
  | .object members _ =>
      (members.findSome? fun
        | (.text given, node) => if given = name then some node else none
        | _ => none).bind Node.text?
  | _ => none

section Settings

variable {name wanted standard : String} {origin : Origin} {members : List (Node × Node)}

theorem Field.eq_of_has {α : Type} {field : Field α} {value : α} (take : Option String → α)
    (hother : field.otherName = none)
    (hread : ∀ node a, field.read origin node = .ok a → a = take node.text?)
    (habsent : field.absent = some (take none)) (h : field.Has origin members value)
    (closed : Bool) : value = take ((Node.object members closed).textAt? field.name) := by
  have htext : (Node.object members closed).textAt? field.name =
      (field.given? members).bind Node.text? := by
    rw [Node.textAt?, given?]
    congr 2
    funext member
    obtain ⟨given, node⟩ := member
    cases given with
    | text given => simp [answersTo, hother, @eq_comm _ given field.name]
    | _ => rfl
  rw [htext]
  rw [Has] at h
  cases hgiven : field.given? members with
  | none =>
      rw [hgiven] at h
      exact Option.some.inj (h.symm.trans habsent)
  | some node =>
      rw [hgiven] at h
      exact hread node value h

theorem Field.eq_textAt?_of_has {value : Option String}
    (h : (Field.optional name (Reader.text wanted)).Has origin members value) (closed : Bool) :
    value = (Node.object members closed).textAt? name := by
  refine eq_of_has id rfl (fun node a hread => ?_) rfl h closed
  cases node with
  | text s =>
      cases hread
      rfl
  | null =>
      cases hread
      rfl
  | _ => cases hread

theorem Field.eq_getD_textAt?_of_has {value : String}
    (h : (Field.defaulted name Reader.string standard).Has origin members value) (closed : Bool) :
    value = ((Node.object members closed).textAt? name).getD standard := by
  refine eq_of_has (Option.getD · standard) rfl (fun node a hread => ?_) rfl h closed
  cases node with
  | text s =>
      cases hread
      rfl
  | _ => cases hread

end Settings

end Document

theorem Toml.exists_members_of_document? {s : String} {node : Node}
    (h : Toml.document? s = some node) : ∃ members, node = .object members true := by
  rw [Toml.document?] at h
  obtain ⟨statements, -, h⟩ := Option.bind_eq_some_iff.mp h
  obtain ⟨root, -, h⟩ := Option.bind_eq_some_iff.mp h
  cases h
  exact ⟨Toml.membersOf root, rfl⟩

/-- The layer of a file that is not there. -/
def Overrides.silent : Overrides :=
  ⟨none, none, none, none⟩

def Overrides.ofDocument (document : Node) : Overrides where
  catalog := document.textAt? "catalog"
  projects := document.textAt? "projects"
  auditLog := document.textAt? "audit_log"
  logLevel := document.textAt? "log_level"

namespace Configuration

theorem disjoint_fields : fields.Disjoint := by
  simp [fields, Fields.Disjoint, Fields.answer, Field.answersTo, Field.optional, Field.defaulted]

/-- A file is read as the standard configuration under what its document says. -/
theorem eq_override_of_read {origin : Origin} {members : List (Node × Node)} {closed : Bool}
    {configuration : Configuration}
    (hread : Configuration.read origin (.object members closed) = .ok configuration) :
    configuration = standard.override (.ofDocument (.object members closed)) := by
  rw [Configuration.read] at hread
  obtain ⟨⟨catalog, projects, auditLog, logLevel, ⟨⟩⟩, hvalues, heq⟩ := bind_eq_ok_iff.mp hread
  cases heq
  obtain ⟨hcatalog, hprojects, hlog, hlevel, -⟩ := Fields.have_of_read disjoint_fields hvalues
  rw [Field.eq_textAt?_of_has hcatalog closed, Field.eq_textAt?_of_has hprojects closed,
    Field.eq_textAt?_of_has hlog closed, Field.eq_getD_textAt?_of_has hlevel closed]
  simp [override, standard, Overrides.ofDocument]

/-- There is a file at the path, and its text makes this document. -/
def Holds (tree : FileTree) (path : String) (document : Node) : Prop :=
  ∃ text, tree.answer (readText path) = .ok text ∧ Toml.document? text = some document

/-- The layer of the file: the one that is named, else the standard one if it is there, else
none. -/
inductive FileSays (tree : FileTree) : Option String → Overrides → Prop where
  | named {path : String} {document : Node} :
      Holds tree path document → FileSays tree (some path) (.ofDocument document)
  | standard {document : Node} :
      tree.answer (FileSystem.isFile "covenant.toml") = true →
        Holds tree "covenant.toml" document → FileSays tree none (.ofDocument document)
  | absent :
      tree.answer (FileSystem.isFile "covenant.toml") = false → FileSays tree none .silent

section Discovery

variable {tree : FileTree} {path : String} {path? : Option String} {found : Configuration}

theorem exists_holds_of_ofFile (h : tree.answer (ofFile path) = .ok found) :
    ∃ document, Holds tree path document ∧ found = standard.override (.ofDocument document) := by
  obtain ⟨text, htext, hread⟩ := exists_text_of_loadAs h
  rw [Format.read, Toml.read] at hread
  cases hdocument : Toml.document? text with
  | none =>
      rw [hdocument] at hread
      cases hread
  | some document =>
      rw [hdocument] at hread
      obtain ⟨members, rfl⟩ := Toml.exists_members_of_document? hdocument
      exact ⟨_, ⟨text, htext, hdocument⟩, eq_override_of_read hread⟩

theorem exists_fileSays_of_discover (h : tree.answer (discover path?) = .ok found) :
    ∃ said, FileSays tree path? said ∧ found = standard.override said := by
  cases path? with
  | some path =>
      obtain ⟨document, hholds, hfound⟩ := exists_holds_of_ofFile h
      exact ⟨_, .named hholds, hfound⟩
  | none =>
      rw [discover, answer, (onlyLooks_isFile standardFile).run_bind] at h
      cases hfile : tree.answer (FileSystem.isFile standardFile) with
      | true =>
          rw [hfile] at h
          obtain ⟨document, hholds, hfound⟩ := exists_holds_of_ofFile h
          exact ⟨_, .standard hfile hholds, hfound⟩
      | false =>
          rw [hfile] at h
          cases h
          exact ⟨_, .absent hfile, rfl⟩

end Discovery

/-- How four layers settle a setting: a flag as it is given, else a variable that is not blank as it
stands, else what the file says, else the value that is there when nothing is said. -/
structure Cascade (flag setting file fallback value : Option String) : Prop where
  flagged : ∀ v, flag = some v → value = some v
  set : flag = none → ∀ v, setting = some v → Text.isBlankText v = false → value = some v
  filed : flag = none → (∀ v, setting = some v → Text.isBlankText v = true) →
    ∀ v, file = some v → value = some v
  unsaid : flag = none → (∀ v, setting = some v → Text.isBlankText v = true) → file = none →
    value = fallback

theorem cascade_orElse (flag setting file fallback : Option String) :
    Cascade flag setting file fallback
      (flag <|> ((setting.filter fun value => !Text.isBlankText value) <|>
        (file <|> fallback))) := by
  have hblank (h : ∀ v, setting = some v → Text.isBlankText v = true) :
      (setting.filter fun value => !Text.isBlankText value) = none := by
    cases setting with
    | none => rfl
    | some v => simp [h v rfl]
  constructor
  case flagged =>
    rintro v rfl
    rfl
  case set =>
    rintro rfl v rfl hv
    simp [hv]
  case filed =>
    rintro rfl hsetting v rfl
    simp [hblank hsetting]
  case unsaid =>
    rintro rfl hsetting rfl
    simp [hblank hsetting]

/-- A level of logging that there is, whatever the case of its letters. -/
def Known (level : String) : Prop :=
  ∃ known ∈ ["trace", "debug", "info", "warn", "error", "off"], level.toLower = known.toLower

theorem known_iff (level : String) : Known level ↔ logLevels.contains level.toLower = true := by
  have hlower : ∀ known ∈ logLevels, known.toLower = known := by decide +kernel
  rw [List.contains_iff_mem]
  constructor
  · rintro ⟨known, hmem, heq⟩
    rw [heq, hlower known hmem]
    exact hmem
  · intro hmem
    exact ⟨_, hmem, (hlower _ hmem).symm⟩

instance (level : String) : Decidable (Known level) :=
  decidable_of_iff _ (known_iff level).symm

theorem validate_eq (configuration : Configuration) :
    configuration.validate =
      if Known configuration.logLevel then .ok ()
      else .error (.invalidValue "log_level" configuration.logLevel) := by
  rw [validate]
  simp only [known_iff]

end Configuration

end Rulebook
