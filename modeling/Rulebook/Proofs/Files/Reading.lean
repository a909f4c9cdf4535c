import Rulebook.Catalog.Basic
import Rulebook.Configuration
import Rulebook.EnvironmentFile
import Rulebook.Error
import Rulebook.Files.Tree
import Rulebook.Project
import Rulebook.Proofs.Text.Bytes

namespace Rulebook

namespace FileTree

/-- What an action answers on the tree. -/
def answer {α : Type} (tree : FileTree) (action : StateM FileTree α) : α :=
  (action.run tree).1

/-- The action leaves every tree as it is. -/
def OnlyLooks {α : Type} (action : StateM FileTree α) : Prop :=
  ∀ tree, (action.run tree).2 = tree

variable {α β : Type} {action : StateM FileTree α}

theorem run_bind (action : StateM FileTree α) (next : α → StateM FileTree β) (tree : FileTree) :
    (action >>= next).run tree = (next (tree.answer action)).run (action.run tree).2 := rfl

namespace OnlyLooks

theorem run_bind (h : OnlyLooks action) (next : α → StateM FileTree β) (tree : FileTree) :
    (action >>= next).run tree = (next (tree.answer action)).run tree := by
  rw [FileTree.run_bind, h tree]

theorem pure (a : α) : OnlyLooks (Pure.pure a) :=
  fun _ => rfl

theorem bind (h : OnlyLooks action) {next : α → StateM FileTree β}
    (hnext : ∀ a, OnlyLooks (next a)) : OnlyLooks (action >>= next) := by
  intro tree
  rw [h.run_bind]
  exact hnext _ tree

end OnlyLooks

open OnlyLooks

theorem onlyLooks_readBytes (path : String) :
    OnlyLooks (FileSystem.readBytes path : StateM FileTree _) :=
  fun _ => rfl

theorem onlyLooks_readNearest (name : String) :
    OnlyLooks (FileSystem.readNearest name : StateM FileTree _) :=
  fun _ => rfl

theorem onlyLooks_isFile (path : String) :
    OnlyLooks (FileSystem.isFile path : StateM FileTree _) := by
  have hget : OnlyLooks (get : StateM FileTree FileTree) := fun _ => rfl
  refine hget.bind fun tree => ?_
  split <;> exact .pure _

theorem onlyLooks_readText (path : String) :
    OnlyLooks (readText path : StateM FileTree _) :=
  (onlyLooks_readBytes path).bind fun _ => .pure _

theorem onlyLooks_loadAs (format : Document.Format) (content : String)
    (reader : Document.Reader α) (path : String) :
    OnlyLooks (Document.loadAs format content reader path : StateM FileTree _) := by
  refine (onlyLooks_readText path).bind fun text => ?_
  cases text <;> exact .pure _

theorem onlyLooks_load (content : String) (reader : Document.Reader α) (path : String) :
    OnlyLooks (Document.load content reader path : StateM FileTree _) := by
  rw [Document.load]
  split
  · exact .pure _
  · exact onlyLooks_loadAs _ content reader path

theorem exists_text_of_loadAs {tree : FileTree} {format : Document.Format} {content path : String}
    {reader : Document.Reader α} {a : α}
    (h : tree.answer (Document.loadAs format content reader path) = .ok a) :
    ∃ text, tree.answer (readText path) = .ok text ∧ format.read reader text = .ok a := by
  rw [Document.loadAs, answer, (onlyLooks_readText path).run_bind] at h
  cases htext : tree.answer (readText path) with
  | error fault =>
      rw [htext] at h
      cases h
  | ok text =>
      rw [htext] at h
      replace h : (Document.parse format reader text).inContext
        ("parsing " ++ content ++ " " ++ path) = .ok a := h
      rw [Document.parse] at h
      cases hread : format.read reader text with
      | error fault =>
          rw [hread] at h
          cases h
      | ok value =>
          rw [hread] at h
          cases h
          exact ⟨text, rfl, hread⟩

theorem exists_text_of_load {tree : FileTree} {content path : String} {reader : Document.Reader α}
    {a : α} (h : tree.answer (Document.load content reader path) = .ok a) :
    ∃ format text, Document.Format.ofPath path = .ok format ∧
      tree.answer (readText path) = .ok text ∧ format.read reader text = .ok a := by
  rw [Document.load] at h
  cases hformat : Document.Format.ofPath path with
  | error fault =>
      rw [hformat] at h
      cases h
  | ok format =>
      rw [hformat] at h
      obtain ⟨text, htext, hread⟩ := exists_text_of_loadAs h
      exact ⟨format, text, rfl, htext, hread⟩

section Text

variable {tree : FileTree} {path text : String} {format : Document.Format}
  (hfile : tree.readBytes path = .ok text.toUTF8)

include hfile

theorem answer_readText : tree.answer (readText path) = .ok text := by
  show tree.readBytes path >>= textOfBytes = _
  rw [hfile]
  exact textOfBytes_toUTF8 text

theorem answer_load (hformat : Document.Format.ofPath path = .ok format)
    {reader : Document.Reader α} {a : α} (hread : format.read reader text = .ok a)
    (content : String) : tree.answer (Document.load content reader path) = .ok a := by
  rw [Document.load, hformat]
  simp only
  rw [Document.loadAs, answer, (onlyLooks_readText path).run_bind, answer_readText hfile]
  simp only [Document.parse, hread]
  rfl

end Text

end FileTree

open FileTree

theorem Catalog.answer_load {tree : FileTree} {path text : String} {format : Document.Format}
    (hfile : tree.readBytes path = .ok text.toUTF8)
    (hformat : Document.Format.ofPath path = .ok format) {document : CatalogDocument}
    (hread : format.read CatalogDocument.read text = .ok document) {catalog : Catalog}
    (hcatalog : Catalog.ofDocument document = .ok catalog) :
    tree.answer (Catalog.load path) = .ok catalog := by
  have hload := FileTree.answer_load hfile hformat hread "catalog"
  rw [Catalog.load, answer, (FileTree.onlyLooks_load _ _ path).run_bind, hload]
  simp only [hcatalog]
  rfl

theorem Catalog.onlyLooks_load (path : String) : OnlyLooks (Catalog.load path) := by
  refine (FileTree.onlyLooks_load "catalog" CatalogDocument.read path).bind fun document => ?_
  cases document <;> exact .pure _

theorem Registry.onlyLooks_load (path : String) : OnlyLooks (Registry.load path) := by
  refine (FileTree.onlyLooks_load "projects" Registry.readProjects path).bind fun projects => ?_
  cases projects <;> exact .pure _

theorem Configuration.onlyLooks_discover (path? : Option String) :
    OnlyLooks (Configuration.discover path?) := by
  cases path? with
  | some path => exact onlyLooks_loadAs .toml "config" Configuration.read path
  | none =>
      refine (onlyLooks_isFile standardFile).bind fun found => ?_
      cases found with
      | true => exact onlyLooks_loadAs .toml "config" Configuration.read standardFile
      | false => exact .pure _

theorem EnvironmentFile.onlyLooks_load (environment : Environment) :
    OnlyLooks (EnvironmentFile.load environment) := by
  refine (onlyLooks_readNearest ".env").bind fun content => ?_
  cases content <;> exact .pure _

end Rulebook
