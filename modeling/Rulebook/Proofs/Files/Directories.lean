import Rulebook.Proofs.Files.Append

namespace Rulebook.FileTree

/-- The second tree is the first one with new directories. -/
structure AddsDirectories (tree tree' : FileTree) : Prop where
  workingDirectory : tree'.workingDirectory = tree.workingDirectory
  files : ∀ place content,
    tree'.node? place = some (.file content) ↔ tree.node? place = some (.file content)
  walk : ∀ base parts place, tree.walk base parts = .ok place → tree'.walk base parts = .ok place

namespace AddsDirectories

variable {tree tree' tree'' : FileTree}

theorem refl (tree : FileTree) : AddsDirectories tree tree :=
  ⟨rfl, fun _ _ => Iff.rfl, fun _ _ _ h => h⟩

theorem trans (h : AddsDirectories tree tree') (h' : AddsDirectories tree' tree'') :
    AddsDirectories tree tree'' where
  workingDirectory := h'.workingDirectory.trans h.workingDirectory
  files place content := (h'.files place content).trans (h.files place content)
  walk base parts place hwalk := h'.walk base parts place (h.walk base parts place hwalk)

theorem find? (h : AddsDirectories tree tree') {path : String} {content : ByteArray}
    (hfile : tree.find? path = some (.file content)) :
    tree'.find? path = some (.file content) := by
  rw [FileTree.find?] at hfile
  cases hlocate : tree.locate path with
  | error fault =>
      rw [hlocate] at hfile
      cases hfile
  | ok place =>
      simp only [hlocate] at hfile
      have hlocate' : tree'.locate path = .ok place := by
        rw [locate] at hlocate ⊢
        split at hlocate
        · cases hlocate
        · rename_i hempty
          rw [if_neg hempty, start, h.workingDirectory]
          exact h.walk _ _ _ hlocate
      rw [FileTree.find?, hlocate']
      exact (h.files place content).mpr hfile

end AddsDirectories

theorem addsDirectories_put {tree : FileTree} {place : List String}
    (hnone : tree.node? place = none) : AddsDirectories tree (tree.put place .directory) := by
  have hplace : tree.node? place ≠ some .directory := by
    rw [hnone]
    exact nofun
  refine ⟨rfl, fun other content => ?_, fun base parts target hwalk => walk_put hplace _ hwalk⟩
  rw [node?_put (ne_root_of_node? hplace)]
  split
  case isTrue heq =>
    subst heq
    rw [hnone]
    constructor <;> intro h <;> cases h
  case isFalse => exact Iff.rfl

theorem addsDirectories_createDirectory {tree tree' : FileTree} {base parts : List String}
    (h : tree.createDirectory base parts = .ok tree') : AddsDirectories tree tree' := by
  rw [createDirectory] at h
  cases hwalk : tree.walk base parts with
  | error fault =>
      rw [hwalk] at h
      cases h
  | ok place =>
      simp only [hwalk, bind, Except.bind] at h
      cases hplace : tree.node? place with
      | none =>
          rw [hplace] at h
          cases h
          exact addsDirectories_put hplace
      | some node =>
          rw [hplace] at h
          cases h

theorem addsDirectories_createAll (tree : FileTree) (base parts : List String) :
    AddsDirectories tree (tree.createAll base parts).1 := by
  induction parts generalizing tree with
  | nil => exact .refl tree
  | cons part outer ih =>
      rw [createAll]
      cases hfirst : tree.createDirectory base (part :: outer).reverse with
      | ok made => exact addsDirectories_createDirectory hfirst
      | error fault =>
          cases fault with
          | notFound =>
              have houter := ih tree
              obtain ⟨around, result, hall⟩ : ∃ around result,
                  tree.createAll base outer = (around, result) := ⟨_, _, rfl⟩
              rw [hall] at houter
              simp only [hall]
              cases result with
              | error fault => exact houter
              | ok done =>
                  cases hsecond : around.createDirectory base (part :: outer).reverse with
                  | error fault =>
                      simp only [hsecond]
                      exact houter
                  | ok made =>
                      simp only [hsecond]
                      exact houter.trans (addsDirectories_createDirectory hsecond)
          | _ => exact .refl tree

theorem addsDirectories_createDirectories (tree : FileTree) (path : String) :
    AddsDirectories tree (tree.createDirectories path).1 :=
  addsDirectories_createAll tree _ _

end Rulebook.FileTree
