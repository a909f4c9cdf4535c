import Rulebook.Files.Tree
import Rulebook.Proofs.OrderedMap

namespace Rulebook

namespace FileTree

theorem node?_put {place : List String} (hplace : place ≠ []) (tree : FileTree) (node : FileNode)
    (other : List String) :
    (tree.put place node).node? other = if place = other then some node else tree.node? other := by
  rw [node?, node?, put]
  by_cases hroot : other = []
  · rw [if_pos hroot, if_pos hroot, if_neg (by rw [hroot]; exact hplace)]
  · rw [if_neg hroot, if_neg hroot, OrderedMap.get?_put]

theorem ne_root_of_node? {tree : FileTree} {place : List String}
    (h : tree.node? place ≠ some .directory) : place ≠ [] := by
  rintro rfl
  exact h rfl

/-- A path does not lead through a place where no directory stands, so what is put there does not
change where it leads. -/
theorem walk_put {tree : FileTree} {place : List String}
    (hplace : tree.node? place ≠ some .directory) (node : FileNode)
    {base parts target : List String} (hwalk : tree.walk base parts = .ok target) :
    (tree.put place node).walk base parts = .ok target := by
  induction parts generalizing base with
  | nil => exact hwalk
  | cons part parts ih =>
      rw [walk] at hwalk
      cases hbase : tree.node? base with
      | none =>
          rw [hbase] at hwalk
          cases hwalk
      | some found =>
          rw [hbase] at hwalk
          cases found with
          | file content => cases hwalk
          | directory =>
              -- the walk goes on from a directory, so it is not at the place now
              have hother : place ≠ base := by
                rintro rfl
                exact hplace hbase
              rw [walk, node?_put (ne_root_of_node? hplace), if_neg hother, hbase]
              exact ih hwalk

theorem locate_put {tree : FileTree} {place : List String}
    (hplace : tree.node? place ≠ some .directory) (node : FileNode) {path : String}
    {target : List String} (hlocate : tree.locate path = .ok target) :
    (tree.put place node).locate path = .ok target := by
  rw [locate] at hlocate ⊢
  by_cases hempty : path.isEmpty = true
  · rw [if_pos hempty] at hlocate
    cases hlocate
  · rw [if_neg hempty] at hlocate ⊢
    exact walk_put hplace node hlocate

/-- The path names a place for a file. The content is that of the file there; it is empty where
nothing stands yet. -/
structure Names (tree : FileTree) (path : String) (place : List String) (content : ByteArray) :
    Prop where
  located : tree.locate path = .ok place
  open_end : path.toList.getLast? ≠ some '/'
  held : tree.node? place = some (.file content) ∨ tree.node? place = none ∧ content = .empty

/-- The file at a path has the content. A file that is not there has none. -/
def Holds (tree : FileTree) (path : String) (content : ByteArray) : Prop :=
  tree.find? path = some (.file content) ∨ tree.find? path = none ∧ content = .empty

/-- Whatever is added to the file at a path, the file takes it in. -/
def Writable (tree : FileTree) (path : String) : Prop :=
  ∀ bytes, ∃ tree', tree.appendBytes path bytes = .ok tree'

variable {tree tree' : FileTree} {path : String} {place : List String} {content : ByteArray}

namespace Names

theorem not_directory (h : tree.Names path place content) :
    tree.node? place ≠ some .directory := by
  rcases h.held with hfile | ⟨hnone, -⟩
  · rw [hfile]
    nofun
  · rw [hnone]
    nofun

theorem put (h : tree.Names path place content) (new : ByteArray) :
    (tree.put place (.file new)).Names path place new := by
  refine ⟨locate_put h.not_directory _ h.located, h.open_end, Or.inl ?_⟩
  rw [node?_put (ne_root_of_node? h.not_directory), if_pos rfl]

theorem find?_eq (h : tree.Names path place content) : tree.find? path = tree.node? place := by
  rw [find?, h.located]

theorem holds_iff (h : tree.Names path place content) (other : ByteArray) :
    tree.Holds path other ↔ other = content := by
  rw [Holds, h.find?_eq]
  rcases h.held with hfile | ⟨hnone, hempty⟩
  · rw [hfile]
    simp [eq_comm]
  · rw [hnone, hempty]
    simp

theorem appendBytes (h : tree.Names path place content) (bytes : ByteArray) :
    tree.appendBytes path bytes = .ok (tree.put place (.file (content ++ bytes))) := by
  have hpath : path.isEmpty ≠ true := by
    intro hempty
    have hlocated := h.located
    rw [locate, if_pos hempty] at hlocated
    cases hlocated
  rw [FileTree.appendBytes, if_neg hpath, if_neg h.open_end, h.located]
  rcases h.held with hfile | ⟨hnone, hempty⟩
  · simp only [bind, Except.bind, hfile]
  · simp only [bind, Except.bind, hnone, hempty, ByteArray.empty_append]

theorem writable (h : tree.Names path place content) : tree.Writable path :=
  fun bytes => ⟨_, h.appendBytes bytes⟩

end Names

theorem exists_names_of_appendBytes {bytes : ByteArray}
    (h : tree.appendBytes path bytes = .ok tree') :
    ∃ place content, tree.Names path place content := by
  rw [appendBytes] at h
  by_cases hempty : path.isEmpty = true
  · rw [if_pos hempty] at h
    cases h
  rw [if_neg hempty] at h
  by_cases hslash : path.toList.getLast? = some '/'
  · rw [if_pos hslash] at h
    cases hwalk : tree.walk (tree.start path) (Path.parts path).dropLast with
    | error fault =>
        rw [hwalk] at h
        cases h
    | ok place =>
        rw [hwalk] at h
        cases h
  rw [if_neg hslash] at h
  cases hlocate : tree.locate path with
  | error fault =>
      rw [hlocate] at h
      cases h
  | ok place =>
      simp only [hlocate, bind, Except.bind] at h
      cases hplace : tree.node? place with
      | none => exact ⟨place, .empty, hlocate, hslash, Or.inr ⟨hplace, rfl⟩⟩
      | some node =>
          cases node with
          | file content => exact ⟨place, content, hlocate, hslash, Or.inl hplace⟩
          | directory =>
              rw [hplace] at h
              cases h

theorem Holds.append {bytes : ByteArray} (hholds : tree.Holds path content)
    (happend : tree.appendBytes path bytes = .ok tree') : tree'.Holds path (content ++ bytes) := by
  obtain ⟨place, old, hnames⟩ := exists_names_of_appendBytes happend
  rw [hnames.appendBytes] at happend
  obtain rfl := Except.ok.inj happend
  obtain rfl := (hnames.holds_iff content).mp hholds
  exact ((hnames.put _).holds_iff _).mpr rfl

theorem writable_of_appendBytes {bytes : ByteArray}
    (happend : tree.appendBytes path bytes = .ok tree') : tree'.Writable path := by
  obtain ⟨place, old, hnames⟩ := exists_names_of_appendBytes happend
  rw [hnames.appendBytes] at happend
  obtain rfl := Except.ok.inj happend
  exact (hnames.put _).writable

theorem Holds.readBytes (hholds : tree.Holds path content) (hexists : (tree.find? path).isSome) :
    tree.readBytes path = .ok content := by
  rcases hholds with hfile | ⟨hnone, -⟩
  · rw [find?] at hfile
    cases hlocate : tree.locate path with
    | error fault =>
        rw [hlocate] at hfile
        cases hfile
    | ok place =>
        simp only [hlocate] at hfile
        rw [FileTree.readBytes, hlocate]
        simp only [bind, Except.bind, hfile]
  · rw [hnone] at hexists
    cases hexists

end FileTree

end Rulebook
