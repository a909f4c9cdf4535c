import Rulebook.Program
import Rulebook.Proofs.Files.Directories
import Rulebook.Proofs.Outcome
import Rulebook.Proofs.Program.Opening
import Rulebook.Proofs.Reread
import Rulebook.Proofs.Service.Trail

namespace Rulebook

theorem BlockReason.eq_of_name_append {reason reason' : BlockReason} {rest rest' : List Char}
    (h : reason.name.toList ++ rest = reason'.name.toList ++ rest') : reason = reason' := by
  have hhead := congrArg List.head? h
  cases reason <;> cases reason' <;> first | rfl | simp [name] at hhead

theorem Block.read_line (block : Block) :
    Json.read Outcome.read ((Outcome.blocked block).toJson.indented ++ "\n") =
      .ok (.blocked block) :=
  Outcome.read_line_of_readable nofun block.readable

namespace Program

theorem unlines_cons (line : String) (lines : List String) :
    unlines (line :: lines) = line ++ "\n" ++ unlines lines := by
  rw [unlines, List.map_cons, String.join_cons, unlines]

theorem unlines_singleton (line : String) : unlines [line] = line ++ "\n" := by
  rw [unlines_cons]
  exact String.append_empty

theorem exists_toList_errors (palette : Palette) (block : Block) :
    ∃ rest, (reportOutcome palette false (.blocked block)).errors.toList =
      (palette.paint .redBold "BLOCKED" ++ " ").toList ++ (block.reason.name.toList ++ rest) := by
  show ∃ rest, (unlines (blockLines palette block)).toList = _ ++ (_ ++ rest)
  rw [blockLines, unlines_cons, Block.display]
  simp only [String.toList_append, List.append_assoc]
  exact ⟨_, rfl⟩

theorem reason_eq_of_reportOutcome_eq {palette palette' : Palette} {json : Bool}
    {block block' : Block}
    (h : reportOutcome palette json (.blocked block) =
      reportOutcome palette' json (.blocked block')) : block.reason = block'.reason := by
  cases json with
  | true =>
      have houtput : (Outcome.blocked block).toJson.indented ++ "\n" =
          (Outcome.blocked block').toJson.indented ++ "\n" := by
        rw [← unlines_singleton, ← unlines_singleton]
        exact congrArg Report.output h
      have hread := block.read_line
      rw [houtput, block'.read_line] at hread
      cases hread
      rfl
  | false =>
      obtain ⟨rest, hleft⟩ := exists_toList_errors palette block
      obtain ⟨rest', hright⟩ := exists_toList_errors palette' block'
      rw [h, hright] at hleft
      obtain ⟨shown⟩ := palette
      obtain ⟨shown'⟩ := palette'
      have hshown : shown = shown' := by
        have hhead := congrArg List.head? hleft
        cases shown <;> cases shown' <;> first | rfl | simp [Palette.paint] at hhead
      subst hshown
      exact BlockReason.eq_of_name_append (List.append_cancel_left hleft).symm

end Program

open Audit FileTree Resolution

namespace Audit.LogFile

/-- The directory that a log at a path stands in, unless the path names none. -/
def directory? (path : String) : Option String :=
  (Path.parent? path).filter (· ≠ "")

theorem run_prepare (path : String) (tree : FileTree) :
    (prepare path : StateM FileTree _).run tree =
      match directory? path with
      | none => (.ok ⟨path⟩, tree)
      | some directory =>
          match tree.createDirectories directory with
          | (prepared, .ok ()) => (.ok ⟨path⟩, prepared)
          | (prepared, .error fault) =>
              (failure ("creating audit directory " ++ directory) fault, prepared) := by
  rw [prepare, directory?]
  cases Path.parent? path with
  | none => rfl
  | some directory =>
      by_cases hname : directory = ""
      · subst hname
        rfl
      · have hkept : (some directory).filter (fun name => decide (name ≠ "")) = some directory := by
          simp [hname]
        rw [hkept]
        split
        case h_1 h => cases h
        case h_2 h => exact absurd (Option.some.inj h) hname
        case h_3 h =>
          cases h
          obtain ⟨prepared, result, hmade⟩ : ∃ prepared result,
              tree.createDirectories directory = (prepared, result) := ⟨_, _, rfl⟩
          have hrun : (FileSystem.createDirectories directory : StateM FileTree _).run tree =
              (result, prepared) := by
            show ((tree.createDirectories directory).2, (tree.createDirectories directory).1) = _
            rw [hmade]
          rw [FileTree.run_bind, answer, hrun]
          simp only [hmade]
          cases result <;> rfl

end Audit.LogFile

namespace Program

/-- The directory of the audit log can be made, where there is a log and its path names one. The
last tree is the one with the directory. -/
inductive Ready (tree : FileTree) (configuration : Configuration) : FileTree → Prop
  | unlogged (hlog : configuration.auditLog = none) : Ready tree configuration tree
  | bare {path : String} (hlog : configuration.auditLog = some path)
      (hdirectory : LogFile.directory? path = none) : Ready tree configuration tree
  | made {path directory : String} {prepared : FileTree}
      (hlog : configuration.auditLog = some path)
      (hdirectory : LogFile.directory? path = some directory)
      (hmade : tree.createDirectories directory = (prepared, .ok ())) :
      Ready tree configuration prepared

/-- Where the entry of a run goes. -/
def sinkOf (configuration : Configuration) : Sink (StateM FileTree) :=
  match configuration.auditLog with
  | none => Sink.discard
  | some path => LogFile.record ⟨path⟩

theorem Ready.addsDirectories {tree prepared : FileTree} {configuration : Configuration}
    (h : Ready tree configuration prepared) : AddsDirectories tree prepared := by
  cases h with
  | unlogged => exact .refl tree
  | bare => exact .refl tree
  | @made path directory prepared _ _ hmade =>
      have hadds := addsDirectories_createDirectories tree directory
      rwa [hmade] at hadds

theorem Ready.run_openSink {tree prepared : FileTree} {configuration : Configuration}
    (h : Ready tree configuration prepared) :
    (openSink configuration : StateM FileTree (Result (Sink (StateM FileTree)))).run tree =
      (.ok (sinkOf configuration), prepared) := by
  cases h with
  | unlogged hlog =>
      simp only [openSink, sinkOf, hlog]
      rfl
  | bare hlog hdirectory =>
      simp only [openSink, sinkOf, hlog]
      rw [FileTree.run_bind, answer, LogFile.run_prepare, hdirectory]
      rfl
  | made hlog hdirectory hmade =>
      simp only [openSink, sinkOf, hlog]
      rw [FileTree.run_bind, answer, LogFile.run_prepare, hdirectory]
      simp only [hmade]
      rfl

theorem Ready.unique {tree prepared prepared' : FileTree} {configuration : Configuration}
    (h : Ready tree configuration prepared) (h' : Ready tree configuration prepared') :
    prepared = prepared' :=
  (Prod.mk.inj (h.run_openSink.symm.trans h'.run_openSink)).2

theorem exists_run_openSink_error {tree : FileTree} {configuration : Configuration}
    (h : ¬ ∃ prepared, Ready tree configuration prepared) :
    ∃ error left, (openSink configuration : StateM FileTree (Result (Sink (StateM FileTree)))).run
        tree = (.error error, left) ∧ AddsDirectories tree left := by
  cases hlog : configuration.auditLog with
  | none => exact absurd ⟨tree, .unlogged hlog⟩ h
  | some path =>
      cases hdirectory : LogFile.directory? path with
      | none => exact absurd ⟨tree, .bare hlog hdirectory⟩ h
      | some directory =>
          obtain ⟨left, result, hmade⟩ : ∃ left result,
              tree.createDirectories directory = (left, result) := ⟨_, _, rfl⟩
          cases result with
          | ok done => exact absurd ⟨left, .made hlog hdirectory hmade⟩ h
          | error fault =>
              have hadds := addsDirectories_createDirectories tree directory
              rw [hmade] at hadds
              simp only [openSink, hlog]
              rw [FileTree.run_bind, answer, LogFile.run_prepare, hdirectory]
              simp only [hmade]
              exact ⟨_, left, rfl, hadds⟩

section Run

variable {tree prepared : FileTree} {environment : Environment} (terminal : Bool) (ticket : Ticket)
  {arguments : List String} {invocation : Arguments.Invocation} {configuration : Configuration}
  {catalog : Catalog} {projects : Registry} {request : Request} {json : Bool}

/-- When everything is there, the run reports the outcome of the request. -/
theorem runIn_of_ready (hparse : Arguments.parse arguments = .ok invocation)
    (htask : invocation.task = .resolve request json)
    (hopens : Opens tree environment invocation configuration catalog projects)
    (hready : Ready tree configuration prepared) :
    runIn tree environment terminal ticket arguments =
      (reportOutcome (paletteIn tree environment terminal) json
          (Service.outcome ⟨catalog, projects⟩ ticket request),
        ((sinkOf configuration (Service.entryOf ticket request
          (Service.outcome ⟨catalog, projects⟩ ticket request))).run prepared).2) := by
  rw [runIn_eq hparse, hopens.configured]
  simp only [htask]
  rw [runResolve, (onlyLooks_openCatalog configuration).run_bind, hopens.catalog]
  simp only
  rw [(onlyLooks_openProjects configuration).run_bind, hopens.projects]
  simp only
  rw [FileTree.run_bind, answer, hready.run_openSink]
  rfl

/-- When something is missing, the run fails without a word on its output, and no file changes. -/
theorem exists_runIn_failed (hparse : Arguments.parse arguments = .ok invocation)
    (htask : invocation.task = .resolve request json)
    (h : ¬ ∃ configuration catalog projects prepared,
      Opens tree environment invocation configuration catalog projects ∧
        Ready tree configuration prepared) :
    ∃ reasons left, runIn tree environment terminal ticket arguments =
        (.failed (paletteIn tree environment terminal) [] reasons, left) ∧
      AddsDirectories tree left := by
  rw [runIn_eq hparse]
  cases hconfigured : tree.answer (configure (environmentIn tree environment) invocation) with
  | error error => exact ⟨_, tree, rfl, .refl tree⟩
  | ok configuration =>
      simp only [htask]
      rw [runResolve, (onlyLooks_openCatalog configuration).run_bind]
      cases hcatalog : tree.answer (openCatalog configuration) with
      | error error => exact ⟨_, tree, rfl, .refl tree⟩
      | ok catalog =>
          simp only
          rw [(onlyLooks_openProjects configuration).run_bind]
          cases hprojects : tree.answer (openProjects configuration) with
          | error error => exact ⟨_, tree, rfl, .refl tree⟩
          | ok projects =>
              have hopens : Opens tree environment invocation configuration catalog projects :=
                ⟨hconfigured, hcatalog, hprojects⟩
              obtain ⟨error, left, hsink, hadds⟩ := exists_run_openSink_error
                fun ⟨prepared, hready⟩ => h ⟨_, _, _, prepared, hopens, hready⟩
              simp only
              rw [FileTree.run_bind, answer, hsink]
              exact ⟨_, left, rfl, hadds⟩

end Run

end Program

end Rulebook
