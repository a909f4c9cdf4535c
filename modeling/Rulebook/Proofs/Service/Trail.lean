import Rulebook.Proofs.Audit.Log
import Rulebook.Proofs.Service.Stamp

namespace Rulebook.Service

open Audit

/-- What is asked of a service; a compilation brings its ticket. -/
inductive Call where
  | compile (ticket : Ticket) (request : Request)
  | resolve (request : Request)

inductive Reply where
  | outcome (outcome : Outcome)
  | resolution (resolution : Resolution)

def Call.isCompile : Call → Bool
  | .compile _ _ => true
  | .resolve _ => false

def answer {m : Type → Type} [Monad m] (service : Service) (sink : Sink m) : Call → m Reply
  | .compile ticket request => return .outcome (← service.compile sink ticket request)
  | .resolve request => return .resolution (service.resolve request)

/-- One call after the other. -/
def serve {m : Type → Type} [Monad m] (service : Service) (sink : Sink m) (calls : List Call) :
    m (List Reply) :=
  calls.mapM (service.answer sink)

/-- A compilation: what was asked for, and how it ended. -/
def attempt? : Call × Reply → Option (Request × Outcome)
  | (.compile _ request, .outcome outcome) => some (request, outcome)
  | _ => none

structure RecordsContract (stamped : StampedContract) (entry : Entry) : Prop where
  status : entry.status = .ok
  contractId : ∃ id, stamped.contract.id = some id ∧ entry.contractId = some id
  recordedAt : stamped.contract.generatedAt = some entry.recordedAt
  fingerprint : entry.fingerprint = some stamped.fingerprint
  appliedRules : entry.appliedRules = stamped.contract.ruleIds
  reason : entry.reason = none
  message : entry.message = none

structure RecordsBlock (block : Block) (entry : Entry) : Prop where
  status : entry.status = .blocked
  reason : entry.reason = some block.reason
  message : entry.message = some block.message
  contractId : entry.contractId = none
  fingerprint : entry.fingerprint = none
  appliedRules : entry.appliedRules = []

/-- The entry tells what was asked for and how it ended. -/
structure Records (attempt : Request × Outcome) (entry : Entry) : Prop where
  projectId : entry.projectId = attempt.1.projectId
  commandId : entry.commandId = attempt.1.commandId
  contract : ∀ stamped, attempt.2 = .contract stamped → RecordsContract stamped entry
  block : ∀ block, attempt.2 = .blocked block → RecordsBlock block entry

theorem records_entryOf (service : Service) (ticket : Ticket) (request : Request) :
    Records (request, service.outcome ticket request)
      (entryOf ticket request (service.outcome ticket request)) := by
  cases h : service.resolve request with
  | contract contract =>
      obtain ⟨context, rules, rfl⟩ := exists_contractOf h
      rw [outcome_of_contract h]
      refine ⟨rfl, rfl, fun stamped hstamped => ?_, nofun⟩
      cases hstamped
      exact ⟨rfl, ⟨_, rfl, rfl⟩, rfl, rfl, rfl, rfl, rfl⟩
  | blocked block =>
      rw [outcome_of_blocked h]
      refine ⟨rfl, rfl, nofun, fun block' hblock => ?_⟩
      cases hblock
      exact ⟨rfl, rfl, rfl, rfl, rfl, rfl⟩

theorem recordedAt_entryOf (ticket : Ticket) (request : Request) (outcome : Outcome) :
    (entryOf ticket request outcome).recordedAt = ticket.time := by
  cases outcome <;> rfl

section Runs

variable {σ : Type} (service : Service) (sink : Sink (StateM σ))

def replies (start : σ) (calls : List Call) : List Reply :=
  ((service.serve sink calls).run start).1

/-- What the calls leave behind. -/
def after (start : σ) (calls : List Call) : σ :=
  ((service.serve sink calls).run start).2

/-- The answer to a call, which does not depend on the log. -/
def reply : Call → Reply
  | .compile ticket request => .outcome (service.outcome ticket request)
  | .resolve request => .resolution (service.resolve request)

/-- The entry for a call, if it gets one. -/
def entry? : Call → Option Entry
  | .compile ticket request => some (entryOf ticket request (service.outcome ticket request))
  | .resolve _ => none

theorem replies_eq (start : σ) (calls : List Call) :
    service.replies sink start calls = calls.map service.reply := by
  refine run_mapM_fst (fun call s => ?_) calls start
  cases call <;> rfl

theorem after_cons (start : σ) (call : Call) (calls : List Call) :
    service.after sink start (call :: calls) =
      service.after sink ((service.answer sink call).run start).2 calls := by
  rw [after, serve, List.mapM_cons]
  rfl

theorem filterMap_attempt? (calls : List Call) :
    List.Forall₂ Records ((calls.zip (calls.map service.reply)).filterMap attempt?)
      (calls.filterMap service.entry?) := by
  induction calls with
  | nil => exact .nil
  | cons call calls ih =>
      cases call with
      | compile ticket request => exact .cons (service.records_entryOf ticket request) ih
      | resolve request => exact ih

theorem length_filterMap_entry? (calls : List Call) :
    (calls.filterMap service.entry?).length = calls.countP Call.isCompile := by
  induction calls with
  | nil => rfl
  | cons call calls ih =>
      cases call with
      | compile ticket request =>
          rw [List.countP_cons_of_pos rfl, ← ih]
          rfl
      | resolve request =>
          rw [List.countP_cons_of_neg Bool.false_ne_true, ← ih]
          rfl

theorem shows_after {Shows : σ → List Entry → Prop} {Sound : Entry → Prop}
    (hrecord : ∀ s entries entry, Shows s entries → Sound entry →
      Shows ((sink entry).run s).2 (entries ++ [entry]))
    {start : σ} {entries : List Entry} (hstart : Shows start entries) {calls : List Call}
    (hsound : ∀ entry ∈ calls.filterMap service.entry?, Sound entry) :
    Shows (service.after sink start calls) (entries ++ calls.filterMap service.entry?) := by
  -- over the calls, from any log: a resolution leaves it alone, a compilation records one entry
  induction calls generalizing start entries with
  | nil =>
      rw [List.filterMap_nil, List.append_nil]
      exact hstart
  | cons call calls ih =>
      rw [after_cons]
      cases call with
      | resolve request => exact ih hstart hsound
      | compile ticket request =>
          have hentries : (Call.compile ticket request :: calls).filterMap service.entry? =
              entryOf ticket request (service.outcome ticket request) ::
                calls.filterMap service.entry? := rfl
          rw [hentries] at hsound ⊢
          have hnext := ih (hrecord start entries _ hstart (hsound _ List.mem_cons_self))
            fun entry hentry => hsound entry (List.mem_cons_of_mem _ hentry)
          rwa [List.append_assoc] at hnext

end Runs

/-- The trail that calls leave in a log, as a reader of the log is shown it: one entry for each
compilation, and what was shown after some of the calls is still shown after all of them. -/
structure Trail {σ : Type} (service : Service) (sink : Sink (StateM σ))
    (shown : σ → Result (List Entry)) (start : σ) (calls : List Call) : Prop where
  matched : ∃ entries, shown (service.after sink start calls) = .ok entries ∧
    entries.length = calls.countP Call.isCompile ∧
    List.Forall₂ Records ((calls.zip (service.replies sink start calls)).filterMap attempt?) entries
  kept : ∀ before, before <+: calls → ∃ entries later,
    shown (service.after sink start before) = .ok entries ∧
      shown (service.after sink start calls) = .ok (entries ++ later)

theorem trail_of_shows {σ : Type} (service : Service) {sink : Sink (StateM σ)}
    {shown : σ → Result (List Entry)} (Shows : σ → List Entry → Prop) (Sound : Entry → Prop)
    (hshown : ∀ s entries, Shows s entries → shown s = .ok entries)
    (hrecord : ∀ s entries entry, Shows s entries → Sound entry →
      Shows ((sink entry).run s).2 (entries ++ [entry]))
    {start : σ} (hstart : Shows start []) {calls : List Call}
    (hsound : ∀ entry ∈ calls.filterMap service.entry?, Sound entry) :
    Trail service sink shown start calls := by
  have hshows {part : List Call} (hpart : ∀ entry ∈ part.filterMap service.entry?, Sound entry) :
      shown (service.after sink start part) = .ok (part.filterMap service.entry?) :=
    hshown _ _ (service.shows_after sink hrecord hstart hpart)
  constructor
  case matched =>
    refine ⟨calls.filterMap service.entry?, hshows hsound, ?_, ?_⟩
    · exact service.length_filterMap_entry? calls
    · rw [replies_eq]
      exact service.filterMap_attempt? calls
  case kept =>
    rintro before ⟨more, rfl⟩
    -- the entries of all calls are those of the first calls and then those of the others
    refine ⟨before.filterMap service.entry?, more.filterMap service.entry?, hshows ?_, ?_⟩
    · intro entry hentry
      refine hsound entry ?_
      rw [List.filterMap_append]
      exact List.mem_append_left _ hentry
    · rw [hshows hsound, List.filterMap_append]

theorem trail_memory (service : Service) (calls : List Call) :
    Trail service Sink.memory .ok [] calls := by
  refine service.trail_of_shows Eq (fun _ => True) ?_ ?_ rfl fun _ _ => trivial
  · rintro kept entries rfl
    rfl
  · rintro kept entries entry rfl -
    rfl

theorem keeps_record {log : LogFile} {tree : FileTree} {entries : List Entry} {entry : Entry}
    (h : tree.Writable log.path ∧ log.Keeps tree entries) (htime : entry.recordedAt.WellFormed) :
    (log.recordIn tree entry).2.Writable log.path ∧
      log.Keeps (log.recordIn tree entry).2 (entries ++ [entry]) := by
  obtain ⟨hwritable, hkeeps⟩ := h
  obtain ⟨tree', happend⟩ := hwritable entry.line.toUTF8
  have hrecord := LogFile.recordIn_eq_ok_iff.mpr happend
  have hkept := hkeeps.record hrecord htime
  rw [hrecord]
  exact ⟨FileTree.writable_of_appendBytes happend, hkept⟩

theorem trail_logFile (service : Service) {log : LogFile} {tree : FileTree}
    (hempty : tree.Holds log.path .empty) (hwritable : tree.Writable log.path) {calls : List Call}
    (htimes : ∀ ticket request, .compile ticket request ∈ calls → ticket.time.WellFormed) :
    Trail service log.record (fun tree => (log.readIn tree).1) tree calls := by
  refine service.trail_of_shows
    (fun tree entries => tree.Writable log.path ∧ log.Keeps tree entries)
    (fun entry => entry.recordedAt.WellFormed) ?_ ?_ ⟨hwritable, LogFile.keeps_nil hempty⟩ ?_
  · rintro tree entries ⟨-, hkeeps⟩
    rw [hkeeps.readIn]
  · exact fun tree entries entry hshows htime => keeps_record hshows htime
  · intro entry hentry
    obtain ⟨call, hcall, hentry⟩ := List.mem_filterMap.mp hentry
    cases call with
    | resolve request => cases hentry
    | compile ticket request =>
        obtain rfl := Option.some.inj hentry
        rw [recordedAt_entryOf]
        exact htimes ticket request hcall

/-- A log in memory and a log file that is empty at first and can be written to both get the trail
of the calls. -/
theorem serve_trail (service : Service) (calls : List Call) :
    Trail service Sink.memory .ok [] calls ∧
      ∀ (log : LogFile) (tree : FileTree), tree.Holds log.path .empty → tree.Writable log.path →
        (∀ ticket request, .compile ticket request ∈ calls → ticket.time.WellFormed) →
        Trail service log.record (fun tree => (log.readIn tree).1) tree calls :=
  ⟨service.trail_memory calls, fun _ _ hempty hwritable htimes =>
    service.trail_logFile hempty hwritable htimes⟩

/-- A compilation for the shop, a resolution, and a compilation for nobody. -/
def shopCalls : List Call :=
  [.compile ⟨⟨20000, 86399, 1500000000⟩, ⟨1⟩, ⟨2⟩⟩ shopRequest, .resolve shopRequest,
    .compile ⟨⟨20001, 0, 0⟩, ⟨3⟩, ⟨4⟩⟩ (Request.new "two\nlines" "make")]

theorem wellFormed_shopCalls (ticket : Ticket) (request : Request)
    (h : .compile ticket request ∈ shopCalls) : ticket.time.WellFormed := by
  rw [shopCalls, List.mem_cons, List.mem_cons, List.mem_cons] at h
  rcases h with h | h | h | h
  · cases h
    exact ⟨by decide, Or.inr (by decide), by decide⟩
  · cases h
  · cases h
    exact ⟨by decide, Or.inl (by decide), by decide⟩
  · cases h

theorem serve_trail_shop :
    ∃ catalog, Catalog.ofDocument Catalog.builtinDocument = .ok catalog ∧
      FileTree.empty.Holds "audit.jsonl" .empty ∧ FileTree.empty.Writable "audit.jsonl" ∧
      Trail ⟨catalog, shopProjects⟩ (LogFile.record ⟨"audit.jsonl"⟩)
        (fun tree => (LogFile.readIn ⟨"audit.jsonl"⟩ tree).1) .empty shopCalls := by
  obtain ⟨catalog, hcatalog⟩ :
      ∃ catalog, Catalog.ofDocument Catalog.builtinDocument = .ok catalog := ⟨_, rfl⟩
  have hempty : FileTree.empty.Holds "audit.jsonl" .empty := Or.inr ⟨rfl, rfl⟩
  have hwritable : FileTree.empty.Writable "audit.jsonl" := fun bytes => ⟨_, rfl⟩
  exact ⟨catalog, hcatalog, hempty, hwritable,
    (serve_trail ⟨catalog, shopProjects⟩ shopCalls).2 ⟨"audit.jsonl"⟩ .empty hempty hwritable
      wellFormed_shopCalls⟩

end Rulebook.Service
