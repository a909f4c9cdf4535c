import Rulebook.Proofs.Audit.Entry
import Rulebook.Proofs.Files.Append
import Rulebook.Proofs.Text.Bytes

namespace Rulebook

namespace Audit

theorem entriesOf_eq (content : String) :
    entriesOf content =
      (Text.lines content).filterMap fun line => (Json.read Entry.read line).toOption := by
  rw [entriesOf]
  congr
  funext line
  exact Entry.entryOfLine?_eq line

theorem entriesOf_append {s : String} (hs : Text.Complete s) (t : String) :
    entriesOf (s ++ t) = entriesOf s ++ entriesOf t := by
  rw [entriesOf, Text.lines_append_of_complete hs, List.filterMap_append]
  rfl

theorem entriesOf_line {entry : Entry} (h : entry.recordedAt.WellFormed) :
    entriesOf entry.line = [entry] := by
  rw [entriesOf_eq, Entry.lines_line, List.filterMap_cons, Entry.read_compact h]
  rfl

namespace LogFile

variable {log : LogFile} {tree tree' : FileTree} {entries : List Entry}

/-- Recording in a log that stands in a tree of files. -/
def recordIn (log : LogFile) (tree : FileTree) (entry : Entry) : Result Unit × FileTree :=
  (log.record entry : StateM FileTree (Result Unit)).run tree

def readIn (log : LogFile) (tree : FileTree) : Result (List Entry) × FileTree :=
  (log.readAll : StateM FileTree (Result (List Entry))).run tree

theorem recordIn_eq (log : LogFile) (tree : FileTree) (entry : Entry) :
    log.recordIn tree entry =
      match tree.appendBytes log.path entry.line.toUTF8 with
      | .ok tree' => (.ok (), tree')
      | .error fault => (failure ("opening audit log " ++ log.path) fault, tree) := by
  simp only [recordIn, record, FileSystem.appendBytes, StateT.run_bind, StateT.run_get, pure_bind]
  cases tree.appendBytes log.path entry.line.toUTF8 <;> rfl

theorem readIn_eq (log : LogFile) (tree : FileTree) :
    log.readIn tree =
      (if (tree.find? log.path).isSome then
        match tree.readBytes log.path >>= textOfBytes with
        | .ok content => .ok (entriesOf content)
        | .error fault => failure ("reading audit log " ++ log.path) fault
      else .ok [], tree) := by
  simp only [readIn, readAll, FileSystem.pathExists, StateT.run_bind, StateT.run_get,
    StateT.run_pure, pure_bind]
  by_cases hexists : (tree.find? log.path).isSome = true
  · simp only [hexists, if_true, readText, FileSystem.readBytes, StateT.run_bind, StateT.run_get,
      StateT.run_pure, pure_bind]
    cases tree.readBytes log.path >>= textOfBytes <;> rfl
  · rw [if_neg hexists, if_neg hexists]
    rfl

theorem recordIn_eq_ok_iff {entry : Entry} :
    log.recordIn tree entry = (.ok (), tree') ↔
      tree.appendBytes log.path entry.line.toUTF8 = .ok tree' := by
  rw [recordIn_eq]
  cases tree.appendBytes log.path entry.line.toUTF8 with
  | ok tree' => simp
  | error fault => simp [failure]

/-- The log consists of complete lines, and on these are the entries. -/
def Keeps (log : LogFile) (tree : FileTree) (entries : List Entry) : Prop :=
  ∃ text : String, tree.Holds log.path text.toUTF8 ∧ Text.Complete text ∧ entriesOf text = entries

theorem keeps_nil (h : tree.Holds log.path .empty) : log.Keeps tree [] :=
  ⟨"", h, Or.inl rfl, rfl⟩

theorem Keeps.append {text : String} (h : log.Keeps tree entries) (htext : Text.Ended text)
    (happend : tree.appendBytes log.path text.toUTF8 = .ok tree') :
    log.Keeps tree' (entries ++ entriesOf text) := by
  obtain ⟨old, hholds, hcomplete, rfl⟩ := h
  refine ⟨old ++ text, ?_, Or.inr (Text.Ended.append old htext), entriesOf_append hcomplete text⟩
  have hnew := hholds.append happend
  rw [String.toUTF8_eq_toByteArray, String.toByteArray_append]
  exact hnew

theorem Keeps.record {entry : Entry} (h : log.Keeps tree entries)
    (hrecord : log.recordIn tree entry = (.ok (), tree'))
    (htime : entry.recordedAt.WellFormed) : log.Keeps tree' (entries ++ [entry]) := by
  rw [← entriesOf_line htime]
  exact h.append (Text.ended_line _) (recordIn_eq_ok_iff.mp hrecord)

theorem readIn_of_holds {content : ByteArray} (h : tree.Holds log.path content) :
    log.readIn tree =
      (match textOfBytes content with
        | .ok text => .ok (entriesOf text)
        | .error fault => failure ("reading audit log " ++ log.path) fault, tree) := by
  rw [readIn_eq]
  by_cases hexists : (tree.find? log.path).isSome = true
  · have hread : tree.readBytes log.path >>= textOfBytes = textOfBytes content := by
      rw [h.readBytes hexists]
      rfl
    rw [if_pos hexists, hread]
  · rcases h with hfile | ⟨-, hempty⟩
    · rw [hfile] at hexists
      exact absurd rfl hexists
    · have hnothing : textOfBytes content = .ok "" := by
        rw [hempty]
        exact textOfBytes_toUTF8 ""
      rw [if_neg hexists, hnothing]
      rfl

theorem Keeps.readIn (h : log.Keeps tree entries) :
    log.readIn tree = (.ok entries, tree) := by
  obtain ⟨text, hholds, -, rfl⟩ := h
  rw [readIn_of_holds hholds, textOfBytes_toUTF8]

end LogFile

/-- What happens to a log file: an entry is recorded in it, or others add a text to it. -/
inductive Event where
  | recorded (entry : Entry)
  | appended (text : String)

/-- The entries that an event brings: the one that is recorded, or those on lines of the text. -/
def Event.entries : Event → List Entry
  | .recorded entry => [entry]
  | .appended text => (Text.lines text).filterMap fun line => (Json.read Entry.read line).toOption

namespace LogFile

/-- An event that succeeds; the text that others add ends with a line feed. -/
inductive Step (log : LogFile) : FileTree → Event → FileTree → Prop
  | recorded {tree tree' : FileTree} {entry : Entry}
      (hrecord : log.recordIn tree entry = (.ok (), tree')) : Step log tree (.recorded entry) tree'
  | appended {tree tree' : FileTree} {text : String} (htext : Text.Ended text)
      (happend : tree.appendBytes log.path text.toUTF8 = .ok tree') :
      Step log tree (.appended text) tree'

/-- Events that succeed one after the other. -/
inductive Run (log : LogFile) : FileTree → List Event → FileTree → Prop
  | nil (tree : FileTree) : Run log tree [] tree
  | cons {tree tree' tree'' : FileTree} {event : Event} {events : List Event}
      (hstep : log.Step tree event tree') (hrun : Run log tree' events tree'') :
      Run log tree (event :: events) tree''

variable {log : LogFile} {tree tree' : FileTree} {entries : List Entry}

theorem Keeps.step {event : Event} (h : log.Keeps tree entries) (hstep : log.Step tree event tree')
    (htime : ∀ entry, event = .recorded entry → entry.recordedAt.WellFormed) :
    log.Keeps tree' (entries ++ event.entries) := by
  cases hstep with
  | recorded hrecord => exact h.record hrecord (htime _ rfl)
  | appended htext happend =>
      have hkeeps := h.append htext happend
      rwa [entriesOf_eq] at hkeeps

theorem Keeps.run {events : List Event} (h : log.Keeps tree entries)
    (hrun : log.Run tree events tree')
    (htimes : ∀ entry, .recorded entry ∈ events → entry.recordedAt.WellFormed) :
    log.Keeps tree' (entries ++ events.flatMap Event.entries) := by
  induction hrun generalizing entries with
  | nil tree =>
      rw [List.flatMap_nil, List.append_nil]
      exact h
  | cons hstep hrun ih =>
      have hkeeps := h.step hstep fun entry hentry =>
        htimes entry (hentry ▸ List.mem_cons_self)
      have hrest := ih hkeeps fun entry hentry => htimes entry (List.mem_cons_of_mem _ hentry)
      rwa [List.append_assoc, ← List.flatMap_cons] at hrest

/-- Reading a log that was empty at first gives what was recorded in it and what others added on
lines of its own, in the order in which it came. -/
theorem readIn_run {events : List Event} (hempty : tree.Holds log.path .empty)
    (hrun : log.Run tree events tree')
    (htimes : ∀ entry, .recorded entry ∈ events → entry.recordedAt.WellFormed) :
    log.readIn tree' = (.ok (events.flatMap Event.entries), tree') :=
  ((keeps_nil hempty).run hrun htimes).readIn

end LogFile

/-- Lines that are no entries. -/
def noise : String :=
  "not an entry\n\n \t\n\x7b\"id\":1,\"message\":\"\u2028\"\x7d\r\n"

/-- An entry with all sorts of characters, recorded in a leap second. -/
def awkwardEntry : Entry :=
  .blocked ⟨0x123456789abcdef⟩ "two\nlines\r" "\"quoted\" \\ \x07\u2028" (.unknownCommand "\x00")
    ⟨20000, 86399, 1500000000⟩

def plainEntry : Entry :=
  .blocked .nil "p" "make" (.missingProject "p") ⟨-1, 0, 0⟩

namespace LogFile

theorem readIn_run_noise :
    ∃ tree, Run ⟨"audit.jsonl"⟩ .empty
      [.recorded awkwardEntry, .appended (noise ++ plainEntry.line), .recorded awkwardEntry] tree ∧
      readIn ⟨"audit.jsonl"⟩ tree = (.ok [awkwardEntry, plainEntry, awkwardEntry], tree) := by
  have hawkward : awkwardEntry.recordedAt.WellFormed :=
    ⟨by decide, Or.inr (by decide), by decide⟩
  have hplain : plainEntry.recordedAt.WellFormed := ⟨by decide, Or.inl (by decide), by decide⟩
  have hnoise : entriesOf noise = [] := List.isEmpty_iff.mp (by decide +kernel)
  have hended : Text.Ended noise := by decide +kernel
  have hline : Text.Ended (noise ++ plainEntry.line) :=
    Text.Ended.append noise (Text.ended_line plainEntry.toJson.compact)
  have hlines : (Event.appended (noise ++ plainEntry.line)).entries = [plainEntry] := by
    rw [Event.entries, ← entriesOf_eq, entriesOf_append (Or.inr hended), hnoise,
      entriesOf_line hplain]
    rfl
  obtain ⟨tree, hrun⟩ : ∃ tree, Run ⟨"audit.jsonl"⟩ .empty [.recorded awkwardEntry,
      .appended (noise ++ plainEntry.line), .recorded awkwardEntry] tree :=
    ⟨_, .cons (.recorded rfl) <| .cons (.appended hline rfl) <| .cons (.recorded rfl) (.nil _)⟩
  refine ⟨tree, hrun, ?_⟩
  have hempty : FileTree.empty.Holds "audit.jsonl" .empty := Or.inr ⟨by rfl, rfl⟩
  rw [readIn_run hempty hrun ?_]
  · rw [List.flatMap_cons, List.flatMap_cons, hlines]
    rfl
  · intro entry hentry
    rw [List.mem_cons, List.mem_cons, List.mem_cons] at hentry
    rcases hentry with h | h | h | h
    · cases h
      exact hawkward
    · cases h
    · cases h
      exact hawkward
    · cases h

end LogFile

end Audit

end Rulebook
