import Rulebook.Proofs.Audit.Log
import Rulebook.Proofs.Json.Cut
import Rulebook.Proofs.Text.Bytes

/-!
Logs whose last line was cut off while it was written. The next entry is written behind what is left
of that line, so it is lost with it; the entries in front of it and all that follow are not. Where
the cut is inside a character the file is no text any more, and none of it can be read.
-/

namespace Rulebook

theorem Document.Fields.exists_read_unclosed {types : List Type} (fields : Fields types)
    (name : String) (origin : Origin) (members : List (Node × Node)) :
    ∃ fault, fields.read name origin (.object members false) = .error fault := by
  rw [Fields.read]
  cases fields.fill origin fields.empty members with
  | error fault => exact ⟨fault, rfl⟩
  | ok slots => exact ⟨.malformed, rfl⟩

theorem textOfBytes_of_not_isValidUTF8 {bytes : ByteArray} (h : ¬ bytes.IsValidUTF8) :
    textOfBytes bytes = .error .notText := by
  have hread : String.fromUTF8? bytes = none := by
    rw [String.fromUTF8?, dif_neg h]
  rw [textOfBytes, hread]

namespace Audit

open Document

namespace Entry

theorem exists_toJson_eq (entry : Entry) :
    ∃ id members, entry.toJson = .object (("id", id) :: members) :=
  ⟨_, _, rfl⟩

theorem breaks_chars (entry : Entry) : Json.Breaks entry.toJson.chars entry.toJson.depth := by
  have hnumbers := entry.allNumbers_toJson Json.ReadsBack
  obtain ⟨id, members, hjson⟩ := entry.exists_toJson_eq
  rw [hjson] at hnumbers ⊢
  refine Json.breaks_object hnumbers fun rest c hc => ?_
  have hgap : Json.skipGaps ("id".toList.flatMap Json.escaped ++ '"' :: rest) =
      'i' :: 'd' :: '"' :: rest := Json.skipGaps_cons (by decide) _
  rw [hgap] at hc
  obtain rfl := Option.some.inj hc
  decide

/-- A line that is cut off is no entry, with or without a text behind the cut. -/
theorem toOption_read_cut (entry : Entry) {front back rest : List Char} {n : Nat}
    (hrest : Json.Breaks rest n) (hdepth : n ≤ 2) (hcut : front ++ back = entry.toJson.chars)
    (hfront : front ≠ []) (hback : back ≠ []) :
    (Json.read Entry.read (String.ofList (front ++ rest))).toOption = none := by
  have hnumbers : Json.NoNumbers entry.toJson := entry.allNumbers_toJson _
  have hlevel : entry.toJson.depth + n ≤ Json.deepestLevel :=
    Nat.le_trans (Nat.add_le_add entry.depth_toJson_le hdepth) (by decide)
  obtain ⟨id, members, hjson⟩ := entry.exists_toJson_eq
  rw [hjson] at hcut hnumbers hlevel
  obtain ⟨nodes, behind, hdocument⟩ :=
    Json.exists_document_cut hrest hnumbers hlevel hcut hfront hback
  obtain ⟨fault, hfault⟩ :=
    Fields.exists_read_unclosed Entry.fields "AuditEntry" .json nodes
  have hread : Entry.read .json (.object nodes false) = .error fault := by
    rw [Entry.read, hfault]
    rfl
  rw [Json.read, hdocument]
  simp only [hread]
  rfl

theorem toOption_read_glued (entry next : Entry) :
    (Json.read Entry.read
      (String.ofList (entry.toJson.chars ++ next.toJson.chars))).toOption = none := by
  have hdepth : entry.toJson.depth ≤ Json.deepestLevel :=
    Nat.le_trans entry.depth_toJson_le (by decide)
  have hdocument : Json.document (String.ofList (entry.toJson.chars ++ next.toJson.chars)) =
      (Node.ofJson entry.toJson, next.toJson.chars) := by
    rw [Json.document, String.toList_ofList, List.length_append]
    exact Json.scanNode_chars _ _ 0 _ (entry.allNumbers_toJson _) (by omega) (by omega)
      next.breaks_chars.apart
  have hbehind : (Json.skipGaps next.toJson.chars).isEmpty = false := by
    obtain ⟨id, members, hjson⟩ := next.exists_toJson_eq
    rw [hjson, Json.chars_object, Json.skipGaps_cons (by decide)]
    rfl
  rw [Json.read, hdocument]
  cases hread : Entry.read .json (Node.ofJson entry.toJson) with
  | error fault => simp only [hread]; rfl
  | ok read => simp only [hread, hbehind]; rfl

theorem ended_line (entry : Entry) : Text.Ended entry.line :=
  Text.ended_line entry.toJson.compact

theorem line_eq (entry : Entry) : entry.line = String.ofList (entry.toJson.chars ++ ['\n']) := by
  rw [line, Json.compact, String.ofList_append]

theorem exists_cut (entry : Entry) {text : String} {rest : ByteArray} (hrest : rest ≠ .empty)
    (hcut : text.toUTF8 ++ rest = entry.line.toUTF8) :
    ∃ back, text.toList ++ back = entry.toJson.chars := by
  have hvalid : (text.toUTF8 ++ rest).IsValidUTF8 := by
    rw [hcut]
    exact entry.line.isValidUTF8
  obtain ⟨after, rfl⟩ := exists_toUTF8_iff.mp (isValidUTF8_toUTF8_append_iff.mp hvalid)
  have hline : text ++ after = entry.line := by
    refine String.toByteArray_inj.mp ?_
    rw [String.toByteArray_append]
    exact hcut
  have hchars : text.toList ++ after.toList = entry.toJson.chars ++ ['\n'] := by
    rw [← String.toList_append, hline, line_eq, String.toList_ofList]
  have hafter : after.toList ≠ [] := by
    intro hnil
    rw [String.toList_eq_nil_iff.mp hnil] at hrest
    exact hrest rfl
  obtain ⟨back, c, hback⟩ := (List.eq_nil_or_concat after.toList).resolve_left hafter
  rw [hback, List.concat_eq_append, ← List.append_assoc] at hchars
  exact ⟨back, (List.append_inj' hchars rfl).1⟩

end Entry

/-- What a log file holds when nothing but these entries was recorded in it. -/
def journal : List Entry → String
  | [] => ""
  | entry :: entries => entry.line ++ journal entries

theorem complete_journal (entries : List Entry) : Text.Complete (journal entries) := by
  induction entries with
  | nil => exact Or.inl rfl
  | cons entry entries ih =>
      refine Or.inr ?_
      rw [journal]
      rcases ih with hnil | hended
      · rw [hnil, String.append_empty]
        exact entry.ended_line
      · exact Text.Ended.append _ hended

theorem entriesOf_journal {entries : List Entry}
    (htimes : ∀ entry ∈ entries, entry.recordedAt.WellFormed) :
    entriesOf (journal entries) = entries := by
  induction entries with
  | nil => rfl
  | cons entry entries ih =>
      rw [journal, entriesOf_append (Or.inr entry.ended_line),
        entriesOf_line (htimes entry List.mem_cons_self),
        ih fun other hother => htimes other (List.mem_cons_of_mem _ hother)]
      rfl

section Torn

variable {entry : Entry} {text : String} {back : List Char}

theorem notMem_of_cut {c : Char} (hc : c ∉ entry.toJson.compact.toList)
    (hcut : text.toList ++ back = entry.toJson.chars) : c ∉ text.toList := by
  intro hmem
  rw [Json.compact, String.toList_ofList, ← hcut] at hc
  exact hc (List.mem_append_left back hmem)

theorem entriesOf_part (htime : entry.recordedAt.WellFormed) (hne : text ≠ "")
    (hcut : text.toList ++ back = entry.toJson.chars) :
    entriesOf text = if text = entry.toJson.compact then [entry] else [] := by
  have hfeed : '\n' ∉ text.toList :=
    notMem_of_cut (Json.newline_notMem_compact (entry.allNumbers_toJson _)) hcut
  rw [entriesOf_eq, Text.lines_of_notMem hne hfeed]
  split
  case isTrue hwhole =>
    rw [hwhole, List.filterMap_cons, Entry.read_compact htime]
    rfl
  case isFalse hpart =>
    have hback : back ≠ [] := by
      rintro rfl
      rw [List.append_nil] at hcut
      rw [Json.compact, ← hcut, String.ofList_toList] at hpart
      exact hpart rfl
    have hfront : text.toList ≠ [] := fun hnil => hne (String.toList_eq_nil_iff.mp hnil)
    have hnone := entry.toOption_read_cut Json.breaks_nil (Nat.zero_le 2) hcut hfront hback
    rw [List.append_nil, String.ofList_toList] at hnone
    rw [List.filterMap_cons, hnone]
    rfl

theorem entriesOf_part_line (next : Entry) (hne : text ≠ "")
    (hcut : text.toList ++ back = entry.toJson.chars) : entriesOf (text ++ next.line) = [] := by
  have hglued : text ++ next.toJson.compact = String.ofList (text.toList ++ next.toJson.chars) := by
    rw [String.ofList_append, String.ofList_toList, Json.compact]
  have hnotMem {c : Char} (hentry : c ∉ entry.toJson.compact.toList)
      (hnext : c ∉ next.toJson.compact.toList) : c ∉ (text ++ next.toJson.compact).toList := by
    rw [String.toList_append, List.mem_append, not_or]
    exact ⟨notMem_of_cut hentry hcut, hnext⟩
  have hfeed := hnotMem (Json.newline_notMem_compact (entry.allNumbers_toJson _))
    (Json.newline_notMem_compact (next.allNumbers_toJson _))
  have hreturn := hnotMem (Json.return_notMem_compact (entry.allNumbers_toJson _))
    (Json.return_notMem_compact (next.allNumbers_toJson _))
  have hnone : (Json.read Entry.read (text ++ next.toJson.compact)).toOption = none := by
    rw [hglued]
    by_cases hback : back = []
    · rw [hback, List.append_nil] at hcut
      rw [hcut]
      exact entry.toOption_read_glued next
    · have hfront : text.toList ≠ [] := fun hnil => hne (String.toList_eq_nil_iff.mp hnil)
      exact entry.toOption_read_cut next.breaks_chars next.depth_toJson_le hcut hfront hback
  rw [entriesOf_eq, Entry.line, ← String.append_assoc,
    Text.lines_complete hfeed fun hlast => hreturn (List.mem_of_getLast? hlast),
    List.filterMap_cons, hnone]
  rfl

end Torn

namespace LogFile

variable {log : LogFile} {tree tree' : FileTree} {entries : List Entry} {entry next : Entry}
  {part : ByteArray} {text : String}

theorem Keeps.run_recorded {later : List Entry} (h : log.Keeps tree entries)
    (hrun : log.Run tree (later.map .recorded) tree')
    (htimes : ∀ recorded ∈ later, recorded.recordedAt.WellFormed) :
    log.Keeps tree' (entries ++ later) := by
  have hkeeps := h.run hrun fun recorded hmem => by
    obtain ⟨other, hother, heq⟩ := List.mem_map.mp hmem
    obtain rfl := Event.recorded.inj heq
    exact htimes other hother
  have hlater : (later.map Event.recorded).flatMap Event.entries = later := by
    rw [List.flatMap_map]
    exact List.flatMap_singleton' later
  rwa [hlater] at hkeeps

/-- Behind the lines of the entries there is what was written of one more line. -/
structure Torn (log : LogFile) (tree : FileTree) (entries : List Entry) (entry : Entry)
    (part : ByteArray) : Prop where
  holds : tree.Holds log.path ((journal entries).toUTF8 ++ part)
  cut : ∃ rest, rest ≠ .empty ∧ part ++ rest = entry.line.toUTF8

/-- The file of the log is no text. -/
def Garbled (log : LogFile) (tree : FileTree) : Prop :=
  ∃ content, tree.Holds log.path content ∧ ¬ content.IsValidUTF8

theorem Garbled.readIn (h : log.Garbled tree) :
    log.readIn tree = (failure ("reading audit log " ++ log.path) .notText, tree) := by
  obtain ⟨content, hholds, hinvalid⟩ := h
  rw [readIn_of_holds hholds, textOfBytes_of_not_isValidUTF8 hinvalid]

theorem Garbled.append (h : log.Garbled tree)
    (happend : tree.appendBytes log.path text.toUTF8 = .ok tree') : log.Garbled tree' := by
  obtain ⟨content, hholds, hinvalid⟩ := h
  exact ⟨_, hholds.append happend, fun hvalid => hinvalid (isValidUTF8_of_append_toUTF8 hvalid)⟩

theorem Garbled.run {events : List Event} (h : log.Garbled tree)
    (hrun : log.Run tree events tree') : log.Garbled tree' := by
  induction hrun with
  | nil tree => exact h
  | cons hstep hrun ih =>
      cases hstep with
      | recorded hrecord => exact ih (h.append (recordIn_eq_ok_iff.mp hrecord))
      | appended htext happend => exact ih (h.append happend)

theorem Torn.keeps (h : log.Torn tree entries entry .empty)
    (htimes : ∀ entry ∈ entries, entry.recordedAt.WellFormed) : log.Keeps tree entries := by
  refine ⟨journal entries, ?_, complete_journal entries, entriesOf_journal htimes⟩
  have hholds := h.holds
  rwa [ByteArray.append_empty] at hholds

theorem Torn.holds_text (h : log.Torn tree entries entry text.toUTF8) :
    tree.Holds log.path (journal entries ++ text).toUTF8 := by
  rw [String.toUTF8_eq_toByteArray, String.toByteArray_append]
  exact h.holds

theorem Torn.exists_cut (h : log.Torn tree entries entry text.toUTF8) :
    ∃ back, text.toList ++ back = entry.toJson.chars := by
  obtain ⟨rest, hrest, hcut⟩ := h.cut
  exact entry.exists_cut hrest hcut

theorem Torn.readIn_text (h : log.Torn tree entries entry text.toUTF8) (hne : text ≠ "")
    (htimes : ∀ entry ∈ entries, entry.recordedAt.WellFormed)
    (htime : entry.recordedAt.WellFormed) :
    log.readIn tree =
      (.ok (entries ++ if text = entry.toJson.compact then [entry] else []), tree) := by
  obtain ⟨back, hcut⟩ := h.exists_cut
  rw [readIn_of_holds h.holds_text, textOfBytes_toUTF8]
  simp only [entriesOf_append (complete_journal entries), entriesOf_journal htimes,
    entriesOf_part htime hne hcut]

/-- The entry that is recorded next completes the line that was cut off and is not read back. -/
theorem Torn.keeps_record (h : log.Torn tree entries entry text.toUTF8) (hne : text ≠ "")
    (htimes : ∀ entry ∈ entries, entry.recordedAt.WellFormed)
    (hrecord : log.recordIn tree next = (.ok (), tree')) : log.Keeps tree' entries := by
  obtain ⟨back, hcut⟩ := h.exists_cut
  refine ⟨journal entries ++ (text ++ next.line), ?_, ?_, ?_⟩
  · have hholds := h.holds_text.append (recordIn_eq_ok_iff.mp hrecord)
    rw [← String.append_assoc, String.toUTF8_eq_toByteArray, String.toByteArray_append]
    exact hholds
  · exact Or.inr (Text.Ended.append _ (Text.Ended.append _ next.ended_line))
  · rw [entriesOf_append (complete_journal entries), entriesOf_journal htimes,
      entriesOf_part_line next hne hcut, List.append_nil]

theorem Torn.garbled (h : log.Torn tree entries entry part)
    (hpart : ∀ text : String, part ≠ text.toUTF8) : log.Garbled tree := by
  refine ⟨_, h.holds, ?_⟩
  rw [isValidUTF8_toUTF8_append_iff, exists_toUTF8_iff, not_exists]
  exact hpart

/-- What a log gives back whose last line was cut off, before and after more is recorded in it. All
is well where nothing had been written of that line. Where whole characters of it had been, the
first entry that is recorded afterwards is lost although recording it succeeded. Where the cut is
inside a character, nothing is read any more. -/
theorem readIn_torn {later : List Entry} (htorn : log.Torn tree entries entry part)
    (hrun : log.Run tree ((next :: later).map .recorded) tree')
    (htimes : ∀ recorded ∈ entry :: entries ++ next :: later, recorded.recordedAt.WellFormed) :
    (part = .empty →
      log.readIn tree = (.ok entries, tree) ∧
      log.readIn tree' = (.ok (entries ++ next :: later), tree')) ∧
    (∀ text : String, part = text.toUTF8 → text ≠ "" →
      log.readIn tree =
        (.ok (entries ++ if text = entry.toJson.compact then [entry] else []), tree) ∧
      log.readIn tree' = (.ok (entries ++ later), tree')) ∧
    ((∀ text : String, part ≠ text.toUTF8) →
      log.readIn tree = (failure ("reading audit log " ++ log.path) .notText, tree) ∧
      log.readIn tree' = (failure ("reading audit log " ++ log.path) .notText, tree')) := by
  have hold : ∀ recorded ∈ entries, recorded.recordedAt.WellFormed :=
    fun recorded hmem => htimes _ (List.mem_append_left _ (List.mem_cons_of_mem _ hmem))
  have hnew : ∀ recorded ∈ next :: later, recorded.recordedAt.WellFormed :=
    fun recorded hmem => htimes _ (List.mem_append_right _ hmem)
  refine ⟨?_, ?_, ?_⟩
  · rintro rfl
    have hkeeps := htorn.keeps hold
    exact ⟨hkeeps.readIn, (hkeeps.run_recorded hrun hnew).readIn⟩
  · rintro text rfl hne
    refine ⟨htorn.readIn_text hne hold (htimes _ List.mem_cons_self), ?_⟩
    cases hrun with
    | cons hstep hrest =>
        cases hstep with
        | recorded hrecord =>
            have hkeeps := htorn.keeps_record hne hold hrecord
            exact (hkeeps.run_recorded hrest fun recorded hmem =>
              hnew _ (List.mem_cons_of_mem _ hmem)).readIn
  · intro hpart
    have hgarbled := htorn.garbled hpart
    exact ⟨hgarbled.readIn, (hgarbled.run hrun).readIn⟩

/-- A working directory with a log file in it. -/
def logTree (content : ByteArray) : FileTree :=
  FileTree.empty.put ["work", "audit.jsonl"] (.file content)

theorem torn_logTree {rest : ByteArray} (hcut : part ++ rest = entry.line.toUTF8)
    (hrest : rest ≠ .empty) :
    Torn ⟨"audit.jsonl"⟩ (logTree ((journal entries).toUTF8 ++ part)) entries entry part :=
  ⟨Or.inl rfl, rest, hrest, hcut⟩

theorem recordIn_logTree (content : ByteArray) (entry : Entry) :
    recordIn ⟨"audit.jsonl"⟩ (logTree content) entry =
      (.ok (), logTree (content ++ entry.line.toUTF8)) :=
  rfl

theorem torn_brace (entries : List Entry) (entry : Entry) :
    Torn ⟨"audit.jsonl"⟩ (logTree ((journal entries).toUTF8 ++ "\x7b".toUTF8)) entries entry
      "\x7b".toUTF8 := by
  obtain ⟨id, members, hjson⟩ := entry.exists_toJson_eq
  have hline : entry.line =
      "\x7b" ++ String.ofList (Json.membersChars (("id", id) :: members) ++ ['\n']) := by
    rw [entry.line_eq, hjson, Json.chars_object, List.cons_append, String.ofList_cons]
    rfl
  refine torn_logTree (congrArg String.toByteArray hline).symm ?_
  intro hempty
  have hnothing := String.toByteArray_inj.mp (hempty.trans String.toByteArray_empty.symm)
  simp at hnothing

/-- An entry for a project whose name is no ASCII text. -/
def accentedEntry : Entry :=
  .blocked .nil "é" "make" (.missingProject "é") ⟨-1, 0, 0⟩

theorem exists_torn_inside (entries : List Entry) :
    ∃ part, (∀ text : String, part ≠ text.toUTF8) ∧
      Torn ⟨"audit.jsonl"⟩ (logTree ((journal entries).toUTF8 ++ part)) entries accentedEntry
        part := by
  have hmem : 'é' ∈ accentedEntry.line.toList := by
    rw [Entry.line_eq, String.toList_ofList]
    decide +kernel
  obtain ⟨front, back, hline⟩ := List.append_of_mem hmem
  have hwhole : accentedEntry.line = String.ofList front ++ ("é" ++ String.ofList back) := by
    rw [← String.ofList_toList (s := accentedEntry.line), hline, String.ofList_append,
      String.ofList_cons]
    rfl
  have haccent : "é".toByteArray = ⟨#[0xC3]⟩ ++ ⟨#[0xA9]⟩ := by decide +kernel
  have hbytes : (String.ofList front).toUTF8 ++ ⟨#[0xC3]⟩ ++
      (⟨#[0xA9]⟩ ++ (String.ofList back).toUTF8) = accentedEntry.line.toUTF8 := by
    simp only [hwhole, String.toUTF8_eq_toByteArray, String.toByteArray_append, haccent,
      ByteArray.append_assoc]
  refine ⟨(String.ofList front).toUTF8 ++ ⟨#[0xC3]⟩, fun text htext => ?_,
    torn_logTree hbytes ?_⟩
  · have hvalid := exists_toUTF8_iff.mpr ⟨text, htext⟩
    rw [isValidUTF8_toUTF8_append_iff] at hvalid
    revert hvalid
    decide +kernel
  · intro hempty
    have hsize := congrArg ByteArray.size hempty
    rw [ByteArray.size_append] at hsize
    change 1 + (String.ofList back).toUTF8.size = 0 at hsize
    omega

theorem wellFormed_of_subset {entries : List Entry}
    (h : entries ⊆ [plainEntry, awkwardEntry, accentedEntry]) :
    ∀ entry ∈ entries, entry.recordedAt.WellFormed := by
  intro entry hentry
  have hmem := h hentry
  rw [List.mem_cons, List.mem_cons, List.mem_singleton] at hmem
  rcases hmem with rfl | rfl | rfl
  · exact ⟨by decide, Or.inl (by decide), by decide⟩
  · exact ⟨by decide, Or.inr (by decide), by decide⟩
  · exact ⟨by decide, Or.inl (by decide), by decide⟩

/-- Of three entries in the file the middle one, which follows an opening brace, is not read. -/
theorem readIn_torn_brace : ∃ tree tree',
    Torn ⟨"audit.jsonl"⟩ tree [plainEntry] accentedEntry "\x7b".toUTF8 ∧
    Run ⟨"audit.jsonl"⟩ tree ([awkwardEntry, plainEntry].map .recorded) tree' ∧
    readIn ⟨"audit.jsonl"⟩ tree = (.ok [plainEntry], tree) ∧
    readIn ⟨"audit.jsonl"⟩ tree' = (.ok [plainEntry, plainEntry], tree') := by
  have hrun (content : ByteArray) : Run ⟨"audit.jsonl"⟩ (logTree content)
      ([awkwardEntry, plainEntry].map .recorded)
      (logTree (content ++ awkwardEntry.line.toUTF8 ++ plainEntry.line.toUTF8)) :=
    .cons (.recorded (recordIn_logTree _ _)) (.cons (.recorded (recordIn_logTree _ _)) (.nil _))
  have htorn := torn_brace [plainEntry] accentedEntry
  have htimes : ∀ recorded ∈ accentedEntry :: [plainEntry] ++ awkwardEntry :: [plainEntry],
      recorded.recordedAt.WellFormed := wellFormed_of_subset (by simp)
  have hpart : "\x7b" ≠ accentedEntry.toJson.compact := by decide +kernel
  obtain ⟨hbefore, hafter⟩ :=
    (readIn_torn htorn (hrun _) htimes).2.1 "\x7b" rfl (by decide)
  rw [if_neg hpart] at hbefore
  exact ⟨_, _, htorn, hrun _, hbefore, hafter⟩

/-- A log whose last line was cut off may not be read at all, and it may not give back what is
recorded in it next. -/
theorem not_survives_torn :
    (¬ ∀ (log : LogFile) (tree : FileTree) (entries : List Entry) (entry : Entry)
      (part : ByteArray), log.Torn tree entries entry part →
      (∀ recorded ∈ entry :: entries, recorded.recordedAt.WellFormed) →
      ∃ found, log.readIn tree = (.ok found, tree) ∧ entries <+: found) ∧
    ¬ ∀ (log : LogFile) (tree tree' : FileTree) (entries : List Entry) (entry next : Entry)
      (part : ByteArray), log.Torn tree entries entry part →
      (∀ recorded ∈ next :: entry :: entries, recorded.recordedAt.WellFormed) →
      log.recordIn tree next = (.ok (), tree') →
      ∃ found, log.readIn tree' = (.ok found, tree') ∧ entries <+: found ∧
        found.getLast? = some next := by
  constructor
  · intro h
    obtain ⟨part, hpart, htorn⟩ := exists_torn_inside []
    have htimes : ∀ recorded ∈ [accentedEntry], recorded.recordedAt.WellFormed :=
      wellFormed_of_subset (by simp)
    obtain ⟨found, hread, -⟩ := h _ _ _ _ _ htorn htimes
    rw [(htorn.garbled hpart).readIn] at hread
    cases (Prod.mk.inj hread).1
  · intro h
    have htorn := torn_brace [] accentedEntry
    have hkeeps := htorn.keeps_record (by decide) (by simp) (recordIn_logTree _ plainEntry)
    have htimes : ∀ recorded ∈ [plainEntry, accentedEntry], recorded.recordedAt.WellFormed :=
      wellFormed_of_subset (by simp)
    obtain ⟨found, hread, -, hlast⟩ := h _ _ _ _ _ _ _ htorn htimes (recordIn_logTree _ plainEntry)
    rw [hkeeps.readIn] at hread
    obtain rfl := Except.ok.inj (Prod.mk.inj hread).1
    cases hlast

end LogFile

end Audit

end Rulebook
