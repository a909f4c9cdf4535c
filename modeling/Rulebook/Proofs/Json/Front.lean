import Rulebook.Proofs.Json.Reading

namespace Rulebook.Json

open Rulebook.Document

/-- Members whose values are texts. -/
def textMembers (texts : List (String × String)) : List (String × Json) :=
  texts.map (Prod.map id .text)

/-- The members of an object that stands at a level, from the first name to the closing brace. -/
def laidMembers (layout : Layout) (level : Nat) : List (String × Json) → List Char
  | [] => []
  | (name, value) :: members =>
      textChars name ++ ':' :: (layout.space ++ (laid layout (level + 1) value ++
        laidMembersTail layout level members))

section Front

variable {layout : Layout} {level : Nat}

theorem laidMembers_cons (name : String) (value : Json) (members : List (String × Json)) :
    laidMembers layout level ((name, value) :: members) =
      textChars name ++ ':' :: (layout.space ++ (laid layout (level + 1) value ++
        laidMembersTail layout level members)) :=
  rfl

theorem laid_object {members : List (String × Json)} (hne : members ≠ []) :
    laid layout level (.object members) =
      '\x7b' :: (layout.newline (level + 1) ++ laidMembers layout level members) := by
  cases members with
  | nil => exact absurd rfl hne
  | cons member members =>
      obtain ⟨name, value⟩ := member
      rw [laid, laidMembers]

theorem laidMembersTail_of_ne_nil {members : List (String × Json)} (hne : members ≠ []) :
    laidMembersTail layout level members =
      ',' :: (layout.newline (level + 1) ++ laidMembers layout level members) := by
  cases members with
  | nil => exact absurd rfl hne
  | cons member members =>
      obtain ⟨name, value⟩ := member
      rw [laidMembersTail, laidMembers]

theorem length_lt_laidMembersTail (members : List (String × Json)) :
    members.length < (laidMembersTail layout level members).length := by
  induction members with
  | nil => simp [laidMembersTail]
  | cons member members ih =>
      obtain ⟨name, value⟩ := member
      simp only [laidMembersTail, List.length_cons, List.length_append]
      omega

theorem length_le_laidMembers (members : List (String × Json)) :
    members.length ≤ (laidMembers layout level members).length := by
  cases members with
  | nil => exact Nat.zero_le _
  | cons member members =>
      obtain ⟨name, value⟩ := member
      have htail : members.length < (laidMembersTail layout level members).length :=
        length_lt_laidMembersTail members
      simp only [laidMembers, List.length_cons, List.length_append]
      omega

theorem exists_scanMembers_texts (hblank : layout.Blank) (name : String) (value : Json)
    (more : List (String × Json)) (rest : List Char) (texts : List (String × String)) {fuel : Nat}
    (hfuel : texts.length + 1 < fuel) :
    ∃ fuel' behind, (scanMembers fuel (level + 1)
        (laidMembers layout level (textMembers texts ++ (name, value) :: more) ++ rest)).1 =
      Node.ofJsonMembers (textMembers texts) ++ (.text name, (scanNode fuel' (level + 1)
        (laid layout (level + 1) value ++ (laidMembersTail layout level more ++ rest))).1) ::
          behind := by
  obtain ⟨fuel, rfl⟩ : ∃ n, fuel = n + 1 := ⟨fuel - 1, by omega⟩
  induction texts generalizing fuel with
  | nil =>
      have hname := scanNode_text name (show 0 < fuel by omega) (level + 1)
      refine ⟨fuel, ?_⟩
      simp only [textMembers, List.map_nil, List.nil_append, Node.ofJsonMembers, laidMembers_cons,
        List.append_assoc, List.cons_append]
      rw [scanMembers, hname]
      simp only [Node.isName, if_true, skipGaps_cons (c := ':') (by decide),
        scanNode_gap hblank.space]
      split
      · exact ⟨_, rfl⟩
      · exact ⟨_, rfl⟩
      · exact ⟨_, rfl⟩
  | cons text texts ih =>
      obtain ⟨textName, s⟩ := text
      obtain ⟨fuel, rfl⟩ : ∃ n, fuel = n + 1 := ⟨fuel - 1, by simp at hfuel; omega⟩
      obtain ⟨fuel', behind, hrest⟩ := ih fuel (by simp at hfuel; omega)
      have hne : textMembers texts ++ (name, value) :: more ≠ [] := by simp
      have hname := scanNode_text textName fuel.succ_pos (level + 1)
      have hvalue := scanNode_text s fuel.succ_pos (level + 1)
      have hcons : textMembers ((textName, s) :: texts) =
          (textName, .text s) :: textMembers texts := rfl
      refine ⟨fuel', behind, ?_⟩
      simp only [hcons, List.cons_append, laidMembers_cons, laid, laidMembersTail_of_ne_nil hne,
        List.append_assoc, Node.ofJsonMembers, Node.ofJson]
      rw [scanMembers, hname]
      simp only [Node.isName, if_true, skipGaps_cons (c := ':') (by decide),
        scanNode_gap hblank.space, hvalue, skipGaps_cons (c := ',') (by decide),
        scanMembers_gap (hblank.newline _), hrest]

theorem skipGaps_laidMembers_ne (hblank : layout.Blank) {members : List (String × Json)}
    (hne : members ≠ []) (behind : List Char) :
    skipGaps (layout.newline (level + 1) ++ laidMembers layout level members) ≠
      '\x7d' :: behind := by
  obtain ⟨member, members, rfl⟩ := List.exists_cons_of_ne_nil hne
  obtain ⟨name, value⟩ := member
  rw [skipGaps_append (hblank.newline _), laidMembers, textChars_eq_cons, List.cons_append,
    skipGaps_cons (by decide)]
  exact fun heq => absurd (List.cons.inj heq).1 (by decide)

theorem exists_document_texts (hblank : layout.Blank) (texts : List (String × String))
    (name : String) (value : Json) (more : List (String × Json)) :
    ∃ fuel behind closed rest, document (String.ofList
        (laid layout 0 (.object (textMembers texts ++ (name, value) :: more)))) =
      (.object (Node.ofJsonMembers (textMembers texts) ++ (.text name, (scanNode fuel 1
        (laid layout 1 value ++ laidMembersTail layout 0 more)).1) :: behind) closed, rest) := by
  have hne : textMembers texts ++ (name, value) :: more ≠ [] := by simp
  have hlength : texts.length + 1 <
      2 * (laid layout 0 (.object (textMembers texts ++ (name, value) :: more))).length + 1 := by
    have hle : (textMembers texts ++ (name, value) :: more).length ≤
        (laidMembers layout 0 (textMembers texts ++ (name, value) :: more)).length :=
      length_le_laidMembers _
    rw [laid_object hne, List.length_cons, List.length_append]
    rw [List.length_append, textMembers, List.length_map] at hle
    simp only [List.length_cons] at hle
    rw [textMembers]
    omega
  obtain ⟨fuel, behind, hmembers⟩ :=
    exists_scanMembers_texts hblank name value more [] texts hlength
  rw [List.append_nil, List.append_nil] at hmembers
  rw [laid_object hne] at hmembers
  rw [document, String.toList_ofList, laid_object hne,
    scanNode_object (skipGaps_laidMembers_ne hblank hne), scanMembers_gap (hblank.newline _),
    hmembers, atLevel_of_le (by decide)]
  exact ⟨_, _, _, _, rfl⟩

theorem scanNode_brace_ne_text (fuel level : Nat) (cs : List Char) (s : String) :
    (scanNode fuel level ('\x7b' :: cs)).1 ≠ .text s := by
  have hlevel (node : Node) (hnode : node ≠ .text s) : atLevel (level + 1) node ≠ .text s := by
    rw [atLevel]
    split
    · exact hnode
    · split <;> simp
  cases fuel with
  | zero =>
      simp [scanNode]
  | succ fuel =>
      simp only [scanNode, skipGaps_cons (c := '\x7b') (by decide)]
      split
      · exact hlevel _ (by simp)
      · exact hlevel _ (by simp)

end Front

theorem exists_read_error {α : Type} {reader : Reader α} {text : String} {node : Node}
    {rest : List Char} (hdocument : document text = (node, rest))
    (hread : ∃ fault, reader .json node = .error fault) :
    ∃ fault, read reader text = .error fault := by
  obtain ⟨fault, hfault⟩ := hread
  exact ⟨fault, by rw [read, hdocument]; simp only [hfault]; rfl⟩

end Rulebook.Json
