import Rulebook.Json.Parser
import Rulebook.Json.Printer

/-!
The compact and the indented form of a value as two layouts of one form, so that what does not
depend on the gaps is proved once for both.
-/

namespace Rulebook.Json

/-- What is put between the parts of a written value: a break in front of every item, member and
closing mark, and a space behind the colon of a member. -/
structure Layout where
  newline : Nat → List Char
  space : List Char

/-- Nothing but gaps is put between the parts. -/
structure Layout.Blank (layout : Layout) : Prop where
  newline : ∀ level, ∀ c ∈ layout.newline level, isGap c = true
  space : ∀ c ∈ layout.space, isGap c = true

mutual

/-- The written form of a value that stands at a level. -/
def laid (layout : Layout) (level : Nat) : Json → List Char
  | .array (item :: items) =>
      '[' :: (layout.newline (level + 1) ++ (laid layout (level + 1) item ++
        laidItemsTail layout level items))
  | .object ((name, value) :: members) =>
      '\x7b' :: (layout.newline (level + 1) ++ (textChars name ++ ':' :: (layout.space ++
        (laid layout (level + 1) value ++ laidMembersTail layout level members))))
  | .array [] => ['[', ']']
  | .object [] => ['\x7b', '\x7d']
  | .null => ['n', 'u', 'l', 'l']
  | .boolean true => ['t', 'r', 'u', 'e']
  | .boolean false => ['f', 'a', 'l', 's', 'e']
  | .number n => numberChars n
  | .text s => textChars s

/-- The other items of an array that stands at a level, and its closing bracket. -/
def laidItemsTail (layout : Layout) (level : Nat) : List Json → List Char
  | [] => layout.newline level ++ [']']
  | item :: items =>
      ',' :: (layout.newline (level + 1) ++ (laid layout (level + 1) item ++
        laidItemsTail layout level items))

/-- The other members of an object that stands at a level, and its closing brace. -/
def laidMembersTail (layout : Layout) (level : Nat) : List (String × Json) → List Char
  | [] => layout.newline level ++ ['\x7d']
  | (name, value) :: members =>
      ',' :: (layout.newline (level + 1) ++ (textChars name ++ ':' :: (layout.space ++
        (laid layout (level + 1) value ++ laidMembersTail layout level members))))

end

/-- The compact form is laid out without any gap. -/
def Layout.compact : Layout :=
  ⟨fun _ => [], []⟩

/-- The indented form breaks the line at every part. -/
def Layout.indented : Layout :=
  ⟨Json.newline, [' ']⟩

@[simp] theorem Layout.newline_compact (level : Nat) : compact.newline level = [] :=
  rfl

@[simp] theorem Layout.space_compact : compact.space = [] :=
  rfl

@[simp] theorem Layout.newline_indented (level : Nat) :
    indented.newline level = Json.newline level :=
  rfl

@[simp] theorem Layout.space_indented : indented.space = [' '] :=
  rfl

theorem Layout.blank_compact : compact.Blank where
  newline := by simp
  space := by simp

theorem Layout.blank_indented : indented.Blank where
  newline := by
    intro level c hc
    rcases List.mem_cons.mp hc with rfl | hc
    · rfl
    · rw [(List.mem_replicate.mp hc).2]
      rfl
  space := by simp [isGap]

mutual

theorem laid_compact (level : Nat) : (j : Json) → laid .compact level j = chars j
  | .null | .boolean true | .boolean false | .number _ | .text _ | .array [] | .object [] => by
      simp [laid, chars]
  | .array (item :: items) => by
      simp [laid, chars, laid_compact _ item, laidItemsTail_compact _ items]
  | .object ((name, value) :: members) => by
      simp [laid, chars, laid_compact _ value, laidMembersTail_compact _ members]

theorem laidItemsTail_compact (level : Nat) :
    (items : List Json) → laidItemsTail .compact level items = itemsTail items
  | [] => rfl
  | item :: items => by
      simp [laidItemsTail, itemsTail, laid_compact _ item, laidItemsTail_compact _ items]

theorem laidMembersTail_compact (level : Nat) :
    (members : List (String × Json)) → laidMembersTail .compact level members = membersTail members
  | [] => rfl
  | (name, value) :: members => by
      simp [laidMembersTail, membersTail, laid_compact _ value, laidMembersTail_compact _ members]

end

mutual

theorem laid_indented (level : Nat) : (j : Json) → laid .indented level j = indentedChars level j
  | .null | .boolean true | .boolean false | .number _ | .text _ | .array [] | .object [] => by
      simp [laid, indentedChars]
  | .array (item :: items) => by
      simp [laid, indentedChars, laid_indented _ item, laidItemsTail_indented _ items]
  | .object ((name, value) :: members) => by
      simp [laid, indentedChars, laid_indented _ value, laidMembersTail_indented _ members]

theorem laidItemsTail_indented (level : Nat) :
    (items : List Json) → laidItemsTail .indented level items = indentedItemsTail level items
  | [] => by simp [laidItemsTail, indentedItemsTail]
  | item :: items => by
      simp [laidItemsTail, indentedItemsTail, laid_indented _ item, laidItemsTail_indented _ items]

theorem laidMembersTail_indented (level : Nat) : (members : List (String × Json)) →
    laidMembersTail .indented level members = indentedMembersTail level members
  | [] => by simp [laidMembersTail, indentedMembersTail]
  | (name, value) :: members => by
      simp [laidMembersTail, indentedMembersTail, laid_indented _ value,
        laidMembersTail_indented _ members]

end

end Rulebook.Json
