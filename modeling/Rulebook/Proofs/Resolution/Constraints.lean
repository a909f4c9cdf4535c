import Mathlib.Data.List.Induction
import Rulebook.Proofs.OrderedMap
import Rulebook.Proofs.Resolution.Soundness

namespace Rulebook

namespace ConstraintMap

variable {name : String} {map : ConstraintMap}

/-- The constrained names in their order. -/
def names (map : ConstraintMap) : List String :=
  OrderedMap.keys map.entries

theorem names_nodup (map : ConstraintMap) : map.names.Nodup :=
  map.distinct.1

theorem get?_eq_none_iff : map.get? name = none ↔ name ∉ map.names :=
  OrderedMap.get?_eq_none_iff

theorem get?_overlay (base layer : ConstraintMap) (name : String) :
    (base.overlay layer).get? name = (layer.get? name).or (base.get? name) :=
  OrderedMap.get?_overlay layer.names_nodup name base.entries

theorem ext_get? {left right : ConstraintMap} (hnames : left.names = right.names)
    (hget : ∀ name ∈ left.names, left.get? name = right.get? name) : left = right :=
  ConstraintMap.ext (OrderedMap.ext_get? hnames left.names_nodup hget)

end ConstraintMap

namespace Resolution

variable {rules : List Rule} {name : String}

/-- The names that rules contribute to, in the order in which they do. -/
def contributedNames (rules : List Rule) : List String :=
  rules.flatMap fun rule => rule.contributes.names

theorem names_compileConstraints (preset : StackPreset) (rules : List Rule) :
    (compileConstraints preset rules).names = preset.constraints.names ++
      ((contributedNames rules).filter fun name => name ∉ preset.constraints.names).eraseDups := by
  have hcontributed : OrderedMap.keys (rules.flatMap fun rule => rule.contributes.entries) =
      contributedNames rules :=
    List.map_flatMap
  rw [ConstraintMap.names, entries_compileConstraints, OrderedMap.keys_overlay, hcontributed]
  rfl

/-- The value of a name is the first one that is found from the last rule back to the preset. -/
theorem get?_compileConstraints (preset : StackPreset) (rules : List Rule) (name : String) :
    (compileConstraints preset rules).get? name =
      (rules.reverse.findSome? fun rule => rule.contributes.get? name).or
        (preset.constraints.get? name) := by
  induction rules using List.reverseRecOn with
  | nil => rfl
  | append_singleton rules rule ih =>
      have hlast : compileConstraints preset (rules ++ [rule]) =
          (compileConstraints preset rules).overlay rule.contributes := by
        rw [compileConstraints, List.foldl_append]
        rfl
      rw [hlast, ConstraintMap.get?_overlay, ih, List.reverse_append, List.reverse_singleton,
        List.singleton_append, List.findSome?_cons]
      cases rule.contributes.get? name <;> rfl

theorem findSome?_get?_eq_none (h : ∀ rule ∈ rules, name ∉ rule.contributes.names) :
    (rules.reverse.findSome? fun rule => rule.contributes.get? name) = none := by
  rw [List.findSome?_eq_none_iff]
  intro rule hrule
  exact ConstraintMap.get?_eq_none_iff.mpr (h rule (List.mem_reverse.mp hrule))

/-- The constraints that rules make of a baseline when the last word on a name counts and every name
keeps the place where it came first. -/
structure LastWord (baseline : ConstraintMap) (rules : List Rule) (compiled : ConstraintMap) :
    Prop where
  distinct : compiled.names.Nodup
  places : compiled.names = baseline.names ++
    ((contributedNames rules).filter fun name => name ∉ baseline.names).eraseDups
  last : ∀ earlier rule later, rules = earlier ++ rule :: later →
    ∀ name ∈ rule.contributes.names, (∀ other ∈ later, name ∉ other.contributes.names) →
      compiled.get? name = rule.contributes.get? name
  untouched : ∀ name, (∀ rule ∈ rules, name ∉ rule.contributes.names) →
    compiled.get? name = baseline.get? name

theorem lastWord_compileConstraints (preset : StackPreset) (rules : List Rule) :
    LastWord preset.constraints rules (compileConstraints preset rules) where
  distinct := ConstraintMap.names_nodup _
  places := names_compileConstraints preset rules
  last := by
    rintro earlier rule later rfl name hname hlater
    obtain ⟨value, hvalue⟩ := Option.ne_none_iff_exists'.mp
      (mt ConstraintMap.get?_eq_none_iff.mp (not_not_intro hname))
    rw [get?_compileConstraints, List.reverse_append, List.reverse_cons, List.append_assoc,
      List.findSome?_append, findSome?_get?_eq_none hlater, List.singleton_append,
      List.findSome?_cons, hvalue]
    rfl
  untouched := by
    intro name hname
    rw [get?_compileConstraints, findSome?_get?_eq_none hname, Option.none_or]

theorem compileConstraints_again (preset : StackPreset) (rules : List Rule) :
    compileConstraints { preset with constraints := compileConstraints preset rules } rules =
      compileConstraints preset rules := by
  apply ConstraintMap.ext_get?
  · have hknown : ∀ name ∈ contributedNames rules,
        name ∈ (compileConstraints preset rules).names := by
      intro name hname
      rw [names_compileConstraints, List.mem_append, List.mem_eraseDups, List.mem_filter,
        decide_eq_true_eq]
      exact or_iff_not_imp_left.mpr fun hother => ⟨hname, hother⟩
    rw [names_compileConstraints]
    simp only
    rw [List.filter_eq_nil_iff.mpr fun name hname => by simpa using hknown name hname,
      List.eraseDups_nil, List.append_nil]
  · intro name _
    rw [get?_compileConstraints, get?_compileConstraints, ← Option.or_assoc, Option.or_self]

theorem get?_compileConstraints_swap (preset : StackPreset) {a b : Rule}
    (hapart : ∀ name ∈ a.contributes.names, name ∉ b.contributes.names)
    (earlier later : List Rule) (name : String) :
    (compileConstraints preset (earlier ++ b :: a :: later)).get? name =
      (compileConstraints preset (earlier ++ a :: b :: later)).get? name := by
  have hone : a.contributes.get? name = none ∨ b.contributes.get? name = none := by
    rw [ConstraintMap.get?_eq_none_iff, ConstraintMap.get?_eq_none_iff]
    exact or_iff_not_imp_left.mpr fun hname => hapart name (not_not.mp hname)
  rw [get?_compileConstraints, get?_compileConstraints]
  simp only [List.reverse_append, List.reverse_cons, List.append_assoc, List.singleton_append,
    List.findSome?_append, List.findSome?_cons]
  rcases hone with hnone | hnone
  · rw [hnone]
  · rw [hnone]

/-- Constraints are merged so that the last word on a name counts and its first place is kept.
Merging the same rules into the result changes nothing, and neighbours that share no name may change
places without changing a value. -/
theorem compileConstraints_lastWord (preset : StackPreset) (rules : List Rule) :
    LastWord preset.constraints rules (compileConstraints preset rules) ∧
      compileConstraints { preset with constraints := compileConstraints preset rules } rules =
        compileConstraints preset rules ∧
      ∀ earlier a b later, rules = earlier ++ a :: b :: later →
        (∀ name ∈ a.contributes.names, name ∉ b.contributes.names) →
        ∀ name, (compileConstraints preset (earlier ++ b :: a :: later)).get? name =
          (compileConstraints preset rules).get? name := by
  refine ⟨lastWord_compileConstraints preset rules, compileConstraints_again preset rules, ?_⟩
  rintro earlier a b later rfl hapart name
  exact get?_compileConstraints_swap preset hapart earlier later name

/-- A preset that constrains a width and the line ends. -/
def pagePreset : StackPreset :=
  ((StackPreset.new "page" "base").constrain "width" (.text "80")).constrain "ends" (.text "lf")

def testsRule : Rule :=
  ((Rule.new "tests" .warn).contribute "tests" (.boolean true)).contribute "width" (.text "90")

def wideRule : Rule :=
  (Rule.new "wide" .info).contribute "width" (.text "100")

def quietRule : Rule :=
  (Rule.new "quiet" .info).contribute "tests" (.boolean false)

theorem compileConstraints_lastWord_page :
    (compileConstraints pagePreset [testsRule, wideRule, quietRule]).entries =
        [("width", .text "100"), ("ends", .text "lf"), ("tests", .boolean false)] ∧
      (compileConstraints pagePreset [testsRule, wideRule, quietRule]).get? "width" =
        wideRule.contributes.get? "width" ∧
      (compileConstraints pagePreset [testsRule, wideRule, quietRule]).get? "ends" =
        pagePreset.constraints.get? "ends" ∧
      (compileConstraints pagePreset [testsRule, quietRule, wideRule]).get? "width" =
        (compileConstraints pagePreset [testsRule, wideRule, quietRule]).get? "width" := by
  obtain ⟨hmerged, -, hswap⟩ := compileConstraints_lastWord pagePreset
    [testsRule, wideRule, quietRule]
  refine ⟨rfl, ?_, ?_, ?_⟩
  · exact hmerged.last [testsRule] wideRule [quietRule] rfl "width" (by decide) (by decide)
  · exact hmerged.untouched "ends" (by decide)
  · exact hswap [testsRule] wideRule quietRule [] rfl (by decide) "width"

end Resolution

end Rulebook
