import Rulebook.Proofs.Resolution.Active

namespace Rulebook

/-- The items in ascending order of their keys, each as often as it stood there. Items of one key
keep their order. -/
structure Arranges {α : Type} (key : α → String) (items arranged : List α) : Prop where
  perm : arranged.Perm items
  ascending : arranged.Pairwise fun a b => key a ≤ key b
  stable : ∀ k, (arranged.filter fun a => key a == k) = items.filter fun a => key a == k

section Arranges

variable {α : Type} {key : α → String} {left right : List α}

theorem filter_eq_of_cons {a : α} {p : α → Bool}
    (h : (a :: left).filter p = (a :: right).filter p) : left.filter p = right.filter p := by
  rw [List.filter_cons, List.filter_cons] at h
  split at h
  · exact (List.cons.inj h).2
  · exact h

theorem mem_iff_of_filter_key_eq
    (hkeys : ∀ k, (left.filter fun a => key a == k) = right.filter fun a => key a == k) (a : α) :
    a ∈ left ↔ a ∈ right := by
  have hkey := congrArg (a ∈ ·) (hkeys (key a))
  simpa using hkey

theorem key_le_of_mem_cons {a b : α} {rest : List α}
    (h : (a :: rest).Pairwise fun a b => key a ≤ key b) (hb : b ∈ a :: rest) : key a ≤ key b := by
  rcases List.mem_cons.mp hb with rfl | hb
  · exact String.le_refl _
  · exact List.rel_of_pairwise_cons h hb

theorem eq_of_filter_key_eq (hleft : left.Pairwise fun a b => key a ≤ key b)
    (hright : right.Pairwise fun a b => key a ≤ key b)
    (hkeys : ∀ k, (left.filter fun a => key a == k) = right.filter fun a => key a == k) :
    left = right := by
  induction left generalizing right with
  | nil =>
      refine (List.eq_nil_iff_forall_not_mem.mpr fun a ha => ?_).symm
      exact List.not_mem_nil ((mem_iff_of_filter_key_eq hkeys a).mpr ha)
  | cons a left ih =>
      have hmem := mem_iff_of_filter_key_eq hkeys
      cases right with
      | nil => exact absurd ((hmem a).mp List.mem_cons_self) List.not_mem_nil
      | cons b right =>
          -- neither key is the greater one, so both lists begin with what is first under it
          have hkey : key a = key b := String.le_antisymm
            (key_le_of_mem_cons hleft ((hmem b).mpr List.mem_cons_self))
            (key_le_of_mem_cons hright ((hmem a).mp List.mem_cons_self))
          have hfirst := hkeys (key a)
          rw [List.filter_cons_of_pos (by simp), List.filter_cons_of_pos (by simp [hkey])] at hfirst
          obtain rfl := (List.cons.inj hfirst).1
          rw [ih hleft.of_cons hright.of_cons fun k => filter_eq_of_cons (hkeys k)]

theorem Arranges.unique {items : List α} (hleft : Arranges key items left)
    (hright : Arranges key items right) : left = right :=
  eq_of_filter_key_eq hleft.ascending hright.ascending
    fun k => (hleft.stable k).trans (hright.stable k).symm

theorem arranges_mergeSort (items : List α) :
    Arranges key items (items.mergeSort fun a b => key a ≤ key b) := by
  have htrans (a b c : α) (hab : decide (key a ≤ key b) = true)
      (hbc : decide (key b ≤ key c) = true) : decide (key a ≤ key c) = true := by
    rw [decide_eq_true_eq] at *
    exact String.le_trans hab hbc
  have htotal (a b : α) : (decide (key a ≤ key b) || decide (key b ≤ key a)) = true := by
    rw [Bool.or_eq_true, decide_eq_true_eq, decide_eq_true_eq]
    exact String.le_total _ _
  have hperm := List.mergeSort_perm items fun a b => decide (key a ≤ key b)
  refine ⟨hperm, ?_, fun k => ?_⟩
  · refine (List.pairwise_mergeSort htrans htotal items).imp ?_
    intro a b hab
    exact of_decide_eq_true hab
  · -- the items of one key are in order already, so that they all stay where they are
    have hsame : (items.filter fun a => key a == k).Pairwise
        fun a b => decide (key a ≤ key b) = true := by
      refine List.pairwise_of_forall_mem_list fun a ha b hb => ?_
      have hkey : key a = k := by simpa using (List.mem_filter.mp ha).2
      have hkey' : key b = k := by simpa using (List.mem_filter.mp hb).2
      exact decide_eq_true (hkey.trans hkey'.symm ▸ String.le_refl (key a))
    have hsublist := (List.sublist_mergeSort htrans htotal hsame List.filter_sublist).filter
      fun a => key a == k
    rw [List.filter_filter] at hsublist
    simp only [Bool.and_self] at hsublist
    exact (hsublist.eq_of_length (hperm.filter _).length_eq.symm).symm

end Arranges

/-- How the ruleset lists a rule that takes part: at all when the rule is turned on, as a mandatory
one when it is not toggled. A rule that is turned off does not take part. -/
def Ruleset.Offers (ruleset : Ruleset) (rule : String) : Option Bool → Prop
  | some true => rule ∈ ruleset.ruleIds ∨ rule ∈ ruleset.optionalRuleIds
  | some false => False
  | none => rule ∈ ruleset.ruleIds

instance (ruleset : Ruleset) (rule : String) :
    (toggle : Option Bool) → Decidable (ruleset.Offers rule toggle)
  | some true => inferInstanceAs (Decidable (_ ∨ _))
  | some false => inferInstanceAs (Decidable False)
  | none => inferInstanceAs (Decidable (_ ∈ _))

theorem Ruleset.offers_iff_of_perm {ruleset ruleset' : Ruleset}
    (hmandatory : ruleset'.ruleIds.Perm ruleset.ruleIds)
    (hoptional : ruleset'.optionalRuleIds.Perm ruleset.optionalRuleIds) (rule : String)
    (toggle : Option Bool) : ruleset'.Offers rule toggle ↔ ruleset.Offers rule toggle := by
  rcases toggle with _ | _ | _
  case none => exact hmandatory.mem_iff
  case some.false => exact Iff.rfl
  case some.true => exact or_congr hmandatory.mem_iff hoptional.mem_iff

/-- The rule is for the intent, and the ruleset offers it as it is toggled. -/
def Rule.Wanted (rule : Rule) (ruleset : Ruleset) (toggles : Toggles) (intent : Intent) : Prop :=
  rule.applies intent = true ∧ ruleset.Offers rule.id (toggles.state? rule.id)

instance (rule : Rule) (ruleset : Ruleset) (toggles : Toggles) (intent : Intent) :
    Decidable (rule.Wanted ruleset toggles intent) :=
  inferInstanceAs (Decidable (_ ∧ _))

theorem Rule.takesPart_iff_wanted {rule : Rule} {ruleset : Ruleset} {toggles : Toggles}
    {intent : Intent} :
    rule.TakesPart ruleset toggles intent ↔ rule.Wanted ruleset toggles intent := by
  rw [Wanted]
  constructor
  · rintro ⟨hlisted, hoff, happlies⟩
    refine ⟨happlies, ?_⟩
    rcases hstate : toggles.state? rule.id with _ | _ | _
    case none => simpa [Ruleset.Offers, hstate] using hlisted
    case some.false => exact absurd hstate hoff
    case some.true => simpa [Ruleset.Offers, hstate] using hlisted
  · rintro ⟨happlies, hoffers⟩
    rcases hstate : toggles.state? rule.id with _ | _ | _
    case none =>
      rw [hstate] at hoffers
      exact ⟨Or.inl hoffers, by simp [hstate], happlies⟩
    case some.false =>
      rw [hstate] at hoffers
      cases hoffers
    case some.true =>
      rw [hstate] at hoffers
      exact ⟨hoffers.imp_right fun hoptional => ⟨hoptional, hstate⟩, by simp [hstate], happlies⟩

namespace Resolution

section Active

variable {rules : List Rule} {ruleset : Ruleset} {toggles : Toggles} {intent : Intent}

theorem arranges_activeRules (rules : List Rule) (ruleset : Ruleset) (toggles : Toggles)
    (intent : Intent) :
    Arranges Rule.id (rules.filter fun rule => rule.Wanted ruleset toggles intent)
      (activeRules rules (candidates ruleset toggles) toggles intent) := by
  have hwanted : isActive (candidates ruleset toggles) toggles intent =
      fun rule => decide (rule.Wanted ruleset toggles intent) := by
    funext rule
    rw [Bool.eq_iff_iff, isActive_iff, Rule.takesPart_iff_wanted, decide_eq_true_eq]
  rw [activeRules, hwanted]
  exact arranges_mergeSort _

theorem mem_activeRules_iff_wanted {rule : Rule} :
    rule ∈ activeRules rules (candidates ruleset toggles) toggles intent ↔
      rule ∈ rules ∧ rule.Wanted ruleset toggles intent := by
  rw [(arranges_activeRules rules ruleset toggles intent).perm.mem_iff, List.mem_filter,
    decide_eq_true_eq]

theorem activeRules_ascending_of_nodup (hids : (rules.map Rule.id).Nodup) :
    (activeRules rules (candidates ruleset toggles) toggles intent).Pairwise
      fun a b => a.id < b.id := by
  have harranged := arranges_activeRules rules ruleset toggles intent
  have hdistinct :
      ((activeRules rules (candidates ruleset toggles) toggles intent).map Rule.id).Nodup :=
    (harranged.perm.map Rule.id).nodup_iff.mpr (hids.sublist (List.filter_sublist.map Rule.id))
  rw [List.Nodup, List.pairwise_map] at hdistinct
  refine (harranged.ascending.and hdistinct).imp ?_
  rintro a b ⟨hle, hne⟩
  exact String.not_le.mp fun hge => hne (String.le_antisymm hle hge)

end Active

/-- The active rules are those that are wanted, arranged by their ids; a rule that is turned off is
not among them. When no id stands twice among the rules, the ids ascend strictly, and neither the
order of the rules nor that of the lists of the ruleset matters. -/
theorem activeRules_arranged (rules : List Rule) (ruleset : Ruleset) (toggles : Toggles)
    (intent : Intent) :
    (∀ arranged,
      Arranges Rule.id (rules.filter fun rule => rule.Wanted ruleset toggles intent) arranged ↔
        arranged = activeRules rules (candidates ruleset toggles) toggles intent) ∧
    (∀ rule ∈ activeRules rules (candidates ruleset toggles) toggles intent,
      toggles.state? rule.id ≠ some false) ∧
    ((rules.map Rule.id).Nodup →
      (activeRules rules (candidates ruleset toggles) toggles intent).Pairwise
          (fun a b => a.id < b.id) ∧
        ∀ (rules' : List Rule) (ruleset' : Ruleset), rules'.Perm rules →
          ruleset'.ruleIds.Perm ruleset.ruleIds →
          ruleset'.optionalRuleIds.Perm ruleset.optionalRuleIds →
            activeRules rules' (candidates ruleset' toggles) toggles intent =
              activeRules rules (candidates ruleset toggles) toggles intent) := by
  refine ⟨fun arranged => ?_, fun rule hrule hoff => ?_, fun hids => ?_⟩
  · constructor
    · intro harranges
      exact harranges.unique (arranges_activeRules rules ruleset toggles intent)
    · rintro rfl
      exact arranges_activeRules rules ruleset toggles intent
  · have hoffers := (mem_activeRules_iff_wanted.mp hrule).2.2
    rw [hoff] at hoffers
    exact hoffers
  · refine ⟨activeRules_ascending_of_nodup hids, ?_⟩
    intro rules' ruleset' hrules hmandatory hoptional
    have hids' : (rules'.map Rule.id).Nodup := (hrules.map Rule.id).nodup_iff.mpr hids
    refine Index.eq_of_ascending (activeRules_ascending_of_nodup hids')
      (activeRules_ascending_of_nodup hids) fun rule => ?_
    rw [mem_activeRules_iff_wanted, mem_activeRules_iff_wanted, hrules.mem_iff, Rule.Wanted,
      Rule.Wanted, Ruleset.offers_iff_of_perm hmandatory hoptional]

/-- Two rules share an id, and no ruleset lists the notes. -/
def deskRules : List Rule :=
  [Rule.new "width" .info, (Rule.new "ends" .warn).withDirective "lf", Rule.new "notes" .error,
    (Rule.new "ends" .error).withDirective "crlf", (Rule.new "tests" .warn).withIntents [.review]]

/-- A ruleset whose lists repeat themselves and each other. -/
def deskRuleset : Ruleset where
  id := "desk"
  name := "desk"
  description := ""
  ruleIds := ["width", "ends", "width"]
  optionalRuleIds := ["tests", "ends", "tests"]

def reversedRuleset : Ruleset :=
  { deskRuleset with
    ruleIds := deskRuleset.ruleIds.reverse
    optionalRuleIds := deskRuleset.optionalRuleIds.reverse }

def deskToggles : Toggles :=
  (Toggles.set .empty "tests" true).set "width" false

theorem activeRules_arranged_desk :
    Arranges Rule.id (deskRules.filter fun rule => rule.Wanted deskRuleset deskToggles .review)
        (activeRules deskRules (candidates deskRuleset deskToggles) deskToggles .review) ∧
      ((activeRules deskRules (candidates deskRuleset deskToggles) deskToggles .review).filter
        (·.id == "ends")).map Rule.directive = ["lf", "crlf"] ∧
      (∃ rule ∈ activeRules deskRules (candidates deskRuleset deskToggles) deskToggles .review,
        deskToggles.state? rule.id ≠ some false) ∧
      ((deskRules.eraseIdx 3).map Rule.id).Nodup ∧
      activeRules (deskRules.eraseIdx 3).reverse (candidates reversedRuleset deskToggles)
          deskToggles .review =
        activeRules (deskRules.eraseIdx 3) (candidates deskRuleset deskToggles) deskToggles
          .review := by
  obtain ⟨harranged, hon, -⟩ := activeRules_arranged deskRules deskRuleset deskToggles .review
  obtain ⟨-, -, hdistinct⟩ :=
    activeRules_arranged (deskRules.eraseIdx 3) deskRuleset deskToggles .review
  have hids : ((deskRules.eraseIdx 3).map Rule.id).Nodup := by decide
  have hactive : deskRules[1] ∈
      activeRules deskRules (candidates deskRuleset deskToggles) deskToggles .review :=
    mem_activeRules_iff_wanted.mpr ⟨List.getElem_mem _, by decide⟩
  have harranges := (harranged _).mpr rfl
  refine ⟨harranges, ?_, ⟨_, hactive, hon _ hactive⟩, hids, ?_⟩
  · rw [harranges.stable]
    decide
  · exact (hdistinct hids).2 _ reversedRuleset (List.reverse_perm _) (List.reverse_perm _)
      (List.reverse_perm _)

end Resolution

end Rulebook
