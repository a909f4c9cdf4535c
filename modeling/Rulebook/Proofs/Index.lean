import Mathlib.Data.List.Nodup
import Rulebook.Index

namespace Rulebook.Index

variable {α β : Type} {key : α → String} {key' : β → String}

theorem nodup_of_ascending {entries : List α}
    (h : entries.Pairwise fun a b => key a < key b) : (entries.map key).Nodup := by
  rw [List.Nodup, List.pairwise_map]
  refine h.imp ?_
  intro a b hlt heq
  exact String.lt_irrefl _ (heq ▸ hlt)

theorem eq_of_key_eq {entries : List α} (h : (entries.map key).Nodup) {a b : α}
    (ha : a ∈ entries) (hb : b ∈ entries) (hkey : key a = key b) : a = b :=
  List.inj_on_of_nodup_map h ha hb hkey

theorem eq_of_pairwise_asymm {r : α → α → Prop} (hasymm : ∀ a b, r a b → ¬ r b a)
    {left right : List α} (hleft : left.Pairwise r) (hright : right.Pairwise r)
    (hmem : ∀ a, a ∈ left ↔ a ∈ right) : left = right := by
  have hne {a b : α} (hab : r a b) : a ≠ b := by
    rintro rfl
    exact hasymm a a hab hab
  have hperm : left.Perm right :=
    (List.perm_ext_iff_of_nodup (hleft.imp hne) (hright.imp hne)).mpr hmem
  refine List.Perm.eq_of_pairwise ?_ hleft hright hperm
  intro a b _ _ hab hba
  exact absurd hba (hasymm a b hab)

theorem eq_of_ascending {left right : List α}
    (hleft : left.Pairwise fun a b => key a < key b)
    (hright : right.Pairwise fun a b => key a < key b)
    (hmem : ∀ a, a ∈ left ↔ a ∈ right) : left = right :=
  eq_of_pairwise_asymm (fun _ _ hab hba => String.lt_irrefl _ (String.lt_trans hab hba))
    hleft hright hmem

theorem ext_mem {left right : Index α key}
    (hmem : ∀ a, a ∈ left.entries ↔ a ∈ right.entries) : left = right := by
  have h := eq_of_ascending left.ascending right.ascending hmem
  cases left
  cases right
  simpa using h

theorem get?_eq_some_iff {index : Index α key} {k : String} {a : α} :
    index.get? k = some a ↔ a ∈ index.entries ∧ key a = k := by
  constructor
  · intro h
    exact ⟨List.mem_of_find?_eq_some h, by simpa using List.find?_some h⟩
  · rintro ⟨ha, rfl⟩
    cases hfind : index.get? (key a) with
    | none =>
        have hnone := List.find?_eq_none.mp hfind a ha
        simp at hnone
    | some b =>
        have hb : b ∈ index.entries := List.mem_of_find?_eq_some hfind
        have hkey : key b = key a := by simpa using List.find?_some hfind
        rw [eq_of_key_eq (nodup_of_ascending index.ascending) hb ha hkey]

theorem contains_iff {index : Index α key} {k : String} :
    index.contains k = true ↔ ∃ a ∈ index.entries, key a = k := by
  rw [contains, Option.isSome_iff_exists]
  simp only [get?_eq_some_iff]

theorem get?_rel {R : α → β → Prop} {left : Index α key} {right : Index β key'}
    (hkey : ∀ a b, R a b → key a = key' b)
    (hforward : ∀ a ∈ left.entries, ∃ b ∈ right.entries, R a b)
    (hbackward : ∀ b ∈ right.entries, ∃ a ∈ left.entries, R a b) (k : String) :
    Option.Rel R (left.get? k) (right.get? k) := by
  cases hleft : left.get? k with
  | none =>
      cases hright : right.get? k with
      | none => exact .none
      | some b =>
          obtain ⟨hb, rfl⟩ := get?_eq_some_iff.mp hright
          obtain ⟨a, ha, hab⟩ := hbackward b hb
          rw [get?_eq_some_iff.mpr ⟨ha, hkey a b hab⟩] at hleft
          cases hleft
  | some a =>
      obtain ⟨ha, rfl⟩ := get?_eq_some_iff.mp hleft
      obtain ⟨b, hb, hab⟩ := hforward a ha
      rw [get?_eq_some_iff.mpr ⟨hb, (hkey a b hab).symm⟩]
      exact .some hab

theorem mem_place_iff {a b : α} {entries : List α}
    (h : entries.Pairwise fun a b => key a < key b) :
    b ∈ place key a entries ↔ b = a ∨ b ∈ entries ∧ key b ≠ key a := by
  induction entries with
  | nil => simp [place]
  | cons c cs ih =>
      obtain ⟨hc, hcs⟩ := List.pairwise_cons.mp h
      have hne {x y : α} (hxy : key x < key y) : key x ≠ key y :=
        fun heq => String.lt_irrefl _ (heq ▸ hxy)
      rw [place]
      split
      · rename_i hac
        have hother : ∀ d ∈ c :: cs, key d ≠ key a := by
          intro d hd
          rcases List.mem_cons.mp hd with rfl | hd
          · exact (hne hac).symm
          · exact (hne (String.lt_trans hac (hc d hd))).symm
        rw [List.mem_cons]
        exact or_congr_right ⟨fun hb => ⟨hb, hother b hb⟩, And.left⟩
      · rename_i hac
        split
        · rename_i hca
          rw [List.mem_cons, ih hcs, List.mem_cons]
          constructor
          · rintro (rfl | rfl | ⟨hb, hba⟩)
            · exact Or.inr ⟨Or.inl rfl, hne hca⟩
            · exact Or.inl rfl
            · exact Or.inr ⟨Or.inr hb, hba⟩
          · rintro (rfl | ⟨rfl | hb, hba⟩)
            · exact Or.inr (Or.inl rfl)
            · exact Or.inl rfl
            · exact Or.inr (Or.inr ⟨hb, hba⟩)
        · rename_i hca
          have heq : key a = key c :=
            String.le_antisymm (String.not_lt.mp hca) (String.not_lt.mp hac)
          rw [List.mem_cons, List.mem_cons, heq]
          constructor
          · rintro (rfl | hb)
            · exact Or.inl rfl
            · exact Or.inr ⟨Or.inr hb, (hne (hc b hb)).symm⟩
          · rintro (rfl | ⟨rfl | hb, hbc⟩)
            · exact Or.inl rfl
            · exact absurd rfl hbc
            · exact Or.inr hb

theorem mem_insert_iff {index : Index α key} {a b : α} :
    b ∈ (index.insert a).entries ↔ b = a ∨ b ∈ index.entries ∧ key b ≠ key a :=
  mem_place_iff index.ascending

theorem get?_insert {index : Index α key} {a : α} {k : String} :
    (index.insert a).get? k = if key a = k then some a else index.get? k := by
  refine Option.ext fun b => ?_
  rw [get?_eq_some_iff, mem_insert_iff]
  split
  case isTrue hkey =>
    subst hkey
    rw [Option.some_inj]
    constructor
    · rintro ⟨rfl | ⟨-, hne⟩, hb⟩
      · rfl
      · exact absurd hb hne
    · rintro rfl
      exact ⟨Or.inl rfl, rfl⟩
  case isFalse hkey =>
    rw [get?_eq_some_iff]
    constructor
    · rintro ⟨rfl | ⟨hb, -⟩, hk⟩
      · exact absurd hk hkey
      · exact ⟨hb, hk⟩
    · rintro ⟨hb, rfl⟩
      exact ⟨Or.inr ⟨hb, Ne.symm hkey⟩, rfl⟩

theorem contains_insert_iff {index : Index α key} {a : α} {k : String} :
    (index.insert a).contains k = true ↔ key a = k ∨ index.contains k = true := by
  simp only [contains_iff, mem_insert_iff]
  constructor
  · rintro ⟨b, rfl | ⟨hb, -⟩, rfl⟩
    · exact Or.inl rfl
    · exact Or.inr ⟨b, hb, rfl⟩
  · rintro (rfl | ⟨b, hb, rfl⟩)
    · exact ⟨a, Or.inl rfl, rfl⟩
    · by_cases hkey : key b = key a
      · exact ⟨a, Or.inl rfl, hkey.symm⟩
      · exact ⟨b, Or.inr ⟨hb, hkey⟩, rfl⟩

theorem contains_insert_eq_false_iff {index : Index α key} {a : α} {k : String} :
    (index.insert a).contains k = false ↔ key a ≠ k ∧ index.contains k = false := by
  rw [← Bool.not_eq_true, contains_insert_iff, not_or, Bool.not_eq_true]

theorem contains_ofList_iff {entries : List α} {k : String} :
    (ofList entries : Index α key).contains k = true ↔ ∃ a ∈ entries, key a = k := by
  suffices h : ∀ index : Index α key, (entries.foldl insert index).contains k = true ↔
      (∃ a ∈ entries, key a = k) ∨ index.contains k = true by
    rw [ofList, h]
    simp [contains_iff, empty]
  induction entries with
  | nil => simp
  | cons a entries ih =>
      intro index
      rw [List.foldl_cons, ih, contains_insert_iff]
      simp only [List.mem_cons, exists_eq_or_imp]
      constructor
      · rintro (h | h | h)
        · exact Or.inl (Or.inr h)
        · exact Or.inl (Or.inl h)
        · exact Or.inr h
      · rintro ((h | h) | h)
        · exact Or.inr (Or.inl h)
        · exact Or.inl h
        · exact Or.inr (Or.inr h)

theorem addNew_eq_ok {index : Index α key} {entries : List α}
    (hdistinct : (entries.map key).Nodup)
    (hnew : ∀ a ∈ entries, index.contains (key a) = false) :
    ∃ final, index.addNew entries = .ok final ∧
      ∀ a, a ∈ final.entries ↔ a ∈ index.entries ∨ a ∈ entries := by
  induction entries generalizing index with
  | nil => exact ⟨index, rfl, by simp⟩
  | cons b entries ih =>
      have hb := hnew b List.mem_cons_self
      rw [List.map_cons, List.nodup_cons] at hdistinct
      have hrest : ∀ a ∈ entries, (index.insert b).contains (key a) = false := by
        intro a ha
        refine contains_insert_eq_false_iff.mpr ⟨?_, hnew a (List.mem_cons_of_mem _ ha)⟩
        intro hkey
        exact hdistinct.1 (hkey ▸ List.mem_map_of_mem ha)
      obtain ⟨final, hfinal, hmem⟩ := ih hdistinct.2 hrest
      refine ⟨final, by rw [addNew, hb]; exact hfinal, fun a => ?_⟩
      have hfresh : ∀ a ∈ index.entries, key a ≠ key b := by
        intro a ha hkey
        have hcontains : index.contains (key b) = true := contains_iff.mpr ⟨a, ha, hkey⟩
        rw [hb] at hcontains
        cases hcontains
      rw [hmem, mem_insert_iff, List.mem_cons]
      constructor
      · rintro ((h | h) | h)
        · exact Or.inr (Or.inl h)
        · exact Or.inl h.1
        · exact Or.inr (Or.inr h)
      · rintro (h | h | h)
        · exact Or.inl (Or.inr ⟨h, hfresh a h⟩)
        · exact Or.inl (Or.inl h)
        · exact Or.inr h

theorem foldl_insert_of_addNew {index final : Index α key} {entries : List α}
    (h : index.addNew entries = .ok final) : entries.foldl insert index = final := by
  induction entries generalizing index with
  | nil => exact Except.ok.inj h
  | cons b entries ih =>
      rw [addNew] at h
      split at h
      · cases h
      · exact ih h

theorem ofList_entries (index : Index α key) : ofList index.entries = index := by
  have hnew : ∀ a ∈ index.entries, (empty : Index α key).contains (key a) = false :=
    fun _ _ => rfl
  obtain ⟨final, hfinal, hmem⟩ := addNew_eq_ok (nodup_of_ascending index.ascending) hnew
  rw [ofList, foldl_insert_of_addNew hfinal]
  refine ext_mem fun a => ?_
  rw [hmem]
  simp [empty]

theorem nodup_of_addNew {index final : Index α key} {entries : List α}
    (h : index.addNew entries = .ok final) :
    (entries.map key).Nodup ∧ ∀ a ∈ entries, index.contains (key a) = false := by
  induction entries generalizing index with
  | nil => simp
  | cons b entries ih =>
      rw [addNew] at h
      split at h
      · cases h
      · rename_i hb
        obtain ⟨hdistinct, hnew⟩ := ih h
        have hrest : ∀ a ∈ entries, key b ≠ key a ∧ index.contains (key a) = false :=
          fun a ha => contains_insert_eq_false_iff.mp (hnew a ha)
        constructor
        · rw [List.map_cons, List.nodup_cons, List.mem_map]
          refine ⟨?_, hdistinct⟩
          rintro ⟨a, ha, hkey⟩
          exact (hrest a ha).1 hkey.symm
        · intro a ha
          rcases List.mem_cons.mp ha with rfl | ha
          · exact Bool.eq_false_iff.mpr hb
          · exact (hrest a ha).2

theorem exists_ofDistinct_iff {entries : List α} :
    (∃ index : Index α key, ofDistinct entries = .ok index) ↔ (entries.map key).Nodup := by
  constructor
  · rintro ⟨index, h⟩
    exact (nodup_of_addNew h).1
  · intro h
    have hnew : ∀ a ∈ entries, (empty : Index α key).contains (key a) = false := fun _ _ => rfl
    obtain ⟨index, hindex, -⟩ := addNew_eq_ok h hnew
    exact ⟨index, hindex⟩

theorem mem_of_ofDistinct {entries : List α} {index : Index α key}
    (h : ofDistinct entries = .ok index) (a : α) : a ∈ index.entries ↔ a ∈ entries := by
  obtain ⟨hdistinct, hnew⟩ := nodup_of_addNew h
  obtain ⟨index', hindex', hmem⟩ := addNew_eq_ok hdistinct hnew
  have heq : index = index' := Except.ok.inj (h.symm.trans hindex')
  rw [heq, hmem]
  simp [empty]

end Rulebook.Index
