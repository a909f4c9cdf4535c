import Mathlib.Data.List.Basic
import Rulebook.OrderedMap

namespace Rulebook.OrderedMap

variable {κ α : Type} [DecidableEq κ] {key k : κ} {base layer entries : List (κ × α)}

theorem put_eq_append (hkey : key ∉ keys entries) (value : α) :
    put key value entries = entries ++ [(key, value)] := by
  induction entries with
  | nil => rfl
  | cons entry entries ih =>
      obtain ⟨k, v⟩ := entry
      rw [keys, List.map_cons, List.mem_cons, not_or] at hkey
      rw [put, if_neg (Ne.symm hkey.1), ih hkey.2, List.cons_append]

theorem overlay_eq_append (h : (keys (base ++ layer)).Nodup) :
    overlay base layer = base ++ layer := by
  induction layer generalizing base with
  | nil => simp [overlay]
  | cons entry layer ih =>
      have hkey : entry.1 ∉ keys base := by
        rw [keys, List.map_append, List.map_cons, List.nodup_append] at h
        intro hmem
        exact h.2.2 entry.1 hmem entry.1 List.mem_cons_self rfl
      have hassoc : base ++ entry :: layer = base ++ [entry] ++ layer := by simp
      calc overlay base (entry :: layer)
        _ = overlay (put entry.1 entry.2 base) layer := rfl
        _ = overlay (base ++ [entry]) layer := by rw [put_eq_append hkey]
        _ = base ++ entry :: layer := by rw [ih (by rwa [← hassoc]), hassoc]

theorem overlay_nil (h : (keys entries).Nodup) : overlay [] entries = entries :=
  overlay_eq_append h

theorem get?_put (key k : κ) (value : α) (entries : List (κ × α)) :
    get? k (put key value entries) = if key = k then some value else get? k entries := by
  induction entries with
  | nil => rfl
  | cons entry rest ih =>
      obtain ⟨k', v⟩ := entry
      by_cases hkey : k' = key
      · subst hkey
        rw [put, if_pos rfl, get?, get?]
        split <;> rfl
      · rw [put, if_neg hkey, get?, get?, ih]
        by_cases hk : k' = k
        · have hother : key ≠ k := fun h => hkey (hk.trans h.symm)
          rw [if_pos hk, if_neg hother, if_pos hk]
        · rw [if_neg hk, if_neg hk]

theorem get?_eq_none_iff : get? k entries = none ↔ k ∉ keys entries := by
  induction entries with
  | nil => simp [get?, keys]
  | cons entry rest ih =>
      obtain ⟨k', v⟩ := entry
      rw [keys] at ih
      rw [get?, keys, List.map_cons, List.mem_cons, not_or, eq_comm (a := k)]
      split
      · rename_i hkey
        simp [hkey]
      · rename_i hkey
        rw [ih, and_iff_right hkey]

theorem keys_put_of_mem (hkey : key ∈ keys entries) (value : α) :
    keys (put key value entries) = keys entries := by
  induction entries with
  | nil => cases hkey
  | cons entry rest ih =>
      obtain ⟨k, v⟩ := entry
      by_cases hk : k = key
      · rw [put, if_pos hk, keys, keys, List.map_cons, List.map_cons]
      · have hrest : key ∈ keys rest := List.mem_of_ne_of_mem (Ne.symm hk) hkey
        have hkeys := ih hrest
        rw [keys, keys] at hkeys
        rw [put, if_neg hk, keys, keys, List.map_cons, List.map_cons, hkeys]

theorem keys_overlay (base layer : List (κ × α)) :
    keys (overlay base layer) =
      keys base ++ ((keys layer).filter fun k => k ∉ keys base).eraseDups := by
  induction layer generalizing base with
  | nil => simp [overlay, keys]
  | cons entry layer ih =>
      obtain ⟨key, value⟩ := entry
      have hstep : overlay base ((key, value) :: layer) = overlay (put key value base) layer := rfl
      have hlayer : keys ((key, value) :: layer) = key :: keys layer := rfl
      rw [hstep, ih, hlayer]
      by_cases hkey : key ∈ keys base
      · rw [keys_put_of_mem hkey, List.filter_cons_of_neg (by simpa using hkey)]
      · have hput : keys (put key value base) = keys base ++ [key] := by
          rw [put_eq_append hkey, keys, keys, List.map_append, List.map_singleton]
        rw [hput, List.filter_cons_of_pos (by simpa using hkey), List.eraseDups_cons,
          List.append_assoc, List.singleton_append, List.filter_filter]
        congr 4
        funext k
        rw [Bool.eq_iff_iff]
        simp [and_comm]

/-- A key has its value in the layer, or else the one that it had. -/
theorem get?_overlay (hlayer : (keys layer).Nodup) (k : κ) (base : List (κ × α)) :
    get? k (overlay base layer) = (get? k layer).or (get? k base) := by
  induction layer generalizing base with
  | nil => rfl
  | cons entry layer ih =>
      obtain ⟨key, value⟩ := entry
      obtain ⟨hkey, hrest⟩ := List.nodup_cons.mp hlayer
      have hstep : overlay base ((key, value) :: layer) = overlay (put key value base) layer := rfl
      rw [hstep, ih hrest, get?_put, get?]
      split
      · rename_i heq
        subst heq
        rw [get?_eq_none_iff.mpr hkey, Option.none_or, Option.some_or]
      · rfl

theorem ext_get? {left right : List (κ × α)} (hkeys : keys left = keys right)
    (hdistinct : (keys left).Nodup) (hget : ∀ k ∈ keys left, get? k left = get? k right) :
    left = right := by
  induction left generalizing right with
  | nil => exact (List.map_eq_nil_iff.mp hkeys.symm).symm
  | cons entry left ih =>
      obtain ⟨_, value⟩ := entry
      obtain ⟨⟨key, value'⟩, right', rfl, rfl, hrest⟩ := List.map_eq_cons_iff.mp hkeys.symm
      obtain ⟨hkey, hleft⟩ := List.nodup_cons.mp hdistinct
      have hvalue := hget key List.mem_cons_self
      rw [get?, get?, if_pos rfl, if_pos rfl] at hvalue
      have hothers : ∀ k ∈ keys left, get? k left = get? k right' := by
        intro k hk
        have hne : key ≠ k := fun heq => hkey (heq ▸ hk)
        have hother := hget k (List.mem_cons_of_mem _ hk)
        rwa [get?, get?, if_neg hne, if_neg hne] at hother
      rw [Option.some.inj hvalue, ih hrest.symm hleft hothers]

end Rulebook.OrderedMap
