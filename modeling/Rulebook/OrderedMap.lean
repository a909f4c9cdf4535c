namespace Rulebook.OrderedMap

variable {κ α : Type} [DecidableEq κ]

def keys (entries : List (κ × α)) : List κ :=
  entries.map Prod.fst

def get? (key : κ) : List (κ × α) → Option α
  | [] => none
  | (k, v) :: rest => if k = key then some v else get? key rest

/-- Gives a key a value: in its place when it has one, else at the end. -/
def put (key : κ) (value : α) : List (κ × α) → List (κ × α)
  | [] => [(key, value)]
  | (k, v) :: rest => if k = key then (k, value) :: rest else (k, v) :: put key value rest

/-- Gives every key of the second list its value there, one entry after the other. -/
def overlay (base layer : List (κ × α)) : List (κ × α) :=
  layer.foldl (fun entries entry => put entry.1 entry.2 entries) base

theorem mem_keys_put (key k : κ) (value : α) (entries : List (κ × α)) :
    k ∈ keys (put key value entries) ↔ k = key ∨ k ∈ keys entries := by
  induction entries with
  | nil => simp [put, keys]
  | cons entry rest ih =>
      obtain ⟨k', v⟩ := entry
      by_cases h : k' = key
      · subst h
        simp only [put, if_true, keys, List.map_cons, List.mem_cons]
        constructor
        · rintro (rfl | h) <;> simp_all
        · rintro (rfl | rfl | h) <;> simp_all
      · have ih' : k ∈ List.map Prod.fst (put key value rest) ↔
            k = key ∨ k ∈ List.map Prod.fst rest := ih
        simp only [put, if_neg h, keys, List.map_cons, List.mem_cons, ih']
        constructor
        · rintro (h | h | h) <;> simp [h]
        · rintro (h | h | h) <;> simp [h]

theorem keys_put_nodup (key : κ) (value : α) (entries : List (κ × α))
    (h : (keys entries).Nodup) : (keys (put key value entries)).Nodup := by
  induction entries with
  | nil => simp [put, keys]
  | cons entry rest ih =>
      obtain ⟨k, v⟩ := entry
      have hk : k ∉ keys rest := (List.nodup_cons.1 h).1
      have hrest : (keys rest).Nodup := (List.nodup_cons.1 h).2
      by_cases hkey : k = key
      · simpa [put, hkey, keys] using h
      · have hput := ih hrest
        simp only [put, if_neg hkey]
        refine List.nodup_cons.2 ⟨?_, hput⟩
        intro hmem
        rcases (mem_keys_put key k value rest).1 hmem with h' | h'
        · exact hkey h'
        · exact hk h'

theorem keys_overlay_nodup (base layer : List (κ × α)) (h : (keys base).Nodup) :
    (keys (overlay base layer)).Nodup := by
  induction layer generalizing base with
  | nil => exact h
  | cons entry layer ih => exact ih _ (keys_put_nodup _ _ _ h)

theorem mem_put {key : κ} {value : α} {entries : List (κ × α)} {entry : κ × α}
    (h : entry ∈ put key value entries) : entry.2 = value ∨ entry ∈ entries := by
  induction entries with
  | nil => left; simp_all [put]
  | cons head rest ih =>
      obtain ⟨k, v⟩ := head
      by_cases hkey : k = key
      · simp only [put, if_pos hkey, List.mem_cons] at h
        rcases h with h | h
        · left; rw [h]
        · right; exact List.mem_cons_of_mem _ h
      · simp only [put, if_neg hkey, List.mem_cons] at h
        rcases h with h | h
        · right; exact h ▸ List.mem_cons_self
        · exact (ih h).imp id (List.mem_cons_of_mem _)

theorem mem_overlay {base layer : List (κ × α)} {entry : κ × α}
    (h : entry ∈ overlay base layer) :
    entry ∈ base ∨ ∃ entry' ∈ layer, entry.2 = entry'.2 := by
  induction layer generalizing base with
  | nil => exact Or.inl h
  | cons head layer ih =>
      rcases @ih (put head.1 head.2 base) h with h | ⟨e, he, heq⟩
      · rcases mem_put h with h | h
        · exact Or.inr ⟨head, List.mem_cons_self, h⟩
        · exact Or.inl h
      · exact Or.inr ⟨e, List.mem_cons_of_mem _ he, heq⟩

end Rulebook.OrderedMap
