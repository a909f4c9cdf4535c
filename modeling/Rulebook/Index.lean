namespace Rulebook

/-- Entries sorted by a key that tells them apart. -/
structure Index (α : Type) (key : α → String) where
  entries : List α
  ascending : entries.Pairwise fun a b => key a < key b

namespace Index

variable {α : Type} {key : α → String}

/-- Puts an entry in its place; an entry of the same key gives way to it. -/
def place (key : α → String) (a : α) : List α → List α
  | [] => [a]
  | b :: bs =>
      if key a < key b then a :: b :: bs
      else if key b < key a then b :: place key a bs
      else a :: bs

theorem mem_place {a b : α} {entries : List α} (h : b ∈ place key a entries) :
    b = a ∨ b ∈ entries := by
  induction entries with
  | nil => simp_all [place]
  | cons c cs ih =>
      unfold place at h
      split at h
      · simpa using h
      · split at h
        · rcases List.mem_cons.1 h with h | h
          · exact Or.inr (h ▸ List.mem_cons_self)
          · exact (ih h).imp id (List.mem_cons_of_mem _)
        · rcases List.mem_cons.1 h with h | h
          · exact Or.inl h
          · exact Or.inr (List.mem_cons_of_mem _ h)

theorem place_ascending (a : α) {entries : List α}
    (h : entries.Pairwise fun a b => key a < key b) :
    (place key a entries).Pairwise fun a b => key a < key b := by
  induction entries with
  | nil => simp [place]
  | cons b bs ih =>
      obtain ⟨hb, hbs⟩ := List.pairwise_cons.1 h
      unfold place
      split
      · rename_i hab
        refine List.pairwise_cons.2 ⟨fun c hc => ?_, h⟩
        rcases List.mem_cons.1 hc with rfl | hc
        · exact hab
        · exact String.lt_trans hab (hb c hc)
      · rename_i hab
        split
        · rename_i hba
          refine List.pairwise_cons.2 ⟨fun c hc => ?_, ih hbs⟩
          rcases mem_place hc with rfl | hc
          · exact hba
          · exact hb c hc
        · rename_i hba
          have heq : key a = key b :=
            String.le_antisymm (String.not_lt.1 hba) (String.not_lt.1 hab)
          exact List.pairwise_cons.2 ⟨fun c hc => heq ▸ hb c hc, hbs⟩

def empty : Index α key :=
  ⟨[], List.Pairwise.nil⟩

def get? (index : Index α key) (k : String) : Option α :=
  index.entries.find? fun a => key a == k

def contains (index : Index α key) (k : String) : Bool :=
  (index.get? k).isSome

/-- Adds an entry, in place of one with the same key. -/
def insert (index : Index α key) (a : α) : Index α key :=
  ⟨place key a index.entries, place_ascending a index.ascending⟩

def ofList (entries : List α) : Index α key :=
  entries.foldl insert empty

/-- Adds entries one after the other and stops at the first whose key is there already. -/
def addNew (index : Index α key) : List α → Except String (Index α key)
  | [] => .ok index
  | a :: rest => if index.contains (key a) then .error (key a) else (index.insert a).addNew rest

/-- An index of entries with different keys; else the first key that comes a second time. -/
def ofDistinct (entries : List α) : Except String (Index α key) :=
  empty.addNew entries

def size (index : Index α key) : Nat :=
  index.entries.length

end Index

end Rulebook
