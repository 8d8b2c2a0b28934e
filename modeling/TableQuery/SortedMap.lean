/-!
# Sorted maps

Maps from text to values, kept in ascending order of their keys. Two maps with the same entries are
equal, so nothing of the order of insertion remains.
-/

namespace TableQuery

structure SortedMap (α : Type) where
  entries : List (String × α)
  sorted : entries.Pairwise fun a b => a.1 < b.1

namespace SortedMap

variable {α : Type}

instance [DecidableEq α] : DecidableEq (SortedMap α)
  | ⟨xs, _⟩, ⟨ys, _⟩ => decidable_of_iff (xs = ys) (by simp)

def empty : SortedMap α := ⟨[], .nil⟩

instance : Inhabited (SortedMap α) := ⟨empty⟩

def get? (m : SortedMap α) (key : String) : Option α := m.entries.lookup key

/-- The entries with one added, or replaced where the key is there. -/
def insertEntry (key : String) (value : α) : List (String × α) → List (String × α)
  | [] => [(key, value)]
  | e :: rest =>
    if key < e.1 then (key, value) :: e :: rest
    else if key = e.1 then (key, value) :: rest
    else e :: insertEntry key value rest

theorem mem_insertEntry {key : String} {value : α} {a : String × α} {xs : List (String × α)}
    (h : a ∈ insertEntry key value xs) : a = (key, value) ∨ a ∈ xs := by
  induction xs with
  | nil => simpa [insertEntry] using h
  | cons e rest ih =>
    unfold insertEntry at h
    split at h
    · simpa using h
    · split at h
      · rcases List.mem_cons.1 h with h | h
        · exact .inl h
        · exact .inr (List.mem_cons_of_mem _ h)
      · rcases List.mem_cons.1 h with h | h
        · exact .inr (h ▸ List.mem_cons_self)
        · exact (ih h).imp id (List.mem_cons_of_mem _)

theorem pairwise_insertEntry {key : String} {value : α} {xs : List (String × α)}
    (h : xs.Pairwise fun a b => a.1 < b.1) :
    (insertEntry key value xs).Pairwise fun a b => a.1 < b.1 := by
  induction xs with
  | nil => simp [insertEntry]
  | cons e rest ih =>
    obtain ⟨hhead, htail⟩ := List.pairwise_cons.1 h
    unfold insertEntry
    split
    · rename_i hlt
      refine List.pairwise_cons.2 ⟨fun b hb => ?_, h⟩
      rcases List.mem_cons.1 hb with rfl | hb
      · exact hlt
      · exact String.lt_trans hlt (hhead b hb)
    · rename_i hge
      split
      · rename_i heq
        exact List.pairwise_cons.2 ⟨fun b hb => heq ▸ hhead b hb, htail⟩
      · rename_i hne
        refine List.pairwise_cons.2 ⟨fun b hb => ?_, ih htail⟩
        rcases mem_insertEntry hb with rfl | hb
        · exact String.not_le.1 fun hle => hne (String.le_antisymm hle (String.not_lt.1 hge))
        · exact hhead b hb

def insert (m : SortedMap α) (key : String) (value : α) : SortedMap α :=
  ⟨insertEntry key value m.entries, pairwise_insertEntry m.sorted⟩

theorem lookup_insertEntry_self (key : String) (value : α) (xs : List (String × α)) :
    (insertEntry key value xs).lookup key = some value := by
  induction xs with
  | nil => simp [insertEntry]
  | cons e rest ih =>
    obtain ⟨k, v⟩ := e
    unfold insertEntry
    split
    · simp
    · split
      · simp
      · rename_i hne
        simp [List.lookup_cons, beq_false_of_ne hne, ih]

theorem lookup_insertEntry_of_ne {key other : String} (h : other ≠ key) (value : α)
    (xs : List (String × α)) : (insertEntry key value xs).lookup other = xs.lookup other := by
  induction xs with
  | nil => simp [insertEntry, List.lookup_cons, beq_false_of_ne h]
  | cons e rest ih =>
    obtain ⟨k, v⟩ := e
    unfold insertEntry
    split
    · simp [List.lookup_cons, beq_false_of_ne h]
    · split
      · rename_i heq
        simp [List.lookup_cons, beq_false_of_ne h, show k = key from heq.symm]
      · simp [List.lookup_cons, ih]

@[simp]
theorem get?_insert_self (m : SortedMap α) (key : String) (value : α) :
    (m.insert key value).get? key = some value :=
  lookup_insertEntry_self key value m.entries

theorem get?_insert_of_ne (m : SortedMap α) {key other : String} (h : other ≠ key) (value : α) :
    (m.insert key value).get? other = m.get? other :=
  lookup_insertEntry_of_ne h value m.entries

theorem get?_insert (m : SortedMap α) (key other : String) (value : α) :
    (m.insert key value).get? other = if other = key then some value else m.get? other := by
  split
  · rename_i h
    rw [h, get?_insert_self]
  · rename_i h
    exact get?_insert_of_ne m h value

/-! ## Entries -/

/-- No two entries have the same key. -/
theorem pairwise_ne (m : SortedMap α) : m.entries.Pairwise fun a b => a.1 ≠ b.1 := by
  refine m.sorted.imp ?_
  intro a b hlt heq
  exact String.lt_irrefl _ (heq ▸ hlt)

theorem mem_entries_iff {m : SortedMap α} {a : String × α} : a ∈ m.entries ↔ m.get? a.1 = some a.2 := by
  obtain ⟨key, value⟩ := a
  rw [get?, List.lookup_eq_some_iff]
  constructor
  · intro h
    obtain ⟨before, after, heq⟩ := List.append_of_mem h
    refine ⟨before, after, heq, ?_⟩
    intro p hp
    have hlt := (List.pairwise_append.1 (heq ▸ m.sorted)).2.2 p hp (key, value) List.mem_cons_self
    rw [bne_iff_ne]
    rintro rfl
    exact String.lt_irrefl _ hlt
  · rintro ⟨before, after, heq, -⟩
    rw [heq]
    exact List.mem_append_right before List.mem_cons_self

/-- A map is known by what is found in it. -/
theorem ext_get? {m n : SortedMap α} (h : ∀ key, m.get? key = n.get? key) : m = n := by
  have hnodup (k : SortedMap α) : k.entries.Nodup := by
    refine k.pairwise_ne.imp ?_
    rintro a b hne rfl
    exact hne rfl
  have hperm : m.entries.Perm n.entries := by
    rw [List.perm_ext_iff_of_nodup (hnodup m) (hnodup n)]
    intro a
    rw [mem_entries_iff, mem_entries_iff, h]
  rw [mk.injEq]
  refine hperm.eq_of_pairwise ?_ m.sorted n.sorted
  intro a b _ _ hab hba
  exact absurd (String.lt_trans hab hba) (String.lt_irrefl _)

/-- Values under different keys can be inserted in either order. -/
theorem insert_comm (m : SortedMap α) {k k' : String} (h : k ≠ k') (v v' : α) :
    (m.insert k v).insert k' v' = (m.insert k' v').insert k v := by
  apply ext_get?
  intro key
  simp only [get?_insert]
  by_cases hk : key = k
  · subst hk
    rw [if_neg h, if_pos rfl, if_pos rfl]
  · rw [if_neg hk, if_neg hk]

end SortedMap

end TableQuery
