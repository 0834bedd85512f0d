/-!
# Sorted maps

Maps with strings for keys, listed in the order of their keys.  Two maps with the same entries
are equal.
-/

namespace BlockOrder

/-- A map from strings, in ascending order of the keys. -/
structure SortedMap (α : Type) where
  entries : List (String × α)
  sorted : entries.Pairwise (fun a b => a.1 < b.1)

namespace SortedMap

variable {α : Type}

def empty : SortedMap α := ⟨[], .nil⟩

def get? (m : SortedMap α) (key : String) : Option α := m.entries.lookup key

/-- The entries with the value at one key replaced or added. -/
def insertEntry (key : String) (value : α) : List (String × α) → List (String × α)
  | [] => [(key, value)]
  | (k, v) :: rest =>
      if key < k then (key, value) :: (k, v) :: rest
      else if key = k then (key, value) :: rest
      else (k, v) :: insertEntry key value rest

theorem fst_of_mem_insertEntry {key : String} {value : α} {l : List (String × α)}
    {e : String × α} (h : e ∈ insertEntry key value l) : e.1 = key ∨ e ∈ l := by
  induction l with
  | nil => simp_all [insertEntry]
  | cons head rest ih =>
      simp only [insertEntry] at h
      split at h
      · rcases List.mem_cons.1 h with rfl | h
        · exact .inl rfl
        · exact .inr h
      · split at h
        · rcases List.mem_cons.1 h with rfl | h
          · exact .inl rfl
          · exact .inr (.tail _ h)
        · rcases List.mem_cons.1 h with rfl | h
          · exact .inr (.head _)
          · exact (ih h).imp id (.tail _)

theorem insertEntry_sorted (key : String) (value : α) {l : List (String × α)}
    (h : l.Pairwise (fun a b => a.1 < b.1)) :
    (insertEntry key value l).Pairwise (fun a b => a.1 < b.1) := by
  induction l with
  | nil => simp [insertEntry]
  | cons head rest ih =>
      have hrest := List.pairwise_cons.1 h
      simp only [insertEntry]
      split
      case isTrue hlt =>
        refine List.pairwise_cons.2 ⟨?_, h⟩
        intro e he
        rcases List.mem_cons.1 he with rfl | he
        · exact hlt
        · exact String.lt_trans hlt (hrest.1 e he)
      case isFalse hlt =>
        split
        case isTrue heq =>
          subst heq
          exact List.pairwise_cons.2 ⟨hrest.1, hrest.2⟩
        case isFalse hne =>
          refine List.pairwise_cons.2 ⟨?_, ih hrest.2⟩
          intro e he
          rcases fst_of_mem_insertEntry he with hk | he
          · have hle : head.1 ≤ key := String.not_lt.1 hlt
            rw [hk]
            apply Classical.byContradiction
            intro hn
            exact hne (String.le_antisymm (String.not_lt.1 hn) hle)
          · exact hrest.1 e he

/-- The map with the value at one key replaced or added. -/
def insert (m : SortedMap α) (key : String) (value : α) : SortedMap α :=
  ⟨insertEntry key value m.entries, insertEntry_sorted key value m.sorted⟩

def erase (m : SortedMap α) (key : String) : SortedMap α :=
  ⟨m.entries.filter (fun e => e.1 != key), m.sorted.filter _⟩

/-- The map of a list of entries, of which later ones replace earlier ones. -/
def ofList (l : List (String × α)) : SortedMap α :=
  l.foldl (fun m e => m.insert e.1 e.2) empty

end SortedMap

end BlockOrder
