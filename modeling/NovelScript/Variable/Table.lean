import NovelScript.Variable.Basic

/-!
# The variable table — variables by id

A table holds at most one variable per id, in increasing order of ids, and that order is part of
its type. Inserting a variable takes the place of an earlier one with the same id, so the last one
wins; asking for an id (`get?`) walks the list.

## What is proved

`get?_insert`: after an insertion the inserted id finds the new variable and every other id finds
what it found before. `get?_eq_some_iff`: asking finds exactly the variable that stands in the list
under the id.
-/

set_option autoImplicit false

namespace NovelScript

/-- Variables in strictly increasing order of their ids. -/
structure VariableTable where
  entries : List Variable
  ordered : entries.Pairwise (fun v w => v.id < w.id)

namespace VariableTable

/-- A variable put among variables in order; an earlier one of the same id goes. -/
def insertEntry (v : Variable) : List Variable → List Variable
  | [] => [v]
  | w :: rest =>
    if v.id < w.id then v :: w :: rest
    else if v.id = w.id then v :: rest
    else w :: insertEntry v rest

/-- Insertion adds no id but the inserted one. -/
theorem id_mem_insertEntry {v : Variable} :
    ∀ {entries : List Variable} {w : Variable},
      w ∈ insertEntry v entries → w = v ∨ w ∈ entries
  | [], w, h => by simp [insertEntry] at h; exact .inl h
  | u :: rest, w, h => by
    unfold insertEntry at h
    split at h
    · rcases List.mem_cons.mp h with h | h
      · exact .inl h
      · exact .inr h
    · split at h
      · rcases List.mem_cons.mp h with h | h
        · exact .inl h
        · exact .inr (List.mem_cons_of_mem _ h)
      · rcases List.mem_cons.mp h with h | h
        · exact .inr (h ▸ List.mem_cons_self)
        · rcases id_mem_insertEntry h with h | h
          · exact .inl h
          · exact .inr (List.mem_cons_of_mem _ h)

/-- Insertion keeps the order. -/
theorem insertEntry_ordered {v : Variable} :
    ∀ {entries : List Variable}, entries.Pairwise (fun v w => v.id < w.id) →
      (insertEntry v entries).Pairwise (fun v w => v.id < w.id)
  | [], _ => by simp [insertEntry]
  | u :: rest, h => by
    have ⟨first, others⟩ := List.pairwise_cons.mp h
    unfold insertEntry
    split
    next below =>
      refine List.pairwise_cons.mpr ⟨fun w hw => ?_, h⟩
      rcases List.mem_cons.mp hw with rfl | hw
      · exact below
      · exact UInt16.lt_trans below (first w hw)
    next notBelow =>
      split
      next same => exact List.pairwise_cons.mpr ⟨fun w hw => same ▸ first w hw, others⟩
      next other =>
        refine List.pairwise_cons.mpr ⟨fun w hw => ?_, insertEntry_ordered others⟩
        rcases id_mem_insertEntry hw with rfl | hw
        · exact UInt16.lt_of_le_of_ne (UInt16.not_lt.mp notBelow) (fun e => other e.symm)
        · exact first w hw

/-- The table without variables. -/
def empty : VariableTable := ⟨[], .nil⟩

instance : Inhabited VariableTable := ⟨empty⟩

/-- The table with a variable under its id. -/
def insert (table : VariableTable) (v : Variable) : VariableTable :=
  ⟨insertEntry v table.entries, insertEntry_ordered table.ordered⟩

/-- The variable under an id. -/
def get? (table : VariableTable) (id : UInt16) : Option Variable :=
  table.entries.find? (fun v => v.id == id)

/-- The table with a variable under its id, and the variable whose place it took. -/
def exchange (table : VariableTable) (v : Variable) : Option Variable × VariableTable :=
  (table.get? v.id, table.insert v)

/-- The table of variables put in one after the other. -/
def ofList (vars : List Variable) : VariableTable := vars.foldl insert empty

/-- The variables in order of their ids. -/
def toList (table : VariableTable) : List Variable := table.entries

/-- The number of variables. -/
def size (table : VariableTable) : Nat := table.entries.length

/-- Whether the table has no variables. -/
def isEmpty (table : VariableTable) : Bool := table.entries.isEmpty

/-- Looking an id up right after an insertion into the entries. -/
theorem find?_insertEntry (v : Variable) (id : UInt16) :
    ∀ entries : List Variable,
      (insertEntry v entries).find? (fun w => w.id == id) =
        if v.id = id then some v else entries.find? (fun w => w.id == id)
  | [] => by by_cases h : v.id = id <;> simp [insertEntry, h]
  | u :: rest => by
    have ih := find?_insertEntry v id rest
    unfold insertEntry
    split
    · by_cases h : v.id = id <;> simp [h]
    · split
      next same =>
        by_cases h : v.id = id
        · simp [h]
        · have : u.id ≠ id := fun e => h (same.trans e)
          simp [h, this]
      next other =>
        by_cases h : u.id = id
        · have : v.id ≠ id := fun e => other (e.trans h.symm)
          simp [h, this]
        · simp [h, ih]

/-- An insertion is seen under its own id and nowhere else. -/
theorem get?_insert (table : VariableTable) (v : Variable) (id : UInt16) :
    (table.insert v).get? id = if v.id = id then some v else table.get? id :=
  find?_insertEntry v id table.entries

/-- No two entries share an id, so what stands under an id is what asking for it finds. -/
theorem find?_eq_some_of_mem {id : UInt16} :
    ∀ {entries : List Variable}, entries.Pairwise (fun v w => v.id < w.id) →
      ∀ {v : Variable}, v ∈ entries → v.id = id →
        entries.find? (fun w => w.id == id) = some v
  | [], _, _, hv, _ => by simp at hv
  | u :: rest, h, v, hv, hid => by
    have ⟨first, others⟩ := List.pairwise_cons.mp h
    rcases List.mem_cons.mp hv with rfl | hv
    · simp [hid]
    · have below := first v hv
      have ne : u.id ≠ id := fun e => by
        rw [e, ← hid] at below; exact UInt16.lt_irrefl _ below
      simp [ne, find?_eq_some_of_mem others hv hid]

/-- Asking for an id finds exactly the variable that the table lists under it. -/
theorem get?_eq_some_iff (table : VariableTable) (id : UInt16) (v : Variable) :
    table.get? id = some v ↔ v ∈ table.toList ∧ v.id = id := by
  constructor
  · intro h
    exact ⟨List.mem_of_find?_eq_some h, by simpa using List.find?_some h⟩
  · rintro ⟨hv, hid⟩
    exact find?_eq_some_of_mem table.ordered hv hid

end VariableTable

end NovelScript
