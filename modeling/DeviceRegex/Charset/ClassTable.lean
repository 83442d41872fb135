import DeviceRegex.Charset.Basic

/-!
# Class tables

A program keeps the sets it refers to in a table and refers to them by their index.
Equal sets share one entry, and a new set is put at the end. While the table grows, a map
from sets to indices is kept beside it, so that no set is looked for in the table itself.
-/
namespace DeviceRegex

/-- The sets of a program, in the order in which it first refers to them. -/
abbrev ClassTable := List Charset

namespace ClassTable

/-- The index of a set: that of its entry, or the one it will have at the end. -/
def index (table : ClassTable) (s : Charset) : Nat := table.idxOf s

/-- The table with an entry for a set. -/
def intern (table : ClassTable) (s : Charset) : ClassTable :=
  if s ∈ table then table else table ++ [s]

theorem intern_of_mem {table : ClassTable} {s : Charset} (h : s ∈ table) :
    table.intern s = table := by
  simp [intern, h]

theorem intern_of_not_mem {table : ClassTable} {s : Charset} (h : s ∉ table) :
    table.intern s = table ++ [s] := by simp [intern, h]

@[simp] theorem mem_intern (table : ClassTable) (s : Charset) : s ∈ table.intern s := by
  by_cases h : s ∈ table <;> simp [intern, h]

/-- The entry at the index of a set is that set. -/
theorem getElem?_index_intern (table : ClassTable) (s : Charset) :
    (table.intern s)[table.index s]? = some s := by
  by_cases h : s ∈ table
  · rw [intern_of_mem h, index, List.getElem?_eq_getElem (List.idxOf_lt_length_of_mem h)]
    simp
  · rw [intern_of_not_mem h, index, List.idxOf_eq_length h]
    simp

end ClassTable

/-- A class table that grows, with the map that is asked for the index of a set. The map
knows the entries of the table and nothing else. -/
structure Interner where
  table : ClassTable
  ids : Charset → Option Nat
  in_step : ∀ s, ids s = if s ∈ table then some (table.index s) else none

namespace Interner

/-- No set has an entry. -/
def empty : Interner := ⟨[], fun _ => none, fun _ => rfl⟩

section
variable (t : Interner) {s : Charset}

theorem ids_of_mem (hs : s ∈ t.table) : t.ids s = some (t.table.index s) := by
  rw [t.in_step, if_pos hs]

theorem ids_eq_none_iff : t.ids s = none ↔ s ∉ t.table := by
  by_cases hs : s ∈ t.table <;> simp [t.in_step, hs]

end

/-- Put a new set at the end of the table, and its index into the map. -/
def insert (t : Interner) (s : Charset) (hnew : t.ids s = none) : Interner where
  table := t.table ++ [s]
  ids u := if u = s then some t.table.length else t.ids u
  in_step u := by
    have hs : s ∉ t.table := t.ids_eq_none_iff.1 hnew
    by_cases hu : u = s
    · simp [hu, ClassTable.index, List.idxOf_append, hs]
    · by_cases hmem : u ∈ t.table <;>
        simp [hu, t.in_step, hmem, ClassTable.index, List.idxOf_append]

/-- The index of a set, and the table with an entry for it. -/
def intern (t : Interner) (s : Charset) : Nat × Interner :=
  match hs : t.ids s with
  | some index => (index, t)
  | none => (t.table.length, t.insert s hs)

/-- The table decides what the map knows. -/
@[ext] theorem ext {t t' : Interner} (h : t.table = t'.table) : t = t' := by
  obtain ⟨table, ids, hids⟩ := t
  obtain ⟨table', ids', hids'⟩ := t'
  obtain rfl : table = table' := h
  obtain rfl : ids = ids' := funext fun s => (hids s).trans (hids' s).symm
  rfl

instance : DecidableEq Interner := fun _ _ => decidable_of_iff _ Interner.ext_iff.symm

section
variable (t : Interner) (s : Charset)

theorem intern_of_mem (hs : s ∈ t.table) : t.intern s = (t.table.index s, t) := by
  have hids := t.ids_of_mem hs
  rw [intern]
  split
  · rename_i index hindex
    rw [Option.some.inj (hids.symm.trans hindex)]
  · rename_i hnone
    cases hids.symm.trans hnone

theorem intern_of_not_mem (hs : s ∉ t.table) :
    t.intern s = (t.table.length, t.insert s (t.ids_eq_none_iff.2 hs)) := by
  have hids := t.ids_eq_none_iff.2 hs
  rw [intern]
  split
  · rename_i index hindex
    cases hids.symm.trans hindex
  · rfl

/-- The map has the index that a search of the table finds. -/
theorem fst_intern : (t.intern s).1 = t.table.index s := by
  by_cases hs : s ∈ t.table
  · rw [t.intern_of_mem s hs]
  · rw [t.intern_of_not_mem s hs, ClassTable.index, List.idxOf_eq_length hs]

/-- The table gets an entry for the set, unless it has one. -/
theorem table_intern : (t.intern s).2.table = t.table.intern s := by
  by_cases hs : s ∈ t.table
  · rw [t.intern_of_mem s hs, ClassTable.intern_of_mem hs]
  · rw [t.intern_of_not_mem s hs, ClassTable.intern_of_not_mem hs]
    rfl

end

end Interner
end DeviceRegex
