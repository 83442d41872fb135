import DeviceRegex.Charset.ClassTable
import Mathlib.Data.List.Infix
import Mathlib.Data.List.Nodup

/-!
# Interning

A class table is made by interning sets one after the other. It has every set once, it
keeps its entries, and its indices are given out in order: a set that is met for the first
time gets the first index that is not in use.

## Main definitions

* `ClassTable.internAll table sets` — the table after the sets of a list.
* `ClassTable.nextIndex seen` — the first index behind those that are seen.
* `Interner.ofTable table` — a table with the map that is in step with it.
-/
namespace DeviceRegex

/-- A class table, with the map that is in step with it. -/
def Interner.ofTable (table : ClassTable) : Interner :=
  ⟨table, fun s => if s ∈ table then some (table.index s) else none, fun _ => rfl⟩

@[simp] theorem Interner.table_ofTable (table : ClassTable) : (ofTable table).table = table := rfl

@[simp] theorem Interner.ofTable_table (t : Interner) : ofTable t.table = t := Interner.ext rfl

/-- **List and map are in step.** What is asked of the map is what the table says, for any
set and behind any sets. -/
theorem Interner.intern_eq (t : Interner) (s : Charset) :
    t.intern s = (t.table.index s, ofTable (t.table.intern s)) :=
  Prod.ext (t.fst_intern s) (Interner.ext (t.table_intern s))

namespace ClassTable

variable (table : ClassTable) (s : Charset)

theorem prefix_intern : table <+: table.intern s := by
  by_cases h : s ∈ table
  · rw [intern_of_mem h]
  · rw [intern_of_not_mem h]
    exact List.prefix_append table [s]

theorem length_intern_le : (table.intern s).length ≤ table.length + 1 := by
  by_cases h : s ∈ table
  · rw [intern_of_mem h]
    exact Nat.le_succ _
  · rw [intern_of_not_mem h, List.length_append, List.length_singleton]

theorem index_lt_length_intern : table.index s < (table.intern s).length :=
  (List.getElem?_eq_some_iff.1 (getElem?_index_intern table s)).1

theorem mem_intern_iff {t : Charset} : t ∈ table.intern s ↔ t ∈ table ∨ t = s := by
  by_cases h : s ∈ table
  · rw [intern_of_mem h]
    constructor
    · exact .inl
    · rintro (ht | rfl) <;> assumption
  · rw [intern_of_not_mem h, List.mem_append, List.mem_singleton]

theorem nodup_intern {table : ClassTable} (htable : table.Nodup) : (table.intern s).Nodup := by
  by_cases h : s ∈ table
  · rwa [intern_of_mem h]
  · rw [intern_of_not_mem h, ← List.concat_eq_append]
    exact htable.concat h

/-- The table with an entry for every set of a list. -/
def internAll (sets : List Charset) : ClassTable := sets.foldl intern table

@[simp] theorem internAll_nil : table.internAll [] = table := rfl

@[simp] theorem internAll_cons (sets : List Charset) :
    table.internAll (s :: sets) = (table.intern s).internAll sets := rfl

theorem internAll_append (sets sets' : List Charset) :
    table.internAll (sets ++ sets') = (table.internAll sets).internAll sets' := List.foldl_append

theorem prefix_internAll (sets : List Charset) : table <+: table.internAll sets := by
  induction sets generalizing table with
  | nil => exact List.prefix_rfl
  | cons s sets ih => exact (table.prefix_intern s).trans (ih _)

theorem mem_internAll_iff {sets : List Charset} {t : Charset} :
    t ∈ table.internAll sets ↔ t ∈ table ∨ t ∈ sets := by
  induction sets generalizing table with
  | nil => simp
  | cons s sets ih => rw [internAll_cons, ih, mem_intern_iff, List.mem_cons, or_assoc]

theorem nodup_internAll {table : ClassTable} (htable : table.Nodup) (sets : List Charset) :
    (table.internAll sets).Nodup := by
  induction sets generalizing table with
  | nil => exact htable
  | cons s sets ih => exact ih (nodup_intern s htable)

/-! ## Indices in order -/

/-- The first index behind those that are seen: zero at first, and one more than the
largest of them afterwards. -/
def nextIndex (seen : List Nat) : Nat :=
  match seen.max? with
  | none => 0
  | some largest => largest + 1

theorem nextIndex_eq {seen : List Nat} {n : Nat} (h : ∀ m, m ∈ seen ↔ m < n) :
    nextIndex seen = n := by
  cases n with
  | zero =>
    have hseen : seen = [] := List.eq_nil_iff_forall_not_mem.2 fun m hm =>
      Nat.not_lt_zero m ((h m).1 hm)
    rw [hseen]
    rfl
  | succ n =>
    have hmax : seen.max? = some n :=
      List.max?_eq_some_iff.2
        ⟨(h n).2 (Nat.lt_succ_self n), fun m hm => Nat.le_of_lt_succ ((h m).1 hm)⟩
    rw [nextIndex, hmax]

/-- An index in the table is the index of the entry that it selects. -/
theorem index_eq_of_getElem?_eq_some {table : ClassTable} (htable : table.Nodup) {n : Nat}
    {s : Charset} (h : table[n]? = some s) : table.index s = n := by
  obtain ⟨hn, rfl⟩ := List.getElem?_eq_some_iff.1 h
  exact htable.idxOf_getElem n hn

variable {table}

/-- The sets that are interned first have the first indices, without a gap. -/
theorem mem_map_index_iff {seen : List Charset} (hbegins : internAll [] seen <+: table)
    (htable : table.Nodup) (n : Nat) :
    n ∈ seen.map table.index ↔ n < (internAll [] seen).length := by
  rw [List.mem_map]
  constructor
  · rintro ⟨t, ht, rfl⟩
    have hmem : t ∈ internAll [] seen := (mem_internAll_iff []).2 (.inr ht)
    have hindex : table.index t = (internAll [] seen).index t :=
      (hbegins.idxOf_eq_of_mem hmem).symm
    rw [hindex]
    exact List.idxOf_lt_length_of_mem hmem
  · intro hn
    refine ⟨(internAll [] seen)[n], ?_, ?_⟩
    · exact ((mem_internAll_iff []).1 (List.getElem_mem hn)).resolve_left List.not_mem_nil
    · exact index_eq_of_getElem?_eq_some htable (List.prefix_iff_getElem?.1 hbegins n hn)

/-- **Indices are given out in order.** The index of a set has been seen before, or it is
the first one behind those that have. -/
theorem index_mem_or_eq_nextIndex (seen : List Charset) (s : Charset) (rest : List Charset) :
    let table := internAll [] (seen ++ s :: rest)
    table.index s ∈ seen.map table.index ∨ table.index s = nextIndex (seen.map table.index) := by
  intro table
  have htable : table.Nodup := nodup_internAll List.nodup_nil _
  have hwhole : table = ((internAll [] seen).intern s).internAll rest := internAll_append ..
  have hbegins : (internAll [] seen).intern s <+: table := by
    rw [hwhole]
    exact prefix_internAll _ rest
  have hseen : internAll [] seen <+: table := (prefix_intern _ s).trans hbegins
  by_cases hs : s ∈ seen
  · exact .inl (List.mem_map_of_mem hs)
  · have hnew : s ∉ internAll [] seen := by
      rw [mem_internAll_iff]
      exact not_or.2 ⟨List.not_mem_nil, hs⟩
    have hindex : table.index s = (internAll [] seen).length := by
      apply index_eq_of_getElem?_eq_some htable
      rw [intern_of_not_mem hnew] at hbegins
      obtain ⟨_, hrest⟩ := hbegins
      rw [← hrest]
      simp
    rw [hindex]
    exact .inr (nextIndex_eq (mem_map_index_iff hseen htable)).symm

end ClassTable
end DeviceRegex
