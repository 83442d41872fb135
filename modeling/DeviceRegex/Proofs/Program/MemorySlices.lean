import DeviceRegex.Program.WorkingMemory
import Mathlib.Data.Set.Lattice
import Mathlib.Order.CompletePartialOrder
import Mathlib.Order.Interval.Set.Defs

/-!
# The slices of the working memory

The size of the buffer stops at the largest size, while a slice is refused as soon as one
of its bounds is none. Both agree on the bytes that the threads own: every slice lies in
the buffer, each one starts where the one before it ends, and together they fill the
buffer if the last thread has its slice.

## Main definitions

* `WorkingMemory.bytes` — the bytes that a thread owns.
* `WorkingMemory.Tiled` — the slices lie in the buffer side by side.
-/
namespace DeviceRegex

namespace WorkingMemory
variable (m : WorkingMemory)

/-- The bytes that a thread owns: those of its slice, if it has one. -/
def bytes (thread : Size) : Set Nat :=
  {byte | ∃ first last, m.slice? thread = some (first, last) ∧
    first.toNat ≤ byte ∧ byte < last.toNat}

/-- The slices of the threads lie in the buffer, side by side and in the order of the
threads, and fill it if the last thread has one. -/
structure Tiled : Prop where
  /-- A thread has a slice if it exists and its slice ends within the largest size. -/
  isSome_slice?_iff : ∀ thread, (m.slice? thread).isSome ↔
    thread < m.threads ∧
      m.base.toNat + m.perThread.toNat * (thread.toNat + 1) ≤ Size.max
  slice_eq : ∀ thread first last, m.slice? thread = some (first, last) →
    first.toNat = m.base.toNat + m.perThread.toNat * thread.toNat ∧
      last.toNat = m.base.toNat + m.perThread.toNat * (thread.toNat + 1)
  disjoint : ∀ thread thread', thread ≠ thread' → Disjoint (m.bytes thread) (m.bytes thread')
  /-- The slice of a thread starts where that of the thread before it ends. -/
  adjoin : ∀ thread next first last first' last', next.toNat = thread.toNat + 1 →
    m.slice? thread = some (first, last) → m.slice? next = some (first', last') → first' = last
  last_le_total : ∀ thread first last, m.slice? thread = some (first, last) → last ≤ m.total
  toNat_total : m.total.toNat =
    min (m.base.toNat + m.perThread.toNat * m.threads.toNat) Size.max
  total_mono : ∀ threads, m.threads ≤ threads → m.total ≤ { m with threads := threads }.total
  /-- If the last thread has a slice, the slices fill the buffer behind its header. -/
  fill : ∀ thread first last, thread.toNat + 1 = m.threads.toNat →
    m.slice? thread = some (first, last) →
      last = m.total ∧ ⋃ thread, m.bytes thread = Set.Ico m.base.toNat m.total.toNat

variable {m} {thread thread' first last first' last' : Size}

/-! ## Single slices -/

/-- A slice is found exactly at the multiples of the size of a slice, as far as they are
sizes. -/
theorem slice?_eq_some_iff :
    m.slice? thread = some (first, last) ↔
      thread < m.threads ∧
        first.toNat = m.base.toNat + m.perThread.toNat * thread.toNat ∧
        last.toNat = m.base.toNat + m.perThread.toNat * (thread.toNat + 1) := by
  rw [slice?, Nat.mul_succ]
  by_cases hthread : m.threads ≤ thread
  · have hnot : ¬thread < m.threads := UInt64.not_lt.2 hthread
    simp [hthread, hnot]
  · have hlt : thread < m.threads := UInt64.not_le.1 hthread
    simp only [if_neg hthread, hlt, true_and, Option.bind_eq_some_iff, Size.mul?, Size.add?,
      Size.ofNat?_eq_some_iff, Option.pure_def, Option.bind_eq_bind, Option.some.injEq,
      Prod.mk.injEq]
    constructor
    · rintro ⟨offset, hoffset, start, hstart, stop, hstop, rfl, rfl⟩
      omega
    · rintro ⟨hfirst, hlast⟩
      -- the offset is a size because it does not exceed the start of the slice
      have hsize := last.toNat_le_max
      have hoffset : (Size.saturate (m.perThread.toNat * thread.toNat)).toNat =
          m.perThread.toNat * thread.toNat := by
        rw [Size.toNat_saturate]
        omega
      exact ⟨_, hoffset, first, by omega, last, by omega, rfl, rfl⟩

theorem exists_slice? (hthread : thread < m.threads)
    (hsize : m.base.toNat + m.perThread.toNat * (thread.toNat + 1) ≤ Size.max) :
    ∃ first last, m.slice? thread = some (first, last) := by
  have hle : m.perThread.toNat * thread.toNat ≤ m.perThread.toNat * (thread.toNat + 1) :=
    Nat.mul_le_mul_left _ (Nat.le_succ _)
  refine ⟨Size.saturate (m.base.toNat + m.perThread.toNat * thread.toNat),
    Size.saturate (m.base.toNat + m.perThread.toNat * (thread.toNat + 1)),
    slice?_eq_some_iff.2 ⟨hthread, ?_, ?_⟩⟩
  · rw [Size.toNat_saturate]
    omega
  · rw [Size.toNat_saturate]
    omega

/-- The slice of an earlier thread ends before that of a later one starts. -/
theorem last_le_first (hlt : thread.toNat < thread'.toNat)
    (h : m.slice? thread = some (first, last)) (h' : m.slice? thread' = some (first', last')) :
    last.toNat ≤ first'.toNat := by
  obtain ⟨-, -, hlast⟩ := slice?_eq_some_iff.1 h
  obtain ⟨-, hfirst', -⟩ := slice?_eq_some_iff.1 h'
  have hle : m.perThread.toNat * (thread.toNat + 1) ≤ m.perThread.toNat * thread'.toNat :=
    Nat.mul_le_mul_left _ hlt
  omega

theorem not_mem_bytes_of_lt {byte : Nat} (hlt : thread.toNat < thread'.toNat)
    (hbyte : byte ∈ m.bytes thread) : byte ∉ m.bytes thread' := by
  rintro ⟨first', last', h', hfirst', -⟩
  obtain ⟨first, last, h, -, hlast⟩ := hbyte
  have hle := last_le_first hlt h h'
  omega

theorem disjoint_bytes (hne : thread ≠ thread') : Disjoint (m.bytes thread) (m.bytes thread') := by
  rw [Set.disjoint_left]
  intro byte hbyte hbyte'
  rcases Nat.lt_or_gt_of_ne fun h => hne (UInt64.toNat_inj.1 h) with hlt | hgt
  · exact not_mem_bytes_of_lt hlt hbyte hbyte'
  · exact not_mem_bytes_of_lt hgt hbyte' hbyte

/-! ## The buffer -/

theorem toNat_total_eq (m : WorkingMemory) :
    m.total.toNat = min (m.base.toNat + m.perThread.toNat * m.threads.toNat) Size.max := by
  rw [total, Size.toNat_satAdd, Size.toNat_satMul]
  omega

theorem total_le_total {threads : Size} (h : m.threads ≤ threads) :
    m.total ≤ { m with threads := threads }.total := by
  have hle := Nat.mul_le_mul_left m.perThread.toNat (UInt64.le_iff_toNat_le.1 h)
  rw [UInt64.le_iff_toNat_le, toNat_total_eq, toNat_total_eq]
  dsimp only
  omega

theorem slice_last_le_total (h : m.slice? thread = some (first, last)) : last ≤ m.total := by
  obtain ⟨hthread, -, hlast⟩ := slice?_eq_some_iff.1 h
  have hle : m.perThread.toNat * (thread.toNat + 1) ≤ m.perThread.toNat * m.threads.toNat :=
    Nat.mul_le_mul_left _ (UInt64.lt_iff_toNat_lt.1 hthread)
  have hsize := last.toNat_le_max
  rw [UInt64.le_iff_toNat_le, toNat_total_eq]
  omega

theorem eq_total_of_last (hthread : thread.toNat + 1 = m.threads.toNat)
    (h : m.slice? thread = some (first, last)) : last = m.total := by
  obtain ⟨-, -, hlast⟩ := slice?_eq_some_iff.1 h
  have hsize := last.toNat_le_max
  rw [hthread] at hlast
  rw [← UInt64.toNat_inj, toNat_total_eq]
  omega

/-- A byte of the buffer belongs to the thread whose number is the quotient of its distance
from the header and the size of a slice. -/
theorem exists_mem_bytes (htotal : m.base.toNat + m.perThread.toNat * m.threads.toNat ≤ Size.max)
    {byte : Nat} (hbase : m.base.toNat ≤ byte)
    (hbyte : byte < m.base.toNat + m.perThread.toNat * m.threads.toNat) :
    ∃ thread, byte ∈ m.bytes thread := by
  have hpos : 0 < m.perThread.toNat := by
    by_contra hzero
    rw [Nat.eq_zero_of_not_pos hzero] at hbyte
    omega
  obtain ⟨index, hquotient⟩ : ∃ index, index = (byte - m.base.toNat) / m.perThread.toNat := ⟨_, rfl⟩
  have hlower : m.perThread.toNat * index ≤ byte - m.base.toNat :=
    hquotient ▸ Nat.mul_div_le _ _
  have hupper : byte - m.base.toNat < m.perThread.toNat * (index + 1) :=
    hquotient ▸ Nat.lt_mul_div_succ _ hpos
  have hindex : index < m.threads.toNat := by
    rw [hquotient]
    apply Nat.div_lt_of_lt_mul
    omega
  have hthread : (Size.saturate index).toNat = index := by
    have hsize := m.threads.toNat_le_max
    rw [Size.toNat_saturate]
    omega
  have hlt : Size.saturate index < m.threads := by rwa [UInt64.lt_iff_toNat_lt, hthread]
  have hle : m.perThread.toNat * (index + 1) ≤ m.perThread.toNat * m.threads.toNat :=
    Nat.mul_le_mul_left _ hindex
  obtain ⟨first, last, h⟩ := exists_slice? hlt (by rw [hthread]; omega)
  obtain ⟨-, hfirst, hlast⟩ := slice?_eq_some_iff.1 h
  rw [hthread] at hfirst hlast
  exact ⟨_, first, last, h, by omega, by omega⟩

theorem iUnion_bytes (hthread : thread.toNat + 1 = m.threads.toNat)
    (h : m.slice? thread = some (first, last)) :
    ⋃ thread, m.bytes thread = Set.Ico m.base.toNat m.total.toNat := by
  obtain ⟨-, -, hlast⟩ := slice?_eq_some_iff.1 h
  rw [hthread] at hlast
  have hsize := last.toNat_le_max
  have htotal := toNat_total_eq m
  ext byte
  simp only [Set.mem_iUnion, Set.mem_Ico]
  constructor
  · rintro ⟨owner, first', last', h', hfirst', hlast'⟩
    obtain ⟨-, hstart, -⟩ := slice?_eq_some_iff.1 h'
    have hend := UInt64.le_iff_toNat_le.1 (slice_last_le_total h')
    omega
  · rintro ⟨hbase, hbyte⟩
    exact exists_mem_bytes (by omega) hbase (by omega)

/-- **The slices tile the buffer.** However large header, slices and number of threads are,
the threads own disjoint slices of the buffer side by side, those exist that end within
the largest size, and all of them fill the buffer if the last one exists. -/
theorem slices_tile (m : WorkingMemory) : m.Tiled where
  isSome_slice?_iff thread := by
    rw [Option.isSome_iff_exists]
    constructor
    · rintro ⟨⟨first, last⟩, h⟩
      obtain ⟨hthread, -, hlast⟩ := slice?_eq_some_iff.1 h
      exact ⟨hthread, hlast ▸ last.toNat_le_max⟩
    · rintro ⟨hthread, hsize⟩
      obtain ⟨first, last, h⟩ := exists_slice? hthread hsize
      exact ⟨(first, last), h⟩
  slice_eq thread first last h := (slice?_eq_some_iff.1 h).2
  disjoint thread thread' := disjoint_bytes
  adjoin thread next first last first' last' hnext h h' := by
    obtain ⟨-, -, hlast⟩ := slice?_eq_some_iff.1 h
    obtain ⟨-, hfirst', -⟩ := slice?_eq_some_iff.1 h'
    rw [hnext] at hfirst'
    exact UInt64.toNat_inj.1 (hfirst'.trans hlast.symm)
  last_le_total thread first last := slice_last_le_total
  toNat_total := m.toNat_total_eq
  total_mono threads := total_le_total
  fill thread first last hthread h := ⟨eq_total_of_last hthread h, iUnion_bytes hthread h⟩

/-- Of three threads whose buffer would be too large by one byte, the last one has no
slice. -/
example : (⟨1, 0x5555555555555555, 3⟩ : WorkingMemory).slice? 2 = none ∧
    (⟨1, 0x5555555555555555, 3⟩ : WorkingMemory).slice? 1 =
      some (0x5555555555555556, 0xaaaaaaaaaaaaaaab) ∧
    (⟨1, 0x5555555555555555, 3⟩ : WorkingMemory).total = 0xffffffffffffffff := by
  decide

end WorkingMemory
end DeviceRegex
