import DeviceRegex.Program.Basic

/-!
# Whole and empty programs

A program is made from recognized flags and a pattern that is compiled, or it is not made
at all. From then on it has all of its content or none of it.

## Main definitions

* `Program.IsWhole` — the program has the compiled form of its own pattern.
* `Program.IsVacant` — the program has no content, and all that is known of it is what is
  known of nothing.
-/
namespace DeviceRegex

namespace Program
variable {pattern : String} {flags : Flags} {capture : CaptureMode} {site : CallSite} {p : Program}

/-- The program has the compiled form of its own pattern under its own flags and mode. -/
structure IsWhole (p : Program) : Prop where
  pattern_ne : p.pattern ≠ ""
  recognized : p.flags.unrecognized = 0
  compiled : ∃ c, p.compiled? = some c ∧
    Compiled.compile p.pattern.toList p.flags p.capture = .ok c

/-- The program has no compiled form and nothing that belongs to one. -/
structure IsVacant (p : Program) : Prop where
  compiled?_eq : p.compiled? = none
  pattern_eq : p.pattern = ""
  flags_eq : p.flags = .none
  capture_eq : p.capture = .extract
  instructions_eq : p.instructions = 0
  groups_eq : p.groups = 0
  workingMemorySize_eq : ∀ threads, p.workingMemorySize threads = 0

theorem isVacant_empty : empty.IsVacant where
  compiled?_eq := rfl
  pattern_eq := rfl
  flags_eq := rfl
  capture_eq := rfl
  instructions_eq := rfl
  groups_eq := rfl
  workingMemorySize_eq threads := by
    apply UInt64.toNat_inj.1
    simp [workingMemorySize, workingMemory, empty, WorkingMemory.total, Engine.workingMemoryBase]

theorem IsWhole.isEmpty_eq (h : p.IsWhole) : p.isEmpty = false := by
  obtain ⟨c, hc, -⟩ := h.compiled
  simp [isEmpty, hc]

theorem IsVacant.isEmpty_eq (h : p.IsVacant) : p.isEmpty = true := by
  simp [isEmpty, h.compiled?_eq]

/-- Whether the content was taken shows in the pattern. -/
theorem pattern_eq_iff_isEmpty (h : p.IsWhole ∨ p.IsVacant) : p.pattern = "" ↔ p.isEmpty := by
  rcases h with h | h
  · simp [h.pattern_ne, h.isEmpty_eq]
  · simp [h.pattern_eq, h.isEmpty_eq]

/-! ## Making programs -/

/-- A program is built exactly from recognized flags and a pattern that is not empty and is
compiled. -/
theorem build_eq_ok_iff : build pattern flags capture = .ok p ↔
    flags.unrecognized = 0 ∧ pattern ≠ "" ∧
      ∃ c, Compiled.compile pattern.toList flags capture = .ok c ∧
        p = ⟨pattern, flags, capture, some c⟩ := by
  rw [build]
  by_cases hflags : flags.unrecognized = 0
  · rw [if_neg (not_not_intro hflags)]
    by_cases hpattern : pattern = ""
    · simp [hpattern]
    · cases hcompile : Compiled.compile pattern.toList flags capture with
      | error e => simp [hpattern]
      | ok c =>
        simp only [String.isEmpty_iff, hpattern, if_false, Except.ok.injEq, exists_eq_left']
        exact ⟨fun h => ⟨hflags, hpattern, h.symm⟩, fun h => h.2.2.symm⟩
  · rw [if_pos hflags]
    simp only [hflags, false_and, reduceCtorEq]

/-- Naming the call site of a failure does not change what is made. -/
theorem create_eq_ok_iff : create pattern flags capture site = .ok p ↔
    flags.unrecognized = 0 ∧ pattern ≠ "" ∧
      ∃ c, Compiled.compile pattern.toList flags capture = .ok c ∧
        p = ⟨pattern, flags, capture, some c⟩ := by
  rw [← build_eq_ok_iff, create]
  cases build pattern flags capture with
  | error e => exact ⟨(nomatch ·), (nomatch ·)⟩
  | ok q =>
    constructor
    all_goals
      intro h
      cases h
      rfl

/-- What is made is whole. -/
theorem isWhole_of_create (h : create pattern flags capture site = .ok p) : p.IsWhole := by
  obtain ⟨hflags, hpattern, c, hc, rfl⟩ := create_eq_ok_iff.1 h
  exact ⟨hpattern, hflags, c, rfl, hc⟩

end Program

end DeviceRegex
