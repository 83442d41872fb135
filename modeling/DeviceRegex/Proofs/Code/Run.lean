import DeviceRegex.Code.Compiled
import DeviceRegex.Proofs.Code.Trace

/-!
# Runs of the engine

The engine follows the code from an instruction to the next, or to the targets of a
branch. A run is a path to an instruction that reports a match.

## Main definitions

* `Instruction.letter?` — what an instruction asks of the text.
* `Step`, `Path` — one step through the code, and any number of steps.
* `runs code table pc` — the traces of the runs from `pc`.
* `Compiled.traces` — the traces of the runs of a program.
-/
open scoped Pointwise

namespace DeviceRegex

/-- What an instruction asks of the text at the place of a thread. A class stands for the
set that it selects from the table. Splits, jumps and the report of a match ask for
nothing. -/
def Instruction.letter? (table : ClassTable) (i : Instruction) : Option Letter :=
  match i.opcode? with
  | none | some .split | some .jump | some .accept => none
  | some .inClass => table[i.a.toNat]?.map (.member · false)
  | some .notInClass => table[i.a.toNat]?.map (.member · true)
  | some _ => some (.plain i)

/-- One step through the code, and its trace. -/
inductive Step (code : List Instruction) (table : ClassTable) : Nat → Trace → Nat → Prop where
  | jump {pc : Nat} {i : Instruction} (at_pc : code[pc]? = some i)
      (op : i.opcode? = some .jump) : Step code table pc 1 i.a.toNat
  | preferred {pc : Nat} {i : Instruction} (at_pc : code[pc]? = some i)
      (op : i.opcode? = some .split) : Step code table pc (.choice false) i.a.toNat
  | otherwise {pc : Nat} {i : Instruction} (at_pc : code[pc]? = some i)
      (op : i.opcode? = some .split) : Step code table pc (.choice true) i.b.toNat
  | letter {pc : Nat} {i : Instruction} {l : Letter} (at_pc : code[pc]? = some i)
      (asks : i.letter? table = some l) : Step code table pc (.letter l) (pc + 1)

/-- Any number of steps through the code, and their trace. -/
inductive Path (code : List Instruction) (table : ClassTable) : Nat → Trace → Nat → Prop where
  | here (pc : Nat) : Path code table pc 1 pc
  | step {pc next last : Nat} {t u : Trace} (first : Step code table pc t next)
      (rest : Path code table next u last) : Path code table pc (t * u) last

/-- The traces of the paths from `pc` to an instruction that reports a match. -/
def runs (code : List Instruction) (table : ClassTable) (pc : Nat) : Set Trace :=
  {t | ∃ last i, Path code table pc t last ∧ code[last]? = some i ∧ i.opcode? = some .accept}

/-- The traces of the runs of a program. -/
def Compiled.traces (c : Compiled) : Set Trace := runs c.code c.classes c.start

section
variable {code : List Instruction} {table : ClassTable} {pc : Nat} {i : Instruction}

theorem Path.single {next : Nat} {t : Trace} (h : Step code table pc t next) :
    Path code table pc t next := by
  simpa using Path.step h (.here next)

theorem Path.trans {mid last : Nat} {t u : Trace} (h : Path code table pc t mid)
    (h' : Path code table mid u last) : Path code table pc (t * u) last := by
  induction h with
  | here => simpa using h'
  | step first _ ih =>
    rw [mul_assoc]
    exact .step first (ih h')

/-! ## One step of a run -/

/-- A run is at its end, or makes a step. -/
theorem mem_runs_iff (hi : code[pc]? = some i) (t : Trace) :
    t ∈ runs code table pc ↔
      (i.opcode? = some .accept ∧ t = 1) ∨
        ∃ u next v, Step code table pc u next ∧ v ∈ runs code table next ∧ t = u * v := by
  constructor
  · rintro ⟨last, j, hpath, hj, hop⟩
    cases hpath with
    | here =>
      obtain rfl : i = j := Option.some.inj (hi.symm.trans hj)
      exact .inl ⟨hop, rfl⟩
    | step first rest => exact .inr ⟨_, _, _, first, ⟨last, j, rest, hj, hop⟩, rfl⟩
  · rintro (⟨hop, rfl⟩ | ⟨u, next, v, first, ⟨last, j, rest, hj, hop⟩, rfl⟩)
    · exact ⟨pc, i, .here pc, hi, hop⟩
    · exact ⟨last, j, .step first rest, hj, hop⟩

theorem runs_accept (hi : code[pc]? = some i) (hop : i.opcode? = some .accept) :
    runs code table pc = 1 := by
  ext t
  rw [mem_runs_iff hi]
  constructor
  · rintro (⟨-, rfl⟩ | ⟨u, next, v, hstep, -, -⟩)
    · rfl
    · cases hstep <;> simp_all [Instruction.letter?]
  · intro ht
    exact .inl ⟨hop, ht⟩

theorem runs_jump (hi : code[pc]? = some i) (hop : i.opcode? = some .jump) :
    runs code table pc = runs code table i.a.toNat := by
  ext t
  rw [mem_runs_iff hi]
  constructor
  · rintro (⟨hop', -⟩ | ⟨u, next, v, hstep, hv, rfl⟩)
    · simp_all
    · cases hstep <;> simp_all [Instruction.letter?]
  · intro ht
    exact .inr ⟨1, _, t, .jump hi hop, ht, (one_mul t).symm⟩

theorem runs_split (hi : code[pc]? = some i) (hop : i.opcode? = some .split) :
    runs code table pc =
      {.choice false} * runs code table i.a.toNat ∪ {.choice true} * runs code table i.b.toNat := by
  ext t
  simp only [mem_runs_iff hi, Set.mem_union, Set.singleton_mul, Set.mem_image]
  constructor
  · rintro (⟨hop', -⟩ | ⟨u, next, v, hstep, hv, rfl⟩)
    · simp_all
    · cases hstep with
      | jump at_pc op => simp_all
      | preferred at_pc op =>
        obtain rfl := Option.some.inj (hi.symm.trans at_pc)
        exact .inl ⟨v, hv, rfl⟩
      | otherwise at_pc op =>
        obtain rfl := Option.some.inj (hi.symm.trans at_pc)
        exact .inr ⟨v, hv, rfl⟩
      | letter at_pc asks => simp_all [Instruction.letter?]
  · rintro (⟨v, hv, rfl⟩ | ⟨v, hv, rfl⟩)
    · exact .inr ⟨_, _, v, .preferred hi hop, hv, rfl⟩
    · exact .inr ⟨_, _, v, .otherwise hi hop, hv, rfl⟩

theorem runs_letter {l : Letter} (hi : code[pc]? = some i) (hl : i.letter? table = some l) :
    runs code table pc = {.letter l} * runs code table (pc + 1) := by
  ext t
  simp only [mem_runs_iff hi, Set.singleton_mul, Set.mem_image]
  constructor
  · rintro (⟨hop', -⟩ | ⟨u, next, v, hstep, hv, rfl⟩)
    · simp_all [Instruction.letter?]
    · cases hstep with
      | letter at_pc asks =>
        obtain rfl := Option.some.inj (hi.symm.trans at_pc)
        obtain rfl := Option.some.inj (hl.symm.trans asks)
        exact ⟨v, hv, rfl⟩
      | _ => simp_all [Instruction.letter?]
  · rintro ⟨v, hv, rfl⟩
    exact .inr ⟨_, _, v, .letter hi hl, hv, rfl⟩

end

end DeviceRegex
