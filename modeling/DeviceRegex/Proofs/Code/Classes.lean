import DeviceRegex.Proofs.Code.Origin

/-!
# The class table of a program

A program has every set once in its class table, and has no set that no instruction
refers to. The entries stand in the order in which the code first refers to them, so
a reader of the code meets their indices in order.

## Main definitions

* `Compiled.classOperands` — the operands of the class instructions, in order.
* `Compiled.CanonicalClasses` — the class table has what the code of a tree needs, in order.
-/
namespace DeviceRegex

/-- The operand of an instruction that refers to the class table. -/
def Instruction.classOperand? (i : Instruction) : Option Nat :=
  match i.opcode? with
  | some .inClass | some .notInClass => some i.a.toNat
  | _ => none

namespace Compiled

/-- The operands that refer to the class table, in the order of the code. -/
def classOperands (c : Compiled) : List Nat := c.code.filterMap Instruction.classOperand?

/-- The operand at a place, if it refers to the class table. -/
def classOperandAt? (c : Compiled) (pc : Nat) : Option Nat :=
  c.code[pc]?.bind Instruction.classOperand?

/-- The class table is the one for the code of a tree, without a needless entry and in
the order of the code. -/
structure CanonicalClasses (c : Compiled) (root : Node) : Prop where
  nodup : c.classes.Nodup
  ascii_eq : ∀ s ∈ c.classes, s.ascii = c.flags.has .ascii
  /-- An operand has been seen before, or it is the first one behind those that have. -/
  in_order : ∀ seen n rest, c.classOperands = seen ++ n :: rest →
    n ∈ seen ∨ n = ClassTable.nextIndex seen
  all_used : ∀ n < c.classes.length, n ∈ c.classOperands
  /-- The instructions that refer to the table are those of the leaves that ask for a set,
  and each one refers to the set of its leaf. -/
  selects_iff : ∀ pc n, c.classOperandAt? pc = some n ↔
    ∃ l s, root.origins[pc]? = some (.leaf l) ∧ l.charset? c.flags = some s ∧
      c.classes[n]? = some s
  /-- Two instructions refer to one entry exactly if their leaves ask for one set. -/
  shared_iff : ∀ pc pc' n n' l l', c.classOperandAt? pc = some n →
    c.classOperandAt? pc' = some n' → root.origins[pc]? = some (.leaf l) →
    root.origins[pc']? = some (.leaf l') →
    (n = n' ↔ l.charset? c.flags = l'.charset? c.flags)

end Compiled

/-! ## Class instructions and their leaves -/

namespace Instruction
variable {table : ClassTable} {i : Instruction}

/-- An instruction that stands alone does not refer to the table. -/
theorem classOperand?_of_letter?_eq_plain {j : Instruction}
    (h : i.letter? table = some (.plain j)) : i.classOperand? = none := by
  rw [letter?] at h
  rw [classOperand?]
  split at h <;> simp_all

/-- An instruction that asks for a set refers to an entry with that set. -/
theorem classOperand?_of_letter?_eq_member {s : Charset} {negated : Bool}
    (h : i.letter? table = some (.member s negated)) :
    ∃ n, i.classOperand? = some n ∧ table[n]? = some s := by
  rw [letter?] at h
  rw [classOperand?]
  split at h <;> simp_all

end Instruction

namespace Origin.Gives
variable {flags : Flags} {table : ClassTable} {o : Origin} {i : Instruction}

/-- An instruction refers to the table exactly if its part of the tree asks for a set, and
then to an entry with that set. -/
theorem classOperand?_cases (h : o.Gives flags table i) :
    (i.classOperand? = none ∧ o.charset? flags = none) ∨
      ∃ n s, i.classOperand? = some n ∧ o.charset? flags = some s ∧ table[n]? = some s := by
  cases h with
  | @leaf l i asks =>
    change _ ∧ l.charset? flags = none ∨ ∃ n s, _ ∧ l.charset? flags = some s ∧ _
    rw [Leaf.charset?]
    cases hl : l.letter flags with
    | plain j =>
      rw [hl] at asks
      exact .inl ⟨Instruction.classOperand?_of_letter?_eq_plain asks, rfl⟩
    | member s negated =>
      rw [hl] at asks
      obtain ⟨n, hn, hentry⟩ := Instruction.classOperand?_of_letter?_eq_member asks
      exact .inr ⟨n, s, hn, rfl, hentry⟩
  | opening index => exact .inl ⟨by simp [Instruction.classOperand?], rfl⟩
  | closing index => exact .inl ⟨by simp [Instruction.classOperand?], rfl⟩
  | split a b => exact .inl ⟨by simp [Instruction.classOperand?], rfl⟩
  | jump a => exact .inl ⟨by simp [Instruction.classOperand?], rfl⟩

theorem exists_leaf (h : o.Gives flags table i) {n : Nat} (hn : i.classOperand? = some n) :
    ∃ l s, o = .leaf l ∧ l.charset? flags = some s ∧ table[n]? = some s := by
  rcases h.classOperand?_cases with ⟨hnone, -⟩ | ⟨n', s, hn', hs, hentry⟩
  · rw [hnone] at hn
    cases hn
  · obtain rfl : n' = n := Option.some.inj (hn'.symm.trans hn)
    obtain ⟨l, rfl, hl⟩ := eq_leaf_of_charset? hs
    exact ⟨l, s, rfl, hl, hentry⟩

/-- The operand of an instruction is the index of the set that its part asks for. -/
theorem classOperand?_eq (h : o.Gives flags table i) (htable : table.Nodup) :
    i.classOperand? = (o.charset? flags).map table.index := by
  rcases h.classOperand?_cases with ⟨hi, ho⟩ | ⟨n, s, hi, ho, hentry⟩
  · rw [hi, ho, Option.map_none]
  · rw [hi, ho, Option.map_some, ClassTable.index_eq_of_getElem?_eq_some htable hentry]

/-- The operands of instructions are the indices of the sets that their parts ask for. -/
theorem filterMap_classOperand? {origins : List Origin} {code : List Instruction}
    (h : List.Forall₂ (Origin.Gives flags table) origins code) (htable : table.Nodup) :
    code.filterMap Instruction.classOperand? = (charsets flags origins).map table.index := by
  rw [charsets, List.map_filterMap]
  induction h with
  | nil => rfl
  | cons hfirst _ ih =>
    rw [List.filterMap_cons, List.filterMap_cons, hfirst.classOperand?_eq htable, ih]

end Origin.Gives

theorem Origin.ascii_of_mem_charsets {flags : Flags} {origins : List Origin} {s : Charset}
    (hs : s ∈ charsets flags origins) : s.ascii = flags.has .ascii := by
  obtain ⟨o, -, ho⟩ := List.mem_filterMap.1 hs
  obtain ⟨l, -, hl⟩ := eq_leaf_of_charset? ho
  exact Leaf.ascii_of_charset? hl

/-! ## Programs -/

section
variable {flags : Flags} {root : Node}

/-- The class table of a tree has the sets of its parts. -/
theorem Node.table_layout (flags : Flags) (root : Node) :
    (root.layout flags 0 []).table = .internAll [] (Origin.charsets flags root.origins) :=
  (root.stemsFrom flags).table_eq 0 []

theorem Node.nodup_table (flags : Flags) (root : Node) :
    (root.layout flags 0 []).table.Nodup := by
  rw [table_layout]
  exact ClassTable.nodup_internAll List.nodup_nil _

/-- The operands of finished code are the indices of the sets of the parts. -/
theorem Node.filterMap_classOperand? (hroom : root.codeLength + 1 ≤ Engine.maxInstructions) :
    (root.finishedCode flags).filterMap Instruction.classOperand? =
      (Origin.charsets flags root.origins).map (root.layout flags 0 []).table.index := by
  have haccept : (Instruction.make .accept 0 0).classOperand? = none := by
    simp [Instruction.classOperand?]
  rw [finishedCode, List.filterMap_append, List.filterMap_cons_none haccept, List.filterMap_nil,
    List.append_nil]
  exact Origin.Gives.filterMap_classOperand? (gives_layout flags hroom) (root.nodup_table flags)

/-- The instructions of finished code that refer to the table are those of the leaves that
ask for a set, and each one refers to the set of its leaf. -/
theorem Node.bind_classOperand?_eq_some_iff
    (hroom : root.codeLength + 1 ≤ Engine.maxInstructions) (pc n : Nat) :
    (root.finishedCode flags)[pc]?.bind Instruction.classOperand? = some n ↔
      ∃ l s, root.origins[pc]? = some (.leaf l) ∧ l.charset? flags = some s ∧
        (root.layout flags 0 []).table[n]? = some s := by
  constructor
  · intro h
    obtain ⟨i, hi, hn⟩ := Option.bind_eq_some_iff.1 h
    rcases gives_or_accept hroom hi with ⟨o, ho, hgives⟩ | rfl
    · obtain ⟨l, s, rfl, hs, hentry⟩ := hgives.exists_leaf hn
      exact ⟨l, s, ho, hs, hentry⟩
    · simp [Instruction.classOperand?] at hn
  · rintro ⟨l, s, hl, hs, hentry⟩
    obtain ⟨i, hi, hgives⟩ := exists_gives hroom hl
    have hindex := ClassTable.index_eq_of_getElem?_eq_some (root.nodup_table flags) hentry
    rw [hi, Option.bind_some, hgives.classOperand?_eq (root.nodup_table flags)]
    change (l.charset? flags).map _ = _
    rw [hs, Option.map_some, hindex]

end

/-- **The class table is canonical and minimal.** A program that was compiled has the class
table of its tree: every set once, none that is not referred to, in the order in which
the code refers to them, and the same entry exactly for the same set. -/
theorem Compiled.canonicalClasses_of_compile {pattern : List Char} {flags : Flags}
    {capture : CaptureMode} {c : Compiled} (h : compile pattern flags capture = .ok c) :
    ∃ p, Pattern.parse capture pattern = .ok p ∧ c.CanonicalClasses p.root := by
  obtain ⟨p, hp, hroom, hc⟩ := eq_of_compile h
  have hflags : c.flags = flags := by rw [hc]
  have hclasses : c.classes = .internAll [] (Origin.charsets flags p.root.origins) := by
    rw [hc]
    exact p.root.table_layout flags
  have hnodup : c.classes.Nodup := by
    rw [hc]
    exact p.root.nodup_table flags
  have hoperands :
      c.classOperands = (Origin.charsets flags p.root.origins).map c.classes.index := by
    rw [hc]
    exact Node.filterMap_classOperand? hroom
  have hselects (pc n : Nat) : c.classOperandAt? pc = some n ↔
      ∃ l s, p.root.origins[pc]? = some (.leaf l) ∧ l.charset? c.flags = some s ∧
        c.classes[n]? = some s := by
    rw [hc]
    exact Node.bind_classOperand?_eq_some_iff hroom pc n
  refine ⟨p, hp,
    { nodup := hnodup
      ascii_eq := fun s hs => ?_
      in_order := fun seen n rest hsplit => ?_
      all_used := fun n hn => ?_
      selects_iff := hselects
      shared_iff := fun pc pc' n n' l l' hn hn' hl hl' => ?_ }⟩
  · rw [hclasses, ClassTable.mem_internAll_iff] at hs
    rw [hflags]
    exact Origin.ascii_of_mem_charsets (hs.resolve_left List.not_mem_nil)
  · rw [hoperands, List.map_eq_append_iff] at hsplit
    obtain ⟨first, last, hsets, rfl, hlast⟩ := hsplit
    obtain ⟨s, last, rfl, rfl, -⟩ := List.map_eq_cons_iff.1 hlast
    have hindex := ClassTable.index_mem_or_eq_nextIndex first s last
    rw [← hsets, ← hclasses] at hindex
    exact hindex
  · rw [hoperands, ClassTable.mem_map_index_iff _ hnodup, ← hclasses]
    · exact hn
    · rw [← hclasses]
  · obtain ⟨k, s, hk, hs, hentry⟩ := (hselects pc n).1 hn
    obtain ⟨k', s', hk', hs', hentry'⟩ := (hselects pc' n').1 hn'
    obtain rfl : k = l := by simpa [hk] using hl
    obtain rfl : k' = l' := by simpa [hk'] using hl'
    rw [hs, hs', Option.some.injEq]
    constructor
    · rintro rfl
      exact Option.some.inj (hentry.symm.trans hentry')
    · rintro rfl
      rw [← ClassTable.index_eq_of_getElem?_eq_some hnodup hentry,
        ← ClassTable.index_eq_of_getElem?_eq_some hnodup hentry']

/-- A set that is written twice has one entry. -/
theorem Compiled.canonicalClasses_shared :
    ∃ c, compile ['[', 'a', ']', '\\', 'd', '[', 'a', ']'] .none .extract = .ok c ∧
      c.classOperands = [0, 1, 0] ∧
      ∃ p, Pattern.parse .extract ['[', 'a', ']', '\\', 'd', '[', 'a', ']'] = .ok p ∧
        c.CanonicalClasses p.root := by
  have hcompile : compile ['[', 'a', ']', '\\', 'd', '[', 'a', ']'] .none .extract =
      .ok ⟨[.make .inClass 0 0, .make .inClass 1 0, .make .inClass 0 0, .make .accept 0 0],
        [⟨[.char 'a'], false⟩, ⟨[.shorthand .digit], false⟩], 0, .none, .extract⟩ := by
    decide +kernel
  exact ⟨_, hcompile, by decide +kernel, canonicalClasses_of_compile hcompile⟩

end DeviceRegex
