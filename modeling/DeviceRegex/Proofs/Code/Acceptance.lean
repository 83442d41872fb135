import DeviceRegex.Proofs.Charset.Folding
import DeviceRegex.Proofs.Code.Classes

/-!
# What literals and sets accept

A literal is written as an instruction with its code point, or with the set of its cases;
a set as an instruction that refers to its entry in the class table. What such an
instruction accepts depends on the leaf and the flags only, wherever the leaf stands: the
same for a literal as for the set of one character, and for a negated set all that the set
does not accept.

## Main definitions

* `Instruction.accepts table i d` — the character passes the test of the instruction.
* `Leaf.IsWrittenAs flags table i l` — the instruction stands at the place of the leaf in
  the code of some tree, which has the class table.
* `Flags.MatchesSet flags items d` — what a set of items matches under the flags.
* `Flags.storedSet flags items` — the set that is stored for it.
* `Flags.FoldsExactly` — literals and sets accept what the flags ask for.
-/
namespace DeviceRegex

/-- Whether a character passes the test that the instruction of a literal or of a set makes
of it. -/
def Instruction.accepts (table : ClassTable) (i : Instruction) (d : Char) : Bool :=
  match i.opcode? with
  | some .char => i.b.toNat == d.toNat
  | some .inClass => table[i.a.toNat]?.any (·.contains d)
  | some .notInClass => table[i.a.toNat]?.any (!·.contains d)
  | _ => false

/-- Some tree is assembled under the flags to code that has the instruction at the place of
the leaf, and the class table. -/
def Leaf.IsWrittenAs (flags : Flags) (table : ClassTable) (i : Instruction) (l : Leaf) : Prop :=
  ∃ (root : Node) (d : Draft) (pc : Nat), assemble? flags root = some d ∧
    root.origins[pc]? = some (.leaf l) ∧ d.code[pc]? = some i ∧ d.table = table

/-- A set of items matches the character: in some case, if case is ignored. -/
def Flags.MatchesSet (flags : Flags) (items : List SetItem) (d : Char) : Prop :=
  if flags.has .ignorecase then MatchesSomeCase (flags.has .ascii) items d
  else ∃ item ∈ items, item.contains (flags.has .ascii) d

/-- The set that is stored for a set of items. -/
def Flags.storedSet (flags : Flags) (items : List SetItem) : Charset :=
  ⟨if flags.has .ignorecase then foldCases items else items, flags.has .ascii⟩

/-- Literals and sets are written as instructions that accept what the flags ask for. -/
structure Flags.FoldsExactly (flags : Flags) : Prop where
  exists_written : ∀ l : Leaf, ∃ table i, l.IsWrittenAs flags table i
  /-- In a compiled pattern, every leaf is written so. -/
  of_compile : ∀ {pattern capture} {c : Compiled} {p : Pattern} {pc : Nat} {l : Leaf},
    Compiled.compile pattern flags capture = .ok c → Pattern.parse capture pattern = .ok p →
      p.root.origins[pc]? = some (.leaf l) →
        ∃ i, c.code[pc]? = some i ∧ l.IsWrittenAs flags c.classes i
  /-- The entry of a set contains what the set matches, whether or not it is negated. -/
  entry : ∀ {items negated table i}, (Leaf.set items negated).IsWrittenAs flags table i →
    ∃ s, table[i.a.toNat]? = some s ∧ ∀ d, s.contains d ↔ flags.MatchesSet items d
  /-- A set accepts what its entry contains. -/
  accepts_iff : ∀ {items table i}, (Leaf.set items false).IsWrittenAs flags table i →
    ∀ d, i.accepts table d ↔ flags.MatchesSet items d
  /-- A negated set has the entry of the set and accepts all that the set does not. -/
  complement : ∀ {items table i table' j}, (Leaf.set items false).IsWrittenAs flags table i →
    (Leaf.set items true).IsWrittenAs flags table' j →
      table'[j.a.toNat]? = table[i.a.toNat]? ∧ (table' = table → j.a = i.a) ∧
        ∀ d, j.accepts table' d = !i.accepts table d
  /-- A literal accepts what the set of its character accepts. -/
  literal : ∀ {c table i table' j}, (Leaf.char c).IsWrittenAs flags table i →
    (Leaf.set [.char c] false).IsWrittenAs flags table' j →
      ∀ d, i.accepts table d = j.accepts table' d

/-! ## Stored sets -/

/-- The set that is stored matches what the items match under the flags. -/
theorem Flags.contains_storedSet (flags : Flags) (items : List SetItem) (d : Char) :
    (flags.storedSet items).contains d ↔ flags.MatchesSet items d := by
  rw [MatchesSet, storedSet, Charset.contains]
  split
  · exact any_contains_foldCases (flags.has .ascii) d items
  · exact List.any_eq_true

/-! ## Instructions -/

namespace Instruction
variable {table : ClassTable} {i : Instruction}

theorem eq_of_letter?_eq_plain {j : Instruction} (h : i.letter? table = some (.plain j)) :
    i = j := by
  rw [letter?] at h
  split at h <;> simp_all

/-- The instruction for a code point accepts one character. -/
theorem accepts_char (table : ClassTable) (c d : Char) :
    (make .char 0 c.toNat).accepts table d ↔ d = c := by
  simp only [accepts, opcode?_make, toNat_b_make_char, beq_iff_eq, Char.toNat_inj]
  exact eq_comm

/-- An instruction that asks for a set refers to an entry with that set, and accepts its
characters or all others. -/
theorem accepts_of_letter?_eq_member {s : Charset} {negated : Bool}
    (h : i.letter? table = some (.member s negated)) :
    table[i.a.toNat]? = some s ∧ ∀ d, i.accepts table d = (s.contains d != negated) := by
  rw [letter?] at h
  simp only [accepts]
  split at h <;> simp_all

end Instruction

/-! ## Leaves -/

/-- The code that is assembled for a tree is that of its layout, if it fits. -/
theorem eq_of_assemble? {flags : Flags} {root : Node} {d : Draft}
    (h : assemble? flags root = some d) :
    root.codeLength + 1 ≤ Engine.maxInstructions ∧ d.code.toList = root.finishedCode flags ∧
      d.table = (root.layout flags 0 []).table := by
  rw [assemble?_eq] at h
  split at h
  · rename_i hroom
    obtain rfl := Option.some.inj h
    exact ⟨hroom, rfl, rfl⟩
  · cases h

namespace Leaf
variable {flags : Flags} {table : ClassTable} {i : Instruction} {l : Leaf}

/-- In the code that is assembled for a tree, every leaf is written at its place. -/
theorem exists_isWrittenAs_of_assemble? {root : Node} {d : Draft} {pc : Nat}
    (hd : assemble? flags root = some d) (hl : root.origins[pc]? = some (.leaf l)) :
    ∃ i, d.code[pc]? = some i ∧ l.IsWrittenAs flags d.table i := by
  obtain ⟨hroom, hcode, -⟩ := eq_of_assemble? hd
  obtain ⟨i, hi, -⟩ : ∃ i, (root.finishedCode flags)[pc]? = some i ∧ _ :=
    Node.exists_gives hroom hl
  rw [← hcode, Array.getElem?_toList] at hi
  exact ⟨i, hi, root, d, pc, hd, hl, hi, rfl⟩

/-- Every leaf is written somewhere: it is a tree of its own. -/
theorem exists_isWrittenAs (flags : Flags) (l : Leaf) : ∃ table i, l.IsWrittenAs flags table i := by
  have hroom : (Node.leaf l).codeLength + 1 ≤ Engine.maxInstructions := by
    rw [Node.codeLength]
    decide
  obtain ⟨d, hd⟩ : ∃ d, assemble? flags (.leaf l) = some d := by
    rw [assemble?_eq, if_pos hroom]
    exact ⟨_, rfl⟩
  have hplace : (Node.leaf l).origins[0]? = some (.leaf l) := rfl
  obtain ⟨i, -, hi⟩ := exists_isWrittenAs_of_assemble? hd hplace
  exact ⟨d.table, i, hi⟩

/-- In a compiled pattern, every leaf is written at its place. -/
theorem exists_isWrittenAs_of_compile {pattern : List Char} {capture : CaptureMode} {c : Compiled}
    {p : Pattern} {pc : Nat} (h : Compiled.compile pattern flags capture = .ok c)
    (hp : Pattern.parse capture pattern = .ok p) (hl : p.root.origins[pc]? = some (.leaf l)) :
    ∃ i, c.code[pc]? = some i ∧ l.IsWrittenAs flags c.classes i := by
  simp only [Compiled.compile, hp] at h
  cases hd : assemble? flags p.root with
  | none =>
    rw [hd] at h
    cases h
  | some d =>
    rw [hd] at h
    obtain rfl := Except.ok.inj h
    obtain ⟨i, hi, hwritten⟩ := exists_isWrittenAs_of_assemble? hd hl
    exact ⟨i, by rwa [← Array.getElem?_toList] at hi, hwritten⟩

/-- What a leaf is written as asks for the letter of the leaf, and the class table has no
set twice. -/
theorem IsWrittenAs.letter? (h : l.IsWrittenAs flags table i) :
    i.letter? table = some (l.letter flags) ∧ table.Nodup := by
  obtain ⟨root, d, pc, hd, hl, hi, rfl⟩ := h
  obtain ⟨hroom, hcode, htable⟩ := eq_of_assemble? hd
  rw [htable]
  refine ⟨?_, root.nodup_table flags⟩
  obtain ⟨j, hj, hgives⟩ : ∃ j, (root.finishedCode flags)[pc]? = some j ∧
      (Origin.leaf l).Gives flags (root.layout flags 0 []).table j := Node.exists_gives hroom hl
  rw [← hcode, Array.getElem?_toList, hi] at hj
  obtain rfl := Option.some.inj hj
  cases hgives with
  | leaf asks => exact asks

/-- A literal accepts the character, and its other cases if case is ignored. -/
theorem IsWrittenAs.accepts_char {c : Char} (h : (char c).IsWrittenAs flags table i) (d : Char) :
    i.accepts table d ↔ if flags.has .ignorecase then IsCaseOf c d else d = c := by
  have hletter := h.letter?.1
  rw [letter] at hletter
  by_cases hcases : flags.has .ignorecase && decide (1 < (letterCases c).length)
  · rw [if_pos hcases] at hletter
    rw [(Instruction.accepts_of_letter?_eq_member hletter).2 d, Bool.bne_false]
    obtain ⟨hignore, -⟩ := Bool.and_eq_true_iff.1 hcases
    rw [if_pos hignore, ← mem_letterCases_iff]
    simp [Charset.contains, SetItem.contains]
  · rw [if_neg hcases] at hletter
    rw [Instruction.eq_of_letter?_eq_plain hletter, Instruction.accepts_char]
    split
    · rename_i hignore
      rw [isCaseOf_iff_eq]
      simpa [hignore] using hcases
    · exact Iff.rfl

/-- A set refers to an entry with the set that is stored for it, and accepts what is in it,
or all else. -/
theorem IsWrittenAs.accepts_set {items : List SetItem} {negated : Bool}
    (h : (set items negated).IsWrittenAs flags table i) :
    table[i.a.toNat]? = some (flags.storedSet items) ∧
      ∀ d, i.accepts table d = ((flags.storedSet items).contains d != negated) :=
  Instruction.accepts_of_letter?_eq_member h.letter?.1

end Leaf

/-- **Case folding is exact, and literals agree with sets.** The set that is stored for a
set of items matches what the flags ask for, a negated set shares it and accepts all else,
and a literal accepts what the set of one character accepts. -/
theorem Flags.foldsExactly (flags : Flags) : flags.FoldsExactly where
  exists_written l := l.exists_isWrittenAs flags
  of_compile := Leaf.exists_isWrittenAs_of_compile
  entry h := ⟨_, h.accepts_set.1, flags.contains_storedSet _⟩
  accepts_iff h d := by
    rw [h.accepts_set.2, Bool.bne_false]
    exact flags.contains_storedSet _ d
  complement {items table i table' j} h h' := by
    obtain ⟨hentry, haccepts⟩ := h.accepts_set
    obtain ⟨hentry', haccepts'⟩ := h'.accepts_set
    refine ⟨by rw [hentry, hentry'], ?_, fun d => ?_⟩
    · rintro rfl
      have hnodup := h.letter?.2
      apply BitVec.eq_of_toNat_eq
      rw [← ClassTable.index_eq_of_getElem?_eq_some hnodup hentry,
        ← ClassTable.index_eq_of_getElem?_eq_some hnodup hentry']
    · rw [haccepts, haccepts', Bool.bne_false, Bool.bne_true]
  literal {c table i table' j} h h' d := by
    rw [Bool.eq_iff_iff, h.accepts_char, h'.accepts_set.2, Bool.bne_false,
      flags.contains_storedSet, MatchesSet, matchesSomeCase_char]
    simp [SetItem.contains]

end DeviceRegex
