import DeviceRegex.Proofs.Code.FlagChoice
import DeviceRegex.Proofs.Code.Operands

/-!
# Relocation

The code of a node is one segment that stands behind all that was written before. Its
branches stay inside the segment or leave it at its end, and where it stands shows in
nothing but the numbers of their targets: counted from the start of the segment, the
targets are the same everywhere.

## Main definitions

* `Instruction.targets` — the places where a branch may continue.
* `Instruction.relativeTo start i` — the instruction with its targets counted from `start`.
* `Layout.Relocatable` — the layout has the same code at every place, if targets are
  counted from there.
-/
namespace DeviceRegex

namespace Instruction

/-- The places where a branch may continue. -/
def targets (i : Instruction) : List Nat :=
  match i.opcode? with
  | some .split => [i.a.toNat, i.b.toNat]
  | some .jump => [i.a.toNat]
  | _ => []

/-- The instruction with its targets counted from `start`. -/
def relativeTo (start : Nat) (i : Instruction) : Instruction :=
  match i.opcode? with
  | some .split => (i.setA (i.a.toNat - start)).setB (i.b.toNat - start)
  | some .jump => i.setA (i.a.toNat - start)
  | _ => i

section
variable {i : Instruction} {start x x' y y' : Nat}

/-- An instruction of a leaf is no branch. -/
theorem opcode?_ne_of_isLeaf (h : i.isLeaf) :
    i.opcode? ≠ some .split ∧ i.opcode? ≠ some .jump := by
  constructor <;> intro hop <;> simp [isLeaf, hop, Opcode.isLeaf] at h

theorem targets_of_isLeaf (h : i.isLeaf) : i.targets = [] := by
  have hne := opcode?_ne_of_isLeaf h
  unfold targets
  split
  · exact absurd ‹_› hne.1
  · exact absurd ‹_› hne.2
  · rfl

/-- Where code stands does not show in its leaves. -/
theorem relativeTo_of_isLeaf (h : i.isLeaf) : i.relativeTo start = i := by
  have hne := opcode?_ne_of_isLeaf h
  unfold relativeTo
  split
  · exact absurd ‹_› hne.1
  · exact absurd ‹_› hne.2
  · rfl

/-- The targets of an instruction that is sound in a piece of code are there. -/
theorem SoundIn.le_targets {first last entries : Nat} (h : i.SoundIn first last entries) :
    ∀ t ∈ i.targets, first ≤ t ∧ t ≤ last := by
  intro t ht
  unfold targets at ht
  split at ht
  · rename_i hop
    have htargets := h.split hop
    simp at ht
    rcases ht with rfl | rfl
    · exact htargets.1
    · exact htargets.2
  · rename_i hop
    simp at ht
    exact ht ▸ h.jump hop
  · simp at ht

theorem relativeTo_split (hx : x = start + x') (hy : y = start + y')
    (hxlimit : x ≤ Engine.maxInstructions) (hylimit : y ≤ Engine.maxInstructions) :
    (make .split x y).relativeTo start = make .split x' y' := by
  have hlimit : Engine.maxInstructions ≤ maxA ∧ Engine.maxInstructions ≤ maxB := by decide
  have ha : (make .split x y).a.toNat = x := toNat_a_make (by omega) _ _
  have hb : (make .split x y).b.toNat = y := toNat_b_make (by omega) _ _
  subst hx hy
  simp [relativeTo, ha, hb]

theorem relativeTo_branch (greedy : Bool) (hx : x = start + x') (hy : y = start + y')
    (hxlimit : x ≤ Engine.maxInstructions) (hylimit : y ≤ Engine.maxInstructions) :
    (Layout.branch greedy x y).relativeTo start = Layout.branch greedy x' y' := by
  cases greedy with
  | true => exact relativeTo_split hx hy hxlimit hylimit
  | false => exact relativeTo_split hy hx hylimit hxlimit

theorem relativeTo_jump (hx : x = start + x') (hxlimit : x ≤ Engine.maxInstructions) :
    (make .jump x 0).relativeTo start = make .jump x' 0 := by
  have hlimit : Engine.maxInstructions ≤ maxA := by decide
  have ha : (make .jump x 0).a.toNat = x := toNat_a_make (by omega) _ _
  subst hx
  simp [relativeTo, ha]

end
end Instruction

/-! ## Layouts -/

/-- The layout has the same classes and the same code at every place, if targets are counted
from the start. `place` is `pc` counted from the start. -/
structure Layout.Relocatable (l : Layout) : Prop where
  table_eq : ∀ place pc table, (l place table).table = (l pc table).table
  code_eq : ∀ {start place pc : Nat} (table : ClassTable), place = start + pc →
    place + (l place table).code.length ≤ Engine.maxInstructions →
    (l place table).code.map (Instruction.relativeTo start) = (l pc table).code

namespace Layout.Relocatable
variable {first second part : Layout}

theorem length_eq (h : part.Relocatable) {start place pc : Nat} (table : ClassTable)
    (hplace : place = start + pc)
    (hroom : place + (part place table).code.length ≤ Engine.maxInstructions) :
    (part place table).code.length = (part pc table).code.length := by
  rw [← h.code_eq table hplace hroom, List.length_map]

theorem nothing : Layout.nothing.Relocatable where
  table_eq _ _ _ := rfl
  code_eq _ _ _ := rfl

theorem marker {op : Opcode} (index : Nat) (hop : op = .openGroup ∨ op = .closeGroup) :
    (Layout.single (.make op index 0)).Relocatable where
  table_eq _ _ _ := rfl
  code_eq _ _ _ := by
    rcases hop with rfl | rfl <;> simp [Layout.single, Instruction.relativeTo]

theorem letter (flags : Flags) (l : Leaf) :
    Layout.Relocatable fun _ table => (l.letter flags).segment table where
  table_eq _ _ _ := rfl
  code_eq table _ _ := by
    obtain ⟨i, hcode, hi⟩ := l.exists_isLeaf flags table
    simp only [hcode, List.map_singleton, Instruction.relativeTo_of_isLeaf hi]

theorem append (hfirst : first.Relocatable) (hsecond : second.Relocatable) :
    (Layout.append first second).Relocatable where
  table_eq place pc table := by
    simp only [Layout.append]
    rw [hfirst.table_eq place pc table]
    exact hsecond.table_eq _ _ _
  code_eq {start place pc} table hplace hroom := by
    rw [end_append] at hroom
    have hlength := hfirst.length_eq table hplace (by omega)
    have hend : place + (first place table).code.length =
        start + (pc + (first pc table).code.length) := by omega
    simp only [Layout.append, List.map_append]
    rw [hfirst.code_eq table hplace (by omega), hsecond.code_eq _ hend hroom,
      hfirst.table_eq place pc table]

theorem choice (hfirst : first.Relocatable) (hsecond : second.Relocatable) :
    (Layout.choice first second).Relocatable where
  table_eq place pc table := by
    simp only [Layout.choice]
    rw [hfirst.table_eq (place + 1) (pc + 1) table]
    exact hsecond.table_eq _ _ _
  code_eq {start place pc} table hplace hroom := by
    rw [end_choice] at hroom
    have hbody : place + 1 = start + (pc + 1) := by omega
    have hlength := hfirst.length_eq table hbody (by omega)
    have htable := hfirst.table_eq (place + 1) (pc + 1) table
    rw [htable] at hroom
    have hnext : place + 2 + (first (place + 1) table).code.length =
        start + (pc + 2 + (first (pc + 1) table).code.length) := by omega
    have hlength' := hsecond.length_eq _ hnext hroom
    have hout : place + 2 + (first (place + 1) table).code.length +
        (second (place + 2 + (first (place + 1) table).code.length)
          (first (pc + 1) table).table).code.length =
        start + (pc + 2 + (first (pc + 1) table).code.length +
          (second (pc + 2 + (first (pc + 1) table).code.length)
            (first (pc + 1) table).table).code.length) := by omega
    simp only [Layout.choice, List.cons_append, List.map_cons, List.map_append, htable]
    rw [Instruction.relativeTo_split hbody hnext (by omega) (by omega),
      hfirst.code_eq table hbody (by omega), Instruction.relativeTo_jump hout hroom,
      hsecond.code_eq _ hnext hroom]

theorem optional (greedy : Bool) (hpart : part.Relocatable) :
    (Layout.optional greedy part).Relocatable where
  table_eq _ _ table := hpart.table_eq _ _ table
  code_eq {start place pc} table hplace hroom := by
    rw [end_optional] at hroom
    have hbody : place + 1 = start + (pc + 1) := by omega
    have hlength := hpart.length_eq table hbody hroom
    have hout : place + 1 + (part (place + 1) table).code.length =
        start + (pc + 1 + (part (pc + 1) table).code.length) := by omega
    simp only [Layout.optional, List.map_cons]
    rw [Instruction.relativeTo_branch greedy hbody hout (by omega) hroom,
      hpart.code_eq table hbody hroom]

theorem star (greedy : Bool) (hpart : part.Relocatable) :
    (Layout.star greedy part).Relocatable where
  table_eq _ _ table := hpart.table_eq _ _ table
  code_eq {start place pc} table hplace hroom := by
    rw [end_star] at hroom
    have hbody : place + 1 = start + (pc + 1) := by omega
    have hlength := hpart.length_eq table hbody (by omega)
    have hout : place + 2 + (part (place + 1) table).code.length =
        start + (pc + 2 + (part (pc + 1) table).code.length) := by omega
    simp only [Layout.star, List.cons_append, List.map_cons, List.map_append, List.map_nil]
    rw [Instruction.relativeTo_branch greedy hbody hout (by omega) hroom,
      hpart.code_eq table hbody (by omega), Instruction.relativeTo_jump hplace (by omega)]

theorem plus (greedy : Bool) (hpart : part.Relocatable) :
    (Layout.plus greedy part).Relocatable where
  table_eq _ _ table := hpart.table_eq _ _ table
  code_eq {start place pc} table hplace hroom := by
    rw [end_plus] at hroom
    have hlength := hpart.length_eq table hplace (by omega)
    have hout : place + (part place table).code.length + 1 =
        start + (pc + (part pc table).code.length + 1) := by omega
    simp only [Layout.plus, List.map_append, List.map_cons, List.map_nil]
    rw [hpart.code_eq table hplace (by omega),
      Instruction.relativeTo_branch greedy hplace hout (by omega) hroom]

theorem closed : Layout.Closed Layout.Relocatable where
  nothing := nothing
  letter := letter
  openGroup index := marker index (.inl rfl)
  closeGroup index := marker index (.inr rfl)
  append := append
  choice := choice
  optional greedy _ := optional greedy
  star greedy _ := star greedy
  plus greedy _ := plus greedy

end Layout.Relocatable

/-! ## Nodes -/

/-- The branches of a node stay in its segment or leave it at its end, whatever the class
table in front of it is. -/
theorem Node.le_targets_layout (flags : Flags) (node : Node) {pc : Nat} (table : ClassTable)
    (hroom : pc + node.codeLength ≤ Engine.maxInstructions) :
    ∀ i ∈ (node.layout flags pc table).code, ∀ t ∈ i.targets,
      pc ≤ t ∧ t ≤ pc + node.codeLength := by
  intro i hi
  have hlength := node.hasLength_layout flags pc []
  -- operands are known to be sound for small tables only, so take those behind the empty one
  have hgrows := (Layout.Grows.closed.node flags node).length_le pc []
  rw [List.length_nil] at hgrows
  have hsame := node.sameStructure flags flags pc table []
  obtain ⟨n, hn, rfl⟩ := List.mem_iff_getElem.1 hi
  have hn' : n < (node.layout flags pc []).code.length := hsame.length_eq ▸ hn
  have hrole : Instruction.SameRole (node.layout flags pc table).code[n]
      (node.layout flags pc []).code[n] := hsame.get hn hn'
  rcases hrole with ⟨-, heq⟩ | ⟨hleaf, -⟩
  · have hsound := (Layout.Sound.closed.node flags node).sound (by omega) (by omega) _
      (List.getElem_mem hn')
    rw [hlength] at hsound
    rw [heq]
    exact hsound.le_targets
  · intro t ht
    rw [Instruction.targets_of_isLeaf hleaf] at ht
    cases ht

/-- Counted from its start, the code of a node is the one at the first place. -/
theorem Node.map_relativeTo_layout (flags : Flags) (node : Node) {pc : Nat} (table : ClassTable)
    (hroom : pc + node.codeLength ≤ Engine.maxInstructions) :
    (node.layout flags pc table).code.map (Instruction.relativeTo pc) =
      (node.layout flags 0 table).code := by
  have hplace : pc = pc + 0 := rfl
  apply (Layout.Relocatable.closed.node flags node).code_eq table hplace
  rw [node.hasLength_layout flags]
  exact hroom

/-- What is written behind a draft: the code and the classes that are new. -/
structure Draft.Extends (d : Draft) (code : Array Instruction) (classes : List Charset)
    (d' : Draft) : Prop where
  code_eq : d'.code = d.code ++ code
  table_eq : d'.table = d.table ++ classes

/-- A node that is written extends the draft by its layout. -/
theorem Node.extends_of_emit {flags : Flags} {node : Node} {d d' : Draft}
    (hd : d.here ≤ Engine.maxInstructions) (h : node.emit flags d = some d') :
    ∃ classes, d.Extends (node.layout flags d.here d.table).code.toArray classes d' ∧
      (node.layout flags d.here d.table).table = d.table ++ classes := by
  obtain ⟨classes, hclasses⟩ := (Layout.Grows.closed.node flags node).keeps d.here d.table
  rw [Node.eq_append_of_emit_eq_some hd h]
  exact ⟨classes, ⟨rfl, hclasses.symm⟩, hclasses.symm⟩

/-- There was room for a node that is written. -/
theorem Node.room_of_emit {flags : Flags} {node : Node} {d d' : Draft}
    (hd : d.here ≤ Engine.maxInstructions) (h : node.emit flags d = some d') :
    d.here + node.codeLength ≤ Engine.maxInstructions := by
  by_contra hroom
  rw [(node.emit_eq_none_iff flags hd).2 (Nat.not_le.1 hroom)] at h
  cases h

/-- **Lowering only appends, and what it appends can be moved.** A node that is written
leaves all instructions and classes of the draft in their places and puts new ones behind
them, and the branches among these continue inside the new code or right after it. Two
drafts with the same classes get the same new classes, and the same new code if the targets
are counted from its start. -/
theorem Node.emit_relocatable :
    (∀ (flags : Flags) (node : Node) (d d' : Draft), d.code.size ≤ 32767 →
      node.emit flags d = some d' →
      ∃ code classes, d.Extends code classes d' ∧
        ∀ i ∈ code, ∀ t ∈ i.targets, d.code.size ≤ t ∧ t ≤ d'.code.size) ∧
    (∀ (flags : Flags) (node : Node) (d₁ d₁' d₂ d₂' : Draft),
      d₁.code.size ≤ 32767 → d₂.code.size ≤ 32767 → d₁.table = d₂.table →
      node.emit flags d₁ = some d₁' → node.emit flags d₂ = some d₂' →
      ∃ code₁ code₂ classes, d₁.Extends code₁ classes d₁' ∧ d₂.Extends code₂ classes d₂' ∧
        code₁.map (Instruction.relativeTo d₁.code.size) =
          code₂.map (Instruction.relativeTo d₂.code.size)) := by
  constructor
  · intro flags node d d' hd h
    obtain ⟨classes, hextends, -⟩ := Node.extends_of_emit hd h
    refine ⟨_, classes, hextends, ?_⟩
    have hsize : d'.code.size = d.code.size + node.codeLength := by
      rw [hextends.code_eq, Array.size_append]
      exact congrArg (d.code.size + ·) (node.hasLength_layout flags _ _)
    intro i hi
    rw [hsize]
    exact node.le_targets_layout flags d.table (Node.room_of_emit hd h) i (List.mem_toArray.1 hi)
  · intro flags node d₁ d₁' d₂ d₂' hd₁ hd₂ htable h₁ h₂
    obtain ⟨classes, hextends₁, hclasses₁⟩ := Node.extends_of_emit hd₁ h₁
    obtain ⟨classes', hextends₂, hclasses₂⟩ := Node.extends_of_emit hd₂ h₂
    have hsame : classes = classes' := by
      have htables : d₁.table ++ classes = d₁.table ++ classes' := by
        rw [← hclasses₁, htable, ← hclasses₂]
        exact (Layout.Relocatable.closed.node flags node).table_eq _ _ _
      exact List.append_cancel_left htables
    subst hsame
    refine ⟨_, _, classes, hextends₁, hextends₂, ?_⟩
    have hcode₁ := node.map_relativeTo_layout flags d₁.table (Node.room_of_emit hd₁ h₁)
    have hcode₂ := node.map_relativeTo_layout flags d₂.table (Node.room_of_emit hd₂ h₂)
    rw [← htable] at hcode₂
    rw [List.map_toArray, List.map_toArray, ← htable]
    exact congrArg List.toArray (hcode₁.trans hcode₂.symm)

/-- The code of `[a]|b*` at the start, and behind one instruction that is there before. -/
theorem Node.emit_relocatable_of_choice :
    ∃ d₁' d₂' : Draft, d₁'.code.size = 6 ∧ d₂'.code.size = 7 ∧ d₁'.table = d₂'.table ∧
      (∃ code classes, Draft.Extends ⟨#[.make .any 0 0], .empty⟩ code classes d₂' ∧
        ∀ i ∈ code, ∀ t ∈ i.targets, 1 ≤ t ∧ t ≤ 7) ∧
      ∃ code₁ code₂ classes, Draft.Extends ⟨#[], .empty⟩ code₁ classes d₁' ∧
        Draft.Extends ⟨#[.make .any 0 0], .empty⟩ code₂ classes d₂' ∧
        code₁.map (Instruction.relativeTo 0) = code₂.map (Instruction.relativeTo 1) := by
  have hfirst : (Node.alternate [.leaf (.set [.char 'a'] false),
      .repetition (.leaf (.char 'b')) ⟨0, none, true⟩]).emit .none ⟨#[], .empty⟩ =
      some ⟨#[.make .split 1 3, .make .inClass 0 0, .make .jump 6 0, .make .split 4 6,
        .make .char 0 98, .make .jump 3 0], .ofTable [⟨[.char 'a'], false⟩]⟩ := by decide
  have hbehind : (Node.alternate [.leaf (.set [.char 'a'] false),
      .repetition (.leaf (.char 'b')) ⟨0, none, true⟩]).emit .none ⟨#[.make .any 0 0], .empty⟩ =
      some ⟨#[.make .any 0 0, .make .split 2 4, .make .inClass 0 0, .make .jump 7 0,
        .make .split 5 7, .make .char 0 98, .make .jump 4 0],
        .ofTable [⟨[.char 'a'], false⟩]⟩ := by decide
  refine ⟨_, _, ?_, ?_, ?_,
    Node.emit_relocatable.1 _ _ _ _ (by decide) hbehind,
    Node.emit_relocatable.2 _ _ _ _ _ _ (by decide) (by decide) rfl hfirst hbehind⟩ <;> rfl

end DeviceRegex
