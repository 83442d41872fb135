import DeviceRegex.Proofs.Code.Budget
import DeviceRegex.Proofs.Code.Placement
import DeviceRegex.Proofs.Code.Run

/-!
# The meaning of code

The runs of a program have the traces of its pattern. A layout with traces `D`, placed
anywhere in a program, turns the runs from its end into the runs from its start by `D`
in front of them; for a layout with a loop, the runs from its start satisfy an equation
with one solution only.

## Main definitions

* `Fits code table` — code and class table are within the limits of the engine.
* `Layout.Denotes l D` — wherever it is placed, the layout has the traces `D`.
-/
open scoped Pointwise

namespace DeviceRegex

/-- The code and its class table are within the limits of the engine, so that operands
hold all places and all indices. -/
structure Fits (code : List Instruction) (table : ClassTable) : Prop where
  code_le : code.length ≤ Engine.maxInstructions
  table_le : table.length ≤ Engine.maxInstructions

section
variable {code : List Instruction} {table : ClassTable} {pc : Nat}

theorem Fits.toNat_a (h : Fits code table) {n : Nat} (hn : n ≤ code.length) (op : Opcode)
    (b : Nat) : (Instruction.make op n b).a.toNat = n := by
  have hlimit : Engine.maxInstructions ≤ Instruction.maxA := by decide
  exact Instruction.toNat_a_make (by have := h.code_le; omega) op b

theorem Fits.toNat_b (h : Fits code table) {n : Nat} (hn : n ≤ code.length) (op : Opcode)
    (a : Nat) : (Instruction.make op a n).b.toNat = n := by
  have hlimit : Engine.maxInstructions ≤ Instruction.maxB := by decide
  exact Instruction.toNat_b_make (by have := h.code_le; omega) op a

theorem runs_jump_to (h : Fits code table) {target : Nat}
    (hi : code[pc]? = some (.make .jump target 0)) (htarget : target ≤ code.length) :
    runs code table pc = runs code table target := by
  rw [runs_jump hi (Instruction.opcode?_make ..), h.toNat_a htarget]

theorem runs_split_to (h : Fits code table) {first second : Nat}
    (hi : code[pc]? = some (.make .split first second)) (hfirst : first ≤ code.length)
    (hsecond : second ≤ code.length) :
    runs code table pc =
      {.choice false} * runs code table first ∪ {.choice true} * runs code table second := by
  rw [runs_split hi (Instruction.opcode?_make ..), h.toNat_a hfirst, h.toNat_b hsecond]

/-- A branch goes into its body on one side and past it on the other, in the order that
greediness says. -/
theorem runs_branch (h : Fits code table) {greedy : Bool} {body out : Nat}
    (hi : code[pc]? = some (Layout.branch greedy body out)) (hbody : body ≤ code.length)
    (hout : out ≤ code.length) :
    runs code table pc =
      {.choice !greedy} * runs code table body ∪ {.choice greedy} * runs code table out := by
  cases greedy with
  | true => exact runs_split_to h hi hbody hout
  | false => rw [runs_split_to h hi hout hbody, Set.union_comm]; rfl

end

/-! ## Leaves and markers -/

/-- A group marker is its own letter. -/
theorem Instruction.letter?_marker {op : Opcode} (hop : op = .openGroup ∨ op = .closeGroup)
    (index : Nat) (table : ClassTable) :
    (make op index 0).letter? table = some (.plain (make op index 0)) := by
  rcases hop with rfl | rfl <;> simp [letter?]

/-- The instruction that a leaf asks for is its own letter. -/
theorem Leaf.letter?_of_letter_eq_plain {flags : Flags} {l : Leaf} {i : Instruction}
    (h : l.letter flags = .plain i) (table : ClassTable) : i.letter? table = some (.plain i) := by
  cases l with
  | char c =>
    simp only [Leaf.letter] at h
    split at h <;> cases h
    simp [Instruction.letter?]
  | dot =>
    cases h
    cases flags.has .dotall <;> simp [Instruction.letter?]
  | set items negated => cases h
  | assertion test =>
    cases h
    cases test <;> simp only [Assertion.instruction] <;> (try split) <;>
      simp [Instruction.letter?]

/-- The instruction of a leaf asks for the letter of the leaf, if the entries of the
class table are kept. -/
theorem Leaf.letter?_segment (flags : Flags) (l : Leaf) {code : List Instruction}
    {table before : ClassTable} (hfits : Fits code table)
    (hshares : ((l.letter flags).segment before).table <+: table) :
    ∃ i, ((l.letter flags).segment before).code = [i] ∧
      i.letter? table = some (l.letter flags) := by
  cases hl : l.letter flags with
  | plain i => exact ⟨i, rfl, letter?_of_letter_eq_plain hl table⟩
  | member s negated =>
    rw [hl] at hshares
    have hlimit : Engine.maxInstructions ≤ Instruction.maxA := by decide
    have hindex : before.index s ≤ Instruction.maxA := by
      have h := ClassTable.index_lt_length_intern before s
      have h' := List.IsPrefix.length_le hshares
      have h'' := hfits.table_le
      simp only [Letter.segment] at h'
      omega
    have hentry : table[before.index s]? = some s := by
      obtain ⟨rest, rfl⟩ := hshares
      exact (List.getElem?_append_left (ClassTable.index_lt_length_intern before s)).trans
        (ClassTable.getElem?_index_intern before s)
    refine ⟨_, rfl, ?_⟩
    cases negated <;>
      simp [Instruction.letter?, Instruction.toNat_a_make hindex, hentry]

/-! ## Layouts -/

/-- Wherever the layout is placed, the runs from its start are its traces, followed by
the runs from its end. -/
structure Layout.Denotes (l : Layout) (traces : Set Trace) : Prop where
  grows : l.Grows
  runs_eq : ∀ {code table pc before}, Fits code table → l.Placed code table pc before →
    runs code table pc = traces * runs code table (pc + (l pc before).code.length)

namespace Layout.Denotes
variable {first second part : Layout} {D E : Set Trace}

theorem nothing : Layout.nothing.Denotes 1 where
  grows := .nothing
  runs_eq _ _ := by rw [one_mul]; rfl

theorem letter (flags : Flags) (l : Leaf) :
    Layout.Denotes (fun _ table => (l.letter flags).segment table)
      {.letter (l.letter flags)} where
  grows := .letter _
  runs_eq hfits hplaced := by
    obtain ⟨i, hcode, hi⟩ := l.letter?_segment flags hfits hplaced.shares
    have hstands := hplaced.stands
    rw [hcode, standsAt_cons] at hstands
    rw [hcode, runs_letter hstands.1 hi]
    rfl

theorem marker {op : Opcode} (index : Nat) (hop : op = .openGroup ∨ op = .closeGroup) :
    (Layout.single (.make op index 0)).Denotes {.letter (.plain (.make op index 0))} where
  grows := .single _
  runs_eq _ hplaced := by
    have hstands := standsAt_cons.1 hplaced.stands
    exact runs_letter hstands.1 (Instruction.letter?_marker hop index _)

theorem append (hfirst : first.Denotes D) (hsecond : second.Denotes E) :
    (Layout.append first second).Denotes (D * E) where
  grows := hfirst.grows.append hsecond.grows
  runs_eq {code table pc before} hfits hplaced := by
    obtain ⟨h₁, h₂⟩ := hplaced.append hsecond.grows
    rw [hfirst.runs_eq hfits h₁, hsecond.runs_eq hfits h₂, mul_assoc, Layout.end_append]

theorem choice (hfirst : first.Denotes D) (hsecond : second.Denotes E) :
    (Layout.choice first second).Denotes ({.choice false} * D ∪ {.choice true} * E) where
  grows := hfirst.grows.choice hsecond.grows
  runs_eq {code table pc before} hfits hplaced := by
    obtain ⟨hsplit, h₁, hjump, h₂⟩ := hplaced.choice hsecond.grows
    have hend := hplaced.stands.end_le (by simp [Layout.choice])
    rw [Layout.end_choice] at hend ⊢
    rw [runs_split_to hfits hsplit (by omega) (by omega), hfirst.runs_eq hfits h₁,
      runs_jump_to hfits hjump hend, hsecond.runs_eq hfits h₂, Set.union_mul, mul_assoc, mul_assoc]

theorem optional (greedy : Bool) (hpart : part.Denotes D) :
    (Layout.optional greedy part).Denotes ({.choice !greedy} * D ∪ {.choice greedy}) where
  grows := hpart.grows.optional greedy
  runs_eq {code table pc before} hfits hplaced := by
    obtain ⟨hbranch, h⟩ := hplaced.optional
    have hend := hplaced.stands.end_le (by simp [Layout.optional])
    rw [Layout.end_optional] at hend ⊢
    rw [runs_branch hfits hbranch (by omega) hend, hpart.runs_eq hfits h, Set.union_mul, mul_assoc]

/-- The runs from the split of a loop make any number of rounds and then leave it: every
round makes a choice. -/
private theorem runs_loop {greedy : Bool} {X Y : Set Trace}
    (h : X = {Trace.choice !greedy} * (D * X) ∪ {Trace.choice greedy} * Y) :
    X = (⋃ k : ℕ, ({Trace.choice !greedy} * D) ^ k * {Trace.choice greedy}) * Y := by
  have hround : ∀ t ∈ {Trace.choice !greedy} * D, t.choices ≠ [] := by
    rintro _ ⟨u, rfl, v, -, rfl⟩
    simp [Trace.choice]
  rw [← mul_assoc] at h
  rw [Set.iUnion_mul]
  simpa only [mul_assoc] using Trace.eq_iUnion_pow_mul hround h

theorem star (greedy : Bool) (hpart : part.Denotes D) :
    (Layout.star greedy part).Denotes
      (⋃ k : ℕ, ({.choice !greedy} * D) ^ k * {.choice greedy}) where
  grows := hpart.grows.star greedy
  runs_eq {code table pc before} hfits hplaced := by
    obtain ⟨hbranch, h, hjump⟩ := hplaced.star
    have hend := hplaced.stands.end_le (by simp [Layout.star])
    rw [Layout.end_star] at hend ⊢
    have hloop := runs_branch hfits hbranch (by omega) hend
    rw [hpart.runs_eq hfits h, runs_jump_to hfits hjump (by omega)] at hloop
    exact runs_loop hloop

theorem plus (greedy : Bool) (hpart : part.Denotes D) :
    (Layout.plus greedy part).Denotes
      (D * ⋃ k : ℕ, ({.choice !greedy} * D) ^ k * {.choice greedy}) where
  grows := hpart.grows.plus greedy
  runs_eq {code table pc before} hfits hplaced := by
    obtain ⟨h, hbranch⟩ := hplaced.plus
    have hend := hplaced.stands.end_le (by simp [Layout.plus])
    rw [Layout.end_plus] at hend ⊢
    have hloop := runs_branch hfits hbranch (by omega) hend
    rw [hpart.runs_eq hfits h] at hloop ⊢
    rw [mul_assoc, ← runs_loop hloop]

theorem copies (hpart : part.Denotes D) : (n : Nat) → (Layout.copies part n).Denotes (D ^ n)
  | 0 => by
    rw [pow_zero]
    exact nothing
  | n + 1 => by
    rw [pow_succ']
    exact hpart.append (copies hpart n)

theorem optionals (greedy : Bool) (hpart : part.Denotes D) : (n : Nat) →
    (Layout.optionals greedy part n).Denotes
      (Trace.upTo ({.choice !greedy} * D) {.choice greedy} n)
  | 0 => by
    rw [Trace.upTo_zero]
    exact nothing
  | n + 1 => by
    rw [Trace.upTo_succ, mul_assoc]
    exact (hpart.append (optionals greedy hpart n)).optional greedy

theorem repeated (times : Quantifier) (hpart : part.Denotes D) :
    (Layout.repeated times part).Denotes (times.traces D) := by
  unfold Layout.repeated
  cases hmax : times.max with
  | none =>
    rw [Quantifier.traces_of_max_eq_none hmax]
    by_cases hmin : times.min = 0
    · simp only [hmin, if_true, pow_zero, one_mul]
      exact hpart.star times.greedy
    · simp only [hmin, if_false]
      obtain ⟨k, hk⟩ := Nat.exists_eq_succ_of_ne_zero hmin
      have h := (hpart.copies k).append (hpart.plus times.greedy)
      rw [← mul_assoc, ← pow_succ] at h
      rw [hk, Nat.succ_sub_one]
      exact h
  | some max =>
    rw [Quantifier.traces_of_max_eq_some hmax]
    exact (hpart.copies times.min).append (hpart.optionals times.greedy _)

end Layout.Denotes

/-! ## Nodes -/

mutual
/-- A node is laid out to code with its traces. -/
theorem Node.layout_denotes (flags : Flags) : (node : Node) →
    (node.layout flags).Denotes (node.traces flags)
  | .empty => .nothing
  | .leaf l => .letter flags l
  | .group (some index) body => by
    have ih := Node.layout_denotes flags body
    have h := (Layout.Denotes.marker index (.inl rfl)).append
      (ih.append (Layout.Denotes.marker index (.inr rfl)))
    rwa [← mul_assoc] at h
  | .group none body => by
    simpa only [Node.layout, Node.traces] using Node.layout_denotes flags body
  | .concat parts => by
    simpa only [Node.layout, Node.traces] using Node.layoutAll_denotes flags parts
  | .alternate branches => by
    simpa only [Node.layout, Node.traces] using Node.layoutChoice_denotes flags branches
  | .repetition body times => by
    have ih := Node.layout_denotes flags body
    simp only [Node.layout, Node.traces, Node.codeSize_eq_zero_iff]
    split
    · exact .nothing
    · exact ih.repeated times

theorem Node.layoutAll_denotes (flags : Flags) : (nodes : List Node) →
    (Node.layoutAll flags nodes).Denotes (Node.tracesList flags nodes).prod
  | [] => .nothing
  | node :: nodes => by
    simpa only [Node.layoutAll, Node.tracesList, List.prod_cons] using
      (Node.layout_denotes flags node).append (Node.layoutAll_denotes flags nodes)

theorem Node.layoutChoice_denotes (flags : Flags) : (nodes : List Node) →
    (Node.layoutChoice flags nodes).Denotes (Trace.ofBranches (Node.tracesList flags nodes))
  | [] => .nothing
  | [node] => by
    simpa only [Node.layoutChoice, Node.tracesList, Trace.ofBranches_singleton] using
      Node.layout_denotes flags node
  | node :: next :: nodes => by
    have h := (Node.layout_denotes flags node).choice
      (Node.layoutChoice_denotes flags (next :: nodes))
    simpa only [Node.layoutChoice, Node.tracesList, Trace.ofBranches_cons_cons] using h
end

/-! ## Programs -/

section
variable {flags : Flags} {root : Node}

/-- Finished code is within the limits if it was not refused. -/
theorem Node.fits_finishedCode (hroom : root.codeLength + 1 ≤ Engine.maxInstructions) :
    Fits (root.finishedCode flags) (root.layout flags 0 []).table where
  code_le := by
    rwa [length_finishedCode]
  table_le := by
    have hlen := root.hasLength_layout flags 0 []
    have hgrows := (Layout.Grows.closed.node flags root).length_le 0 []
    rw [List.length_nil] at hgrows
    omega

theorem Node.placed_finishedCode :
    (root.layout flags).Placed (root.finishedCode flags) (root.layout flags 0 []).table 0 [] where
  stands := List.prefix_append _ _
  shares := List.prefix_rfl

theorem Node.getElem?_finishedCode :
    (root.finishedCode flags)[(root.layout flags 0 []).code.length]? =
      some (.make .accept 0 0) := by
  simp [finishedCode]

theorem Node.runs_finishedCode (hroom : root.codeLength + 1 ≤ Engine.maxInstructions) :
    runs (root.finishedCode flags) (root.layout flags 0 []).table 0 = root.traces flags := by
  have hruns := (root.layout_denotes flags).runs_eq (fits_finishedCode hroom) placed_finishedCode
  rw [hruns, Nat.zero_add, runs_accept getElem?_finishedCode (Instruction.opcode?_make ..), mul_one]

end

/-- **Code has the meaning of its pattern.** The choices and letters of the runs of
assembled code are those of its tree, for every tree, and so those of a program are the
ones of the pattern it was compiled from. -/
theorem runs_eq_traces (flags : Flags) :
    (∀ root d, assemble? flags root = some d →
      runs d.code.toList d.table 0 = root.traces flags) ∧
    (∀ pattern capture c, Compiled.compile pattern flags capture = .ok c →
      ∃ p, Pattern.parse capture pattern = .ok p ∧ c.traces = p.root.traces flags) := by
  constructor
  · intro root d h
    rw [assemble?_eq] at h
    split at h
    · obtain rfl := Option.some.inj h
      exact Node.runs_finishedCode ‹_›
    · cases h
  · intro pattern capture c h
    obtain ⟨p, hp, hroom, rfl⟩ := Compiled.eq_of_compile h
    exact ⟨p, hp, Node.runs_finishedCode hroom⟩

end DeviceRegex
