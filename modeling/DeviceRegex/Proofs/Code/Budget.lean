import DeviceRegex.Proofs.Code.Drafting

/-!
# The instruction budget

A pattern is compiled exactly when its code, with the instruction that reports a match,
fits the largest program, and its length is then known. A pattern that does not fit is
refused as a whole.
-/
namespace DeviceRegex

/-- A node is written exactly when there is room for all of its instructions. -/
theorem Node.emit_eq_none_iff (flags : Flags) (node : Node) {d : Draft}
    (hd : d.here ≤ Engine.maxInstructions) :
    node.emit flags d = none ↔ Engine.maxInstructions < d.here + node.codeLength := by
  have hrealizes := node.emit_realizes flags
  constructor
  · intro hnone
    by_contra hroom
    rw [hrealizes.fits d (Nat.not_lt.1 hroom)] at hnone
    cases hnone
  · exact hrealizes.overflows d hd

/-- What is written of a node stands behind what was written before. -/
theorem Node.eq_append_of_emit_eq_some {flags : Flags} {node : Node} {d d' : Draft}
    (hd : d.here ≤ Engine.maxInstructions) (h : node.emit flags d = some d') :
    d' = d.append (node.layout flags d.here d.table) := by
  by_cases hroom : d.here + node.codeLength ≤ Engine.maxInstructions
  · rw [(node.emit_realizes flags).fits d hroom] at h
    exact (Option.some.inj h).symm
  · rw [(node.emit_realizes flags).overflows d hd (Nat.not_le.1 hroom)] at h
    cases h

/-- The code of a tree, closed by the report of a match. -/
def Node.finishedCode (flags : Flags) (root : Node) : List Instruction :=
  (root.layout flags 0 []).code ++ [.make .accept 0 0]

/-- A tree is assembled exactly when there is room for it and for one instruction more. -/
theorem assemble?_eq (flags : Flags) (root : Node) :
    assemble? flags root =
      if root.codeLength + 1 ≤ Engine.maxInstructions then
        some ⟨(root.finishedCode flags).toArray, .ofTable (root.layout flags 0 []).table⟩
      else none := by
  have h := (root.emit_realizes flags).append (.push (.make .accept 0 0))
  have hhere : Draft.empty.here = 0 := rfl
  have hcode : Draft.empty.append (Layout.append (root.layout flags)
      (.single (.make .accept 0 0)) 0 []) =
        ⟨(root.finishedCode flags).toArray, .ofTable (root.layout flags 0 []).table⟩ := by
    simp [Draft.append, Draft.empty, Layout.append, Layout.single, Node.finishedCode]
  split
  · rw [← hcode]
    exact h.fits .empty (by omega)
  · exact h.overflows .empty (by omega) (by omega)

theorem Node.length_finishedCode (flags : Flags) (root : Node) :
    (root.finishedCode flags).length = root.codeLength + 1 := by
  rw [finishedCode, List.length_append, root.hasLength_layout flags, List.length_singleton]

namespace Compiled
variable {pattern : List Char} {flags : Flags} {capture : CaptureMode}

/-- A pattern that is read is compiled to its layout, closed by one instruction, if that
fits. -/
theorem compile_of_parse (flags : Flags) {p : Pattern}
    (hp : Pattern.parse capture pattern = .ok p) :
    compile pattern flags capture =
      if p.root.codeLength + 1 ≤ Engine.maxInstructions then
        .ok ⟨p.root.finishedCode flags, (p.root.layout flags 0 []).table, p.groups, flags, capture⟩
      else .error .tooManyInstructions := by
  by_cases hfits : p.root.codeLength + 1 ≤ Engine.maxInstructions
  · simp [compile, hp, assemble?_eq, hfits, Draft.table]
  · simp [compile, hp, assemble?_eq, hfits]

/-- A pattern that is compiled is well formed and fits, and its code is its layout. -/
theorem eq_of_compile {c : Compiled} (h : compile pattern flags capture = .ok c) :
    ∃ p, Pattern.parse capture pattern = .ok p ∧
      p.root.codeLength + 1 ≤ Engine.maxInstructions ∧
      c = ⟨p.root.finishedCode flags, (p.root.layout flags 0 []).table, p.groups, flags,
        capture⟩ := by
  cases hp : Pattern.parse capture pattern with
  | error e => simp [compile, hp] at h
  | ok p =>
    rw [compile_of_parse flags hp] at h
    split at h
    · rename_i hfits
      exact ⟨p, rfl, hfits, (Except.ok.inj h).symm⟩
    · cases h

end Compiled

/-- **The instruction budget is exact.** The computed size of a node is its length,
stopped at the largest size. A node is written behind a draft with exactly so many
instructions, or refused, and it is refused exactly when they do not fit. A pattern that
is well formed is compiled to one instruction more than its tree has, or refused as too
long. -/
theorem instruction_budget_exact :
    (∀ node : Node, node.codeSize.toNat = min node.codeLength Size.max) ∧
    (∀ (flags : Flags) (node : Node) (d : Draft), d.code.size ≤ 32767 →
      (node.emit flags d = none ↔ 32767 < d.code.size + node.codeLength) ∧
      ∀ d', node.emit flags d = some d' →
        ∃ added, d'.code = d.code ++ added ∧ added.size = node.codeLength) ∧
    (∀ (pattern : List Char) (flags : Flags) (capture : CaptureMode) (p : Pattern),
      Pattern.parse capture pattern = .ok p →
      if p.root.codeLength + 1 ≤ 32767 then
        ∃ c, Compiled.compile pattern flags capture = .ok c ∧
          c.code.length = p.root.codeLength + 1
      else
        ∃ e, Compiled.compile pattern flags capture = .error e ∧ e.kind = .outOfRange ∧
          e.message pattern = "pattern compiles to more than 32767 instructions") := by
  refine ⟨Node.toNat_codeSize, fun flags node d hd => ⟨node.emit_eq_none_iff flags hd, ?_⟩, ?_⟩
  · intro d' h
    rw [Node.eq_append_of_emit_eq_some hd h]
    refine ⟨(node.layout flags d.here d.table).code.toArray, rfl, ?_⟩
    rw [List.size_toArray, node.hasLength_layout flags]
  · intro pattern flags capture p hp
    rw [Compiled.compile_of_parse flags hp]
    split
    · exact ⟨_, if_pos ‹_›, Node.length_finishedCode flags p.root⟩
    · exact ⟨_, if_neg ‹_›, rfl, rfl⟩

end DeviceRegex
