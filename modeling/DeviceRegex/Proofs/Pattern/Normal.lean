import DeviceRegex.Pattern.Parse

/-!
# Normal patterns

Trees that differ in shape may have one and the same text. A normal tree joins and
chooses between at least two parts, nests no choice or sequence directly in another one,
and repeats what a quantifier may follow; its numbered groups are numbered by their
opening parentheses.

## Main definitions

* `Node.Normal` — the shape of a normal tree.
* `Node.numbers`, `Node.depth` — the numbers of the groups from left to right, and how
  deep groups nest.
* `Numbered mode first numbers` — consecutive numbers from `first` on, or none where no
  groups are kept.
* `Pattern.Normal` — a normal tree with the number of its groups.
-/
namespace DeviceRegex

/-! ## Shape -/

/-- A range does not end before it starts. -/
def SetItem.Normal : SetItem → Prop
  | range first last => first ≤ last
  | char _ | shorthand _ | complement _ => True

/-- A set has an item, and no range of it is reversed. -/
def Leaf.Normal : Leaf → Prop
  | set items _ => items ≠ [] ∧ ∀ item ∈ items, item.Normal
  | char _ | dot | assertion _ => True

/-- The bounds are in order and within the limit. -/
structure Quantifier.Normal (times : Quantifier) : Prop where
  min_le : times.min ≤ Engine.maxRepeat
  max_le : ∀ m, times.max = some m → times.min ≤ m ∧ m ≤ Engine.maxRepeat

namespace Node

/-- The node may stand in a sequence. -/
def isPart : Node → Bool
  | leaf _ | group .. | repetition .. => true
  | empty | concat _ | alternate _ => false

/-- A quantifier may follow the node. -/
def isRepeatable : Node → Bool
  | leaf l => !l.isAssertion
  | group .. => true
  | empty | concat _ | alternate _ | repetition .. => false

/-- The node is a choice. -/
def isAlternate : Node → Bool
  | alternate _ => true
  | empty | leaf _ | group .. | concat _ | repetition .. => false

mutual
/-- The shape of a normal tree. -/
def Normal : Node → Prop
  | empty => True
  | leaf l => l.Normal
  | group _ body => body.Normal
  | concat parts => 2 ≤ parts.length ∧ (∀ part ∈ parts, part.isPart) ∧ NormalAll parts
  | alternate branches =>
    2 ≤ branches.length ∧ (∀ branch ∈ branches, branch.isAlternate = false) ∧ NormalAll branches
  | repetition body times => body.isRepeatable ∧ times.Normal ∧ body.Normal

/-- All trees of a list are normal. -/
def NormalAll : List Node → Prop
  | [] => True
  | node :: nodes => node.Normal ∧ NormalAll nodes
end

theorem normalAll_iff {nodes : List Node} : NormalAll nodes ↔ ∀ node ∈ nodes, node.Normal := by
  induction nodes with
  | nil => simp [NormalAll]
  | cons node nodes ih => simp [NormalAll, ih]

/-! ## Groups -/

mutual
/-- The numbers of the numbered groups, from left to right. -/
def numbers : Node → List Nat
  | empty | leaf _ => []
  | group index body => index.toList ++ body.numbers
  | concat parts => numbersAll parts
  | alternate branches => numbersAll branches
  | repetition body _ => body.numbers

/-- The numbers of the numbered groups of all trees of a list. -/
def numbersAll : List Node → List Nat
  | [] => []
  | node :: nodes => node.numbers ++ numbersAll nodes
end

mutual
/-- How many groups are open at once at most. -/
def depth : Node → Nat
  | empty | leaf _ => 0
  | group _ body => body.depth + 1
  | concat parts => depthAll parts
  | alternate branches => depthAll branches
  | repetition body _ => body.depth

/-- How many groups of the trees of a list are open at once at most. -/
def depthAll : List Node → Nat
  | [] => 0
  | node :: nodes => max node.depth (depthAll nodes)
end

end Node

/-- The numbers are consecutive from `first` on; there are none if no groups are kept. -/
def Numbered (mode : CaptureMode) (first : Nat) (numbers : List Nat) : Prop :=
  match mode with
  | .extract => numbers = List.range' first numbers.length
  | .nonCapture => numbers = []

namespace Numbered
variable {mode : CaptureMode} {first : Nat}

theorem append_iff {numbers rest : List Nat} :
    Numbered mode first (numbers ++ rest) ↔
      Numbered mode first numbers ∧ Numbered mode (first + numbers.length) rest := by
  cases mode with
  | nonCapture => simp [Numbered]
  | extract =>
    simp only [Numbered, List.length_append]
    constructor
    · intro h
      rw [← List.range'_append_1] at h
      exact List.append_inj h (by simp)
    · rintro ⟨h, h'⟩
      rw [← List.range'_append_1, ← h, ← h']

theorem cons_iff {index : Nat} {numbers : List Nat} :
    Numbered mode first (index :: numbers) ↔
      mode = .extract ∧ index = first ∧ Numbered mode (first + 1) numbers := by
  cases mode with
  | nonCapture => simp [Numbered]
  | extract => simp [Numbered, List.range'_succ]

end Numbered

/-- A normal pattern: its tree is normal, groups nest no deeper than the engine allows,
and are numbered from 1 on by their opening parentheses. -/
structure Pattern.Normal (mode : CaptureMode) (p : Pattern) : Prop where
  root : p.root.Normal
  depth_le : p.root.depth ≤ Engine.maxNesting
  numbered : Numbered mode 1 p.root.numbers
  groups_eq : p.groups = p.root.numbers.length

/-! ## Parts and branches -/

namespace Node

/-- The parts of a branch. -/
def parts : Node → List Node
  | empty => []
  | concat parts => parts
  | node => [node]

/-- The branches of a body. -/
def branches : Node → List Node
  | alternate branches => branches
  | node => [node]

/-- A normal branch is put together again from its parts. -/
theorem ofParts_parts {node : Node} (h : node.Normal) (hbranch : node.isAlternate = false) :
    ofParts node.parts = node := by
  cases node with
  | concat parts =>
    have hlen := h.1
    match parts, hlen with
    | _ :: _ :: _, _ => rfl
  | alternate branches => cases hbranch
  | _ => rfl

/-- A normal body is put together again from its branches. -/
theorem ofBranches_branches {node : Node} (h : node.Normal) :
    ofBranches node.branches = node := by
  cases node with
  | alternate branches =>
    have hlen := h.1
    match branches, hlen with
    | _ :: _ :: _, _ => rfl
  | _ => rfl

end Node

end DeviceRegex
