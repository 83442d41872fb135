import DeviceRegex.Proofs.Pattern.Normal
import DeviceRegex.Proofs.Pattern.Spelling

/-!
# Groups with later numbers

Where more groups stand in front of a pattern, its own groups have later numbers. Nothing
else about its tree changes: the renumbered tree is normal and is written in the same
ways.

## Main definitions

* `Node.renumbered offset` — a tree whose groups have numbers later by `offset`.
-/
namespace DeviceRegex

open Pattern

mutual
/-- A tree whose groups have numbers later by `offset`. -/
def Node.renumbered (offset : Nat) : Node → Node
  | .empty => .empty
  | .leaf l => .leaf l
  | .group index body => .group (index.map (· + offset)) (body.renumbered offset)
  | .concat parts => .concat (Node.renumberedAll offset parts)
  | .alternate branches => .alternate (Node.renumberedAll offset branches)
  | .repetition body times => .repetition (body.renumbered offset) times

/-- The trees of a list, their groups with numbers later by `offset`. -/
def Node.renumberedAll (offset : Nat) : List Node → List Node
  | [] => []
  | node :: nodes => node.renumbered offset :: Node.renumberedAll offset nodes
end

namespace Node
variable {offset : Nat}

theorem renumberedAll_eq_map (nodes : List Node) :
    renumberedAll offset nodes = nodes.map (renumbered offset) := by
  induction nodes with
  | nil => rfl
  | cons node nodes ih => simp [renumberedAll, ih]

@[simp] theorem isPart_renumbered (node : Node) :
    (node.renumbered offset).isPart = node.isPart := by
  cases node <;> rfl

@[simp] theorem isRepeatable_renumbered (node : Node) :
    (node.renumbered offset).isRepeatable = node.isRepeatable := by
  cases node <;> rfl

@[simp] theorem isAlternate_renumbered (node : Node) :
    (node.renumbered offset).isAlternate = node.isAlternate := by
  cases node <;> rfl

theorem branches_renumbered (node : Node) :
    (node.renumbered offset).branches = node.branches.map (renumbered offset) := by
  cases node <;> first | rfl | exact renumberedAll_eq_map _

mutual
theorem normal_renumbered : (node : Node) → node.Normal → (node.renumbered offset).Normal
  | .empty, _ => trivial
  | .leaf _, h => h
  | .group _ body, h => normal_renumbered body h
  | .concat parts, ⟨hlen, hparts, hall⟩ => by
    refine ⟨?_, ?_, normalAll_renumberedAll parts hall⟩
    · simpa [renumberedAll_eq_map] using hlen
    · simpa [renumberedAll_eq_map] using hparts
  | .alternate branches, ⟨hlen, hflat, hall⟩ => by
    refine ⟨?_, ?_, normalAll_renumberedAll branches hall⟩
    · simpa [renumberedAll_eq_map] using hlen
    · simpa [renumberedAll_eq_map] using hflat
  | .repetition body _, ⟨hrepeatable, htimes, hbody⟩ =>
    ⟨by simpa using hrepeatable, htimes, normal_renumbered body hbody⟩

theorem normalAll_renumberedAll : (nodes : List Node) → NormalAll nodes →
    NormalAll (renumberedAll offset nodes)
  | [], _ => trivial
  | node :: nodes, ⟨hnode, hnodes⟩ =>
    ⟨normal_renumbered node hnode, normalAll_renumberedAll nodes hnodes⟩
end

mutual
theorem numbers_renumbered : (node : Node) →
    (node.renumbered offset).numbers = node.numbers.map (· + offset)
  | .empty | .leaf _ => rfl
  | .group index body => by
    have ih := numbers_renumbered body
    cases index <;> simp [renumbered, numbers, ih]
  | .concat parts => numbersAll_renumberedAll parts
  | .alternate branches => numbersAll_renumberedAll branches
  | .repetition body _ => numbers_renumbered body

theorem numbersAll_renumberedAll : (nodes : List Node) →
    numbersAll (renumberedAll offset nodes) = (numbersAll nodes).map (· + offset)
  | [] => rfl
  | node :: nodes => by
    simp [renumberedAll, numbersAll, numbers_renumbered node, numbersAll_renumberedAll nodes]
end

mutual
theorem depth_renumbered : (node : Node) → (node.renumbered offset).depth = node.depth
  | .empty | .leaf _ => rfl
  | .group _ body => congrArg (· + 1) (depth_renumbered body)
  | .concat parts => depthAll_renumberedAll parts
  | .alternate branches => depthAll_renumberedAll branches
  | .repetition body _ => depth_renumbered body

theorem depthAll_renumberedAll : (nodes : List Node) →
    depthAll (renumberedAll offset nodes) = depthAll nodes
  | [] => rfl
  | node :: nodes => by
    simp [renumberedAll, depthAll, depth_renumbered node, depthAll_renumberedAll nodes]
end

end Node

/-- The opening of a group does not tell its number. -/
theorem GroupOpens.renumbered {mode : CaptureMode} {index : Option Nat} {text rest : List Char}
    (h : GroupOpens mode index text rest) (offset : Nat) :
    GroupOpens mode (index.map (· + offset)) text rest := by
  cases h with
  | numbered _ index => exact .numbered mode (index + offset) rest
  | plain => exact .plain mode rest
  | dropped => exact .dropped rest

namespace Node
variable {mode : CaptureMode} {offset : Nat}

mutual
/-- The numbers of its groups are not written in the text of a tree. -/
theorem spells_renumbered : (node : Node) → ∀ {text rest}, node.Spells mode text rest →
    (node.renumbered offset).Spells mode text rest
  | .empty, _, _, h => h
  | .leaf _, _, _, h => h
  | .group _ body, _, _, ⟨inner, hopens, hbody⟩ =>
    ⟨inner, hopens.renumbered offset, spells_renumbered body hbody⟩
  | .concat parts, _, _, h => spellAll_renumberedAll parts h
  | .alternate branches, _, _, h => spellBranches_renumberedAll branches h
  | .repetition body _, _, _, ⟨marks, hbody, htimes⟩ =>
    ⟨marks, spells_renumbered body hbody, htimes⟩

theorem spellAll_renumberedAll : (nodes : List Node) → ∀ {text rest},
    SpellAll mode nodes text rest → SpellAll mode (renumberedAll offset nodes) text rest
  | [], _, _, h => h
  | node :: nodes, _, _, ⟨mid, hnode, hnodes⟩ =>
    ⟨mid, spells_renumbered node hnode, spellAll_renumberedAll nodes hnodes⟩

theorem spellBranches_renumberedAll : (nodes : List Node) → ∀ {text rest},
    SpellBranches mode nodes text rest → SpellBranches mode (renumberedAll offset nodes) text rest
  | [], _, _, h => h
  | [node], _, _, h => spells_renumbered node h
  | node :: next :: nodes, _, _, ⟨mid, hnode, hnodes⟩ =>
    ⟨mid, spells_renumbered node hnode, spellBranches_renumberedAll (next :: nodes) hnodes⟩
end

end Node

/-- Consecutive numbers are consecutive after they are moved. -/
theorem Numbered.map_add {mode : CaptureMode} {first : Nat} {numbers : List Nat}
    (h : Numbered mode first numbers) (offset : Nat) :
    Numbered mode (first + offset) (numbers.map (· + offset)) := by
  cases mode with
  | nonCapture =>
    rw [show numbers = [] from h]
    rfl
  | extract =>
    have hnumbers : numbers = List.range' first numbers.length := h
    change numbers.map (· + offset) = List.range' (first + offset) (numbers.map (· + offset)).length
    rw [List.length_map, Nat.add_comm first, ← List.map_add_range', ← hnumbers]
    simp [Nat.add_comm]

end DeviceRegex
