import DeviceRegex.Proofs.Code.Meaning
import Mathlib.Data.List.Forall2

/-!
# Where instructions come from

Every instruction is written for a part of the tree: for a leaf, for one end of a numbered
group, or for a choice. The parts can be listed in the order of the code from the tree
alone, and the class table has the sets of the listed leaves in their order.

## Main definitions

* `Node.origins` — the parts of a tree in the order in which they are written.
* `Origin.Gives flags table o i` — the instruction is the one that the part asks for.
* `Layout.StemsFrom l flags origins` — the layout is written for the listed parts.
-/
namespace DeviceRegex

/-- A part of a tree for which an instruction is written. -/
inductive Origin where
  | leaf (l : Leaf)
  | opening (index : Nat)
  | closing (index : Nat)
  /-- A choice between branches, or of how often to repeat. -/
  | branch
deriving DecidableEq, Repr

/-- What a repetition is written for, given what its body is written for. -/
def Quantifier.origins (times : Quantifier) (body : List Origin) : List Origin :=
  match times.max with
  | none =>
    if times.min = 0 then .branch :: body ++ [.branch]
    else (List.replicate times.min body).flatten ++ [.branch]
  | some max =>
    (List.replicate times.min body).flatten ++
      (List.replicate (max - times.min) (.branch :: body)).flatten

mutual
/-- The parts of a tree in the order in which they are written, one for each
instruction. -/
def Node.origins : Node → List Origin
  | .empty => []
  | .leaf l => [.leaf l]
  | .group (some index) body => .opening index :: body.origins ++ [.closing index]
  | .group none body => body.origins
  | .concat parts => Node.originsAll parts
  | .alternate branches => Node.originsChoice branches
  | .repetition body times =>
    if body.codeLength = 0 then [] else times.origins body.origins

/-- The parts of all trees of a list. -/
def Node.originsAll : List Node → List Origin
  | [] => []
  | node :: nodes => node.origins ++ Node.originsAll nodes

/-- The parts of the branches of a choice: a split in front of every branch but the last,
and a jump behind it. -/
def Node.originsChoice : List Node → List Origin
  | [] => []
  | [node] => node.origins
  | node :: nodes => .branch :: node.origins ++ .branch :: Node.originsChoice nodes
end

/-- The set that a leaf asks for under the given flags, if it asks for one. -/
def Leaf.charset? (flags : Flags) (l : Leaf) : Option Charset :=
  match l.letter flags with
  | .plain _ => none
  | .member s _ => some s

theorem Leaf.ascii_of_charset? {flags : Flags} {l : Leaf} {s : Charset}
    (h : l.charset? flags = some s) : s.ascii = flags.has .ascii := by
  cases l with
  | char c =>
    rw [charset?, letter] at h
    by_cases hcases : flags.has .ignorecase && decide (1 < (letterCases c).length)
    · rw [if_pos hcases] at h
      cases h
      rfl
    · rw [if_neg hcases] at h
      cases h
  | dot => cases h
  | set items negated =>
    cases h
    rfl
  | assertion test => cases h

namespace Origin

/-- The set that a part asks for. -/
def charset? (flags : Flags) : Origin → Option Charset
  | leaf l => l.charset? flags
  | opening _ | closing _ | branch => none

/-- Only leaves ask for sets. -/
theorem eq_leaf_of_charset? {flags : Flags} {o : Origin} {s : Charset}
    (h : o.charset? flags = some s) : ∃ l, o = leaf l ∧ l.charset? flags = some s := by
  cases o with
  | leaf l => exact ⟨l, rfl, h⟩
  | opening index => cases h
  | closing index => cases h
  | branch => cases h

/-- The sets that parts ask for, in order. -/
def charsets (flags : Flags) (origins : List Origin) : List Charset :=
  origins.filterMap (charset? flags)

@[simp] theorem charsets_nil (flags : Flags) : charsets flags [] = [] := rfl

@[simp] theorem charsets_branch_cons (flags : Flags) (origins : List Origin) :
    charsets flags (branch :: origins) = charsets flags origins := rfl

theorem charsets_append (flags : Flags) (origins origins' : List Origin) :
    charsets flags (origins ++ origins') = charsets flags origins ++ charsets flags origins' :=
  List.filterMap_append

/-- The instruction is the one that the part asks for: that of a leaf asks the text for
the letter of the leaf, and those of a group have its number. -/
inductive Gives (flags : Flags) (table : ClassTable) : Origin → Instruction → Prop where
  | leaf {l : Leaf} {i : Instruction} (asks : i.letter? table = some (l.letter flags)) :
      Gives flags table (.leaf l) i
  | opening (index : Nat) : Gives flags table (.opening index) (.make .openGroup index 0)
  | closing (index : Nat) : Gives flags table (.closing index) (.make .closeGroup index 0)
  | split (a b : Nat) : Gives flags table .branch (.make .split a b)
  | jump (a : Nat) : Gives flags table .branch (.make .jump a 0)

theorem gives_branch (flags : Flags) (table : ClassTable) (greedy : Bool) (body out : Nat) :
    Gives flags table .branch (Layout.branch greedy body out) := by
  cases greedy
  · exact .split out body
  · exact .split body out

end Origin

/-! ## Layouts -/

/-- The layout is written for the listed parts: its class table has their sets in order,
and its instructions are theirs, if the entries of its table are those of the final one. -/
structure Layout.StemsFrom (l : Layout) (flags : Flags) (origins : List Origin) : Prop where
  table_eq : ∀ pc before, (l pc before).table = before.internAll (Origin.charsets flags origins)
  gives : ∀ {pc before table}, (l pc before).table <+: table →
    table.length ≤ Engine.maxInstructions →
    List.Forall₂ (Origin.Gives flags table) origins (l pc before).code

namespace Layout.StemsFrom
variable {flags : Flags} {first second part : Layout} {o o' : List Origin}

theorem keeps (h : part.StemsFrom flags o) (pc : Nat) (before : ClassTable) :
    before <+: (part pc before).table := by
  rw [h.table_eq]
  exact before.prefix_internAll _

theorem nothing : Layout.nothing.StemsFrom flags [] where
  table_eq _ _ := rfl
  gives _ _ := .nil

theorem letter (l : Leaf) :
    Layout.StemsFrom (fun _ table => (l.letter flags).segment table) flags [.leaf l] where
  table_eq _ before := by
    simp only [Origin.charsets, List.filterMap_cons, Origin.charset?, Leaf.charset?,
      List.filterMap_nil]
    cases l.letter flags <;> rfl
  gives {_ before table} hshares hroom := by
    have hfits : Fits [] table := ⟨Nat.zero_le _, hroom⟩
    obtain ⟨i, hcode, hi⟩ := l.letter?_segment flags hfits hshares
    rw [hcode]
    exact .cons (.leaf hi) .nil

theorem opening (index : Nat) :
    (Layout.single (.make .openGroup index 0)).StemsFrom flags [.opening index] where
  table_eq _ _ := rfl
  gives _ _ := .cons (.opening index) .nil

theorem closing (index : Nat) :
    (Layout.single (.make .closeGroup index 0)).StemsFrom flags [.closing index] where
  table_eq _ _ := rfl
  gives _ _ := .cons (.closing index) .nil

theorem append (hfirst : first.StemsFrom flags o) (hsecond : second.StemsFrom flags o') :
    (Layout.append first second).StemsFrom flags (o ++ o') where
  table_eq _ _ := by
    rw [Origin.charsets_append, ClassTable.internAll_append, ← hfirst.table_eq,
      ← hsecond.table_eq]
    rfl
  gives hshares hroom :=
    List.rel_append (hfirst.gives ((hsecond.keeps _ _).trans hshares) hroom)
      (hsecond.gives hshares hroom)

theorem choice (hfirst : first.StemsFrom flags o) (hsecond : second.StemsFrom flags o') :
    (Layout.choice first second).StemsFrom flags (.branch :: o ++ .branch :: o') where
  table_eq _ _ := by
    rw [Origin.charsets_append, Origin.charsets_branch_cons, Origin.charsets_branch_cons,
      ClassTable.internAll_append, ← hfirst.table_eq, ← hsecond.table_eq]
    rfl
  gives hshares hroom :=
    List.rel_append
      (.cons (.split _ _) (hfirst.gives ((hsecond.keeps _ _).trans hshares) hroom))
      (.cons (.jump _) (hsecond.gives hshares hroom))

theorem optional (greedy : Bool) (hpart : part.StemsFrom flags o) :
    (Layout.optional greedy part).StemsFrom flags (.branch :: o) where
  table_eq _ _ := hpart.table_eq _ _
  gives hshares hroom := .cons (Origin.gives_branch ..) (hpart.gives hshares hroom)

theorem star (greedy : Bool) (hpart : part.StemsFrom flags o) :
    (Layout.star greedy part).StemsFrom flags (.branch :: o ++ [.branch]) where
  table_eq _ _ := by
    rw [Origin.charsets_append, Origin.charsets_branch_cons, Origin.charsets_branch_cons,
      Origin.charsets_nil, List.append_nil, ← hpart.table_eq]
    rfl
  gives hshares hroom :=
    List.rel_append (.cons (Origin.gives_branch ..) (hpart.gives hshares hroom))
      (.cons (.jump _) .nil)

theorem plus (greedy : Bool) (hpart : part.StemsFrom flags o) :
    (Layout.plus greedy part).StemsFrom flags (o ++ [.branch]) where
  table_eq _ _ := by
    rw [Origin.charsets_append, Origin.charsets_branch_cons, Origin.charsets_nil,
      List.append_nil, ← hpart.table_eq]
    rfl
  gives hshares hroom :=
    List.rel_append (hpart.gives hshares hroom) (.cons (Origin.gives_branch ..) .nil)

theorem copies (hpart : part.StemsFrom flags o) : (n : Nat) →
    (Layout.copies part n).StemsFrom flags (List.replicate n o).flatten
  | 0 => nothing
  | n + 1 => by
    rw [List.replicate_succ, List.flatten_cons]
    exact hpart.append (copies hpart n)

theorem optionals (greedy : Bool) (hpart : part.StemsFrom flags o) : (n : Nat) →
    (Layout.optionals greedy part n).StemsFrom flags (List.replicate n (.branch :: o)).flatten
  | 0 => nothing
  | n + 1 => by
    rw [List.replicate_succ, List.flatten_cons]
    exact (hpart.append (optionals greedy hpart n)).optional greedy

theorem repeated (times : Quantifier) (hpart : part.StemsFrom flags o) :
    (Layout.repeated times part).StemsFrom flags (times.origins o) := by
  rw [Layout.repeated, Quantifier.origins]
  cases times.max with
  | none =>
    by_cases hmin : times.min = 0
    · simp only [hmin, if_true]
      exact hpart.star times.greedy
    · simp only [hmin, if_false]
      obtain ⟨n, hn⟩ := Nat.exists_eq_succ_of_ne_zero hmin
      have h := (hpart.copies n).append (hpart.plus times.greedy)
      rw [hn, Nat.succ_sub_one, List.replicate_succ', List.flatten_append, List.flatten_singleton,
        List.append_assoc]
      exact h
  | some max => exact (hpart.copies times.min).append (hpart.optionals times.greedy _)

end Layout.StemsFrom

mutual
/-- A node is written for its parts in their order. -/
theorem Node.stemsFrom (flags : Flags) : (node : Node) →
    (node.layout flags).StemsFrom flags node.origins
  | .empty => .nothing
  | .leaf l => .letter l
  | .group (some index) body =>
    (Layout.StemsFrom.opening index).append
      ((Node.stemsFrom flags body).append (.closing index))
  | .group none body => by
    simpa only [Node.layout, Node.origins] using Node.stemsFrom flags body
  | .concat parts => by
    simpa only [Node.layout, Node.origins] using Node.stemsFrom_all flags parts
  | .alternate branches => by
    simpa only [Node.layout, Node.origins] using Node.stemsFrom_choice flags branches
  | .repetition body times => by
    have ih := Node.stemsFrom flags body
    simp only [Node.layout, Node.origins, Node.codeSize_eq_zero_iff]
    by_cases hbody : body.codeLength = 0
    · simpa only [hbody, if_true] using Layout.StemsFrom.nothing
    · simpa only [hbody, if_false] using ih.repeated times

theorem Node.stemsFrom_all (flags : Flags) : (nodes : List Node) →
    (Node.layoutAll flags nodes).StemsFrom flags (Node.originsAll nodes)
  | [] => .nothing
  | node :: nodes => (Node.stemsFrom flags node).append (Node.stemsFrom_all flags nodes)

theorem Node.stemsFrom_choice (flags : Flags) : (nodes : List Node) →
    (Node.layoutChoice flags nodes).StemsFrom flags (Node.originsChoice nodes)
  | [] => .nothing
  | [node] => Node.stemsFrom flags node
  | node :: next :: nodes =>
    (Node.stemsFrom flags node).choice (Node.stemsFrom_choice flags (next :: nodes))
end

/-! ## Programs -/

section
variable {flags : Flags} {root : Node}

/-- The code of a tree is written for its parts in their order. -/
theorem Node.gives_layout (flags : Flags)
    (hroom : root.codeLength + 1 ≤ Engine.maxInstructions) :
    List.Forall₂ (Origin.Gives flags (root.layout flags 0 []).table) root.origins
      (root.layout flags 0 []).code :=
  (root.stemsFrom flags).gives List.prefix_rfl (Node.fits_finishedCode hroom).table_le

/-- An instruction of finished code is the one that its part of the tree asks for, or it
is the last one and reports a match. -/
theorem Node.gives_or_accept (hroom : root.codeLength + 1 ≤ Engine.maxInstructions) {pc : Nat}
    {i : Instruction} (hi : (root.finishedCode flags)[pc]? = some i) :
    (∃ o, root.origins[pc]? = some o ∧ o.Gives flags (root.layout flags 0 []).table i) ∨
      i = .make .accept 0 0 := by
  rw [finishedCode, List.getElem?_append] at hi
  split at hi
  · rename_i hpc
    obtain ⟨hlength, hgives⟩ := List.forall₂_iff_get.1 (gives_layout flags hroom)
    obtain ⟨-, rfl⟩ := List.getElem?_eq_some_iff.1 hi
    exact .inl ⟨_, List.getElem?_eq_getElem (by omega), hgives pc (by omega) hpc⟩
  · exact .inr (List.mem_singleton.1 (List.mem_of_getElem? hi))

/-- Every part of the tree is written at its place. -/
theorem Node.exists_gives (hroom : root.codeLength + 1 ≤ Engine.maxInstructions) {pc : Nat}
    {o : Origin} (ho : root.origins[pc]? = some o) :
    ∃ i, (root.finishedCode flags)[pc]? = some i ∧
      o.Gives flags (root.layout flags 0 []).table i := by
  obtain ⟨hlength, hgives⟩ := List.forall₂_iff_get.1 (gives_layout flags hroom)
  obtain ⟨hpc, rfl⟩ := List.getElem?_eq_some_iff.1 ho
  have hpc' : pc < (root.layout flags 0 []).code.length := by omega
  refine ⟨_, ?_, hgives pc hpc hpc'⟩
  rw [finishedCode, List.getElem?_append_left hpc']
  exact List.getElem?_eq_getElem hpc'

end

end DeviceRegex
