import DeviceRegex.Proofs.Pattern.Grammar
import DeviceRegex.Proofs.Pattern.Lookahead
import DeviceRegex.Proofs.Pattern.Renumbering

/-!
# Patterns made of patterns

Two patterns with a bar between them are the choice between the branches of both, and a
pattern in parentheses is a group. The groups of a pattern keep their order and are
numbered on from those in front of it.

## Main definitions

* `Pattern.choice`, `Pattern.enclosed`, `Pattern.captured` — what two patterns with a bar
  between them, and a pattern in parentheses, are read as.
-/
namespace DeviceRegex

open Pattern

/-! ## Branches -/

namespace Node

theorem normal_branches {node : Node} (h : node.Normal) :
    node.branches ≠ [] ∧ ∀ branch ∈ node.branches, branch.isAlternate = false ∧ branch.Normal := by
  cases node with
  | alternate branches =>
    obtain ⟨hlen, hflat, hall⟩ := h
    refine ⟨List.ne_nil_of_length_pos (Nat.lt_of_lt_of_le Nat.two_pos hlen), ?_⟩
    exact fun branch hbranch => ⟨hflat branch hbranch, normalAll_iff.1 hall branch hbranch⟩
  | _ => exact ⟨List.cons_ne_nil _ _, List.forall_mem_singleton.2 ⟨rfl, h⟩⟩

theorem numbersAll_branches (node : Node) : numbersAll node.branches = node.numbers := by
  cases node <;> first | rfl | exact numbersAll_singleton _

theorem depthAll_branches (node : Node) : depthAll node.branches = node.depth := by
  cases node <;> first | rfl | exact Nat.max_zero _

theorem spellBranches_branches {mode : CaptureMode} {node : Node} {text rest : List Char} :
    SpellBranches mode node.branches text rest ↔ node.Spells mode text rest := by
  cases node <;> rfl

theorem depthAll_append (nodes nodes' : List Node) :
    depthAll (nodes ++ nodes') = max (depthAll nodes) (depthAll nodes') := by
  induction nodes with
  | nil => simp [depthAll]
  | cons node nodes ih => simp [depthAll, ih, Nat.max_assoc]

/-- A body is written in front of whatever may end its last branch. -/
theorem Spells.append {mode : CaptureMode} {node : Node} {text behind : List Char}
    (h : node.Spells mode text []) (hbehind : EndsBranch behind) :
    node.Spells mode (text ++ behind) behind := by
  obtain ⟨front, rfl, hfront⟩ := Node.Spells.stable node h
  rw [List.append_nil]
  exact hfront behind (.stop .nil hbehind)

end Node

namespace Pattern
variable {mode : CaptureMode} {p q : Pattern}

/-! ## Choices -/

/-- The choice between the branches of two patterns. The groups of the second one are
numbered behind those of the first one. -/
def choice (p q : Pattern) : Pattern :=
  ⟨.alternate (p.root.branches ++ q.root.branches.map (·.renumbered p.groups)),
    p.groups + q.groups⟩

theorem choice_eq (p q : Pattern) :
    p.choice q = ⟨.alternate (p.root.branches ++ (q.root.renumbered p.groups).branches),
      p.groups + q.groups⟩ := by
  rw [choice, Node.branches_renumbered]

theorem Normal.choice (hp : p.Normal mode) (hq : q.Normal mode) : (p.choice q).Normal mode := by
  obtain ⟨hne, hbranches⟩ := Node.normal_branches hp.root
  obtain ⟨hne', hbranches'⟩ := Node.normal_branches (Node.normal_renumbered q.root hq.root)
  have hnumbers : (p.choice q).root.numbers =
      p.root.numbers ++ q.root.numbers.map (· + p.groups) := by
    rw [choice_eq]
    simp only [Node.numbers, Node.numbersAll_append, Node.numbersAll_branches,
      Node.numbers_renumbered]
  have hdepth : (p.choice q).root.depth = max p.root.depth q.root.depth := by
    rw [choice_eq]
    simp only [Node.depth, Node.depthAll_append, Node.depthAll_branches, Node.depth_renumbered]
  have hall : ∀ branch ∈ p.root.branches ++ (q.root.renumbered p.groups).branches,
      branch.isAlternate = false ∧ branch.Normal := by
    intro branch hbranch
    rcases List.mem_append.1 hbranch with hbranch | hbranch
    · exact hbranches branch hbranch
    · exact hbranches' branch hbranch
  refine ⟨?_, ?_, ?_, ?_⟩
  · rw [choice_eq]
    refine ⟨?_, fun branch hbranch => (hall branch hbranch).1,
      Node.normalAll_iff.2 fun branch hbranch => (hall branch hbranch).2⟩
    have := List.length_pos_iff.2 hne
    have := List.length_pos_iff.2 hne'
    rw [List.length_append]
    omega
  · rw [hdepth]
    exact Nat.max_le.2 ⟨hp.depth_le, hq.depth_le⟩
  · rw [hnumbers, Numbered.append_iff, ← hp.groups_eq]
    exact ⟨hp.numbered, hq.numbered.map_add p.groups⟩
  · rw [hnumbers, List.length_append, List.length_map, ← hp.groups_eq, ← hq.groups_eq]
    rfl

/-- A bar separates the branches of two patterns. -/
theorem spells_choice (hp : p.root.Normal) (hq : q.root.Normal) {text text' : List Char}
    (h : p.root.Spells mode text []) (h' : q.root.Spells mode text' []) :
    (p.choice q).root.Spells mode (text ++ '|' :: text') [] := by
  rw [choice_eq]
  change Node.SpellBranches mode _ _ _
  rw [Node.spellBranches_append (Node.normal_branches hp).1
    (Node.normal_branches (Node.normal_renumbered q.root hq)).1]
  refine ⟨text', ?_, ?_⟩
  · rw [Node.spellBranches_branches]
    exact h.append (.bar text')
  · rw [Node.spellBranches_branches]
    exact Node.spells_renumbered q.root h'

/-! ## Groups -/

/-- A pattern as a group without a number. -/
def enclosed (p : Pattern) : Pattern := ⟨.group none p.root, p.groups⟩

/-- A pattern as a group with the first number, in front of its own groups. -/
def captured (p : Pattern) : Pattern := ⟨.group (some 1) (p.root.renumbered 1), p.groups + 1⟩

theorem Normal.enclosed (h : p.Normal mode) (hdepth : p.root.depth < Engine.maxNesting) :
    p.enclosed.Normal mode where
  root := h.root
  depth_le := hdepth
  numbered := h.numbered
  groups_eq := h.groups_eq

theorem Normal.captured (h : p.Normal .extract) (hdepth : p.root.depth < Engine.maxNesting) :
    p.captured.Normal .extract := by
  have hnumbers : p.captured.root.numbers = 1 :: p.root.numbers.map (· + 1) := by
    simp [Pattern.captured, Node.numbers, Node.numbers_renumbered]
  refine ⟨Node.normal_renumbered p.root h.root, ?_, ?_, ?_⟩
  · simp only [Pattern.captured, Node.depth, Node.depth_renumbered]
    exact hdepth
  · rw [hnumbers, Numbered.cons_iff]
    exact ⟨rfl, rfl, h.numbered.map_add 1⟩
  · rw [hnumbers, List.length_cons, List.length_map, ← h.groups_eq]
    rfl

theorem spells_enclosed {text : List Char} (h : p.root.Spells mode text []) :
    p.enclosed.root.Spells mode ('(' :: '?' :: ':' :: (text ++ [')'])) [] :=
  ⟨_, .plain mode _, h.append (.close [])⟩

theorem spells_captured {text : List Char} (h : p.root.Spells mode text []) :
    p.captured.root.Spells mode ('(' :: (text ++ [')'])) [] :=
  ⟨_, .numbered mode 1 _, Node.spells_renumbered p.root (h.append (.close []))⟩

/-- **Valid patterns compose.** With a bar between them, two patterns are read as the
choice between the branches of both, the groups of the second one numbered behind those of
the first one; and a pattern whose groups leave room for one more is read in parentheses as
a group, which takes the first number where groups are kept. -/
theorem parse_composes {text text' : List Char} (hp : parse mode text = .ok p)
    (hq : parse mode text' = .ok q) :
    parse mode (text ++ '|' :: text') = .ok (p.choice q) ∧
      (p.root.depth ≤ 199 →
        parse mode ('(' :: '?' :: ':' :: (text ++ [')'])) = .ok p.enclosed ∧
          (mode = .extract → parse mode ('(' :: (text ++ [')'])) = .ok p.captured)) := by
  obtain ⟨hnormal, hspells⟩ := parse_eq_ok_iff.1 hp
  obtain ⟨hnormal', hspells'⟩ := parse_eq_ok_iff.1 hq
  refine ⟨?choice, fun hdepth => ⟨?enclosed, ?captured⟩⟩
  case choice =>
    exact parse_eq_ok_iff.2
      ⟨hnormal.choice hnormal', spells_choice hnormal.root hnormal'.root hspells hspells'⟩
  case enclosed =>
    exact parse_eq_ok_iff.2 ⟨hnormal.enclosed (Nat.lt_succ_of_le hdepth), spells_enclosed hspells⟩
  case captured =>
    rintro rfl
    exact parse_eq_ok_iff.2 ⟨hnormal.captured (Nat.lt_succ_of_le hdepth), spells_captured hspells⟩

/-- The first pattern ends in a brace that starts no counted quantifier, and the second one
has a group of its own. -/
theorem parse_composes_at_lookahead :
    parse .extract ['(', 'a', ')', '{', '1'] =
        .ok ⟨.concat [.group (some 1) (.leaf (.char 'a')), .leaf (.char '{'),
          .leaf (.char '1')], 1⟩ ∧
      parse .extract ['b', '|', '(', 'c', ')', '+', '?'] =
        .ok ⟨.alternate [.leaf (.char 'b'),
          .repetition (.group (some 1) (.leaf (.char 'c'))) ⟨1, none, false⟩], 1⟩ ∧
      parse .extract ['(', 'a', ')', '{', '1', '|', 'b', '|', '(', 'c', ')', '+', '?'] =
        .ok ⟨.alternate [.concat [.group (some 1) (.leaf (.char 'a')), .leaf (.char '{'),
            .leaf (.char '1')], .leaf (.char 'b'),
          .repetition (.group (some 2) (.leaf (.char 'c'))) ⟨1, none, false⟩], 2⟩ ∧
      parse .extract ['(', '(', 'a', ')', '{', '1', ')'] =
        .ok ⟨.group (some 1) (.concat [.group (some 2) (.leaf (.char 'a')), .leaf (.char '{'),
          .leaf (.char '1')]), 2⟩ := by
  have hp : parse .extract ['(', 'a', ')', '{', '1'] =
      .ok ⟨.concat [.group (some 1) (.leaf (.char 'a')), .leaf (.char '{'),
        .leaf (.char '1')], 1⟩ := by cbv
  have hq : parse .extract ['b', '|', '(', 'c', ')', '+', '?'] =
      .ok ⟨.alternate [.leaf (.char 'b'),
        .repetition (.group (some 1) (.leaf (.char 'c'))) ⟨1, none, false⟩], 1⟩ := by cbv
  obtain ⟨hchoice, hgroups⟩ := parse_composes hp hq
  exact ⟨hp, hq, hchoice, (hgroups (by decide)).2 rfl⟩

end Pattern
end DeviceRegex
