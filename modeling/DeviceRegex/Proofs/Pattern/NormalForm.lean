import DeviceRegex.Proofs.Pattern.Accepted
import DeviceRegex.Proofs.Pattern.Steps

/-!
# Patterns that are read are normal

The tree of every pattern that is read is normal, its groups are nested within the limit,
and they are numbered by their opening parentheses. While a pattern is read, all of this
holds of the parts and branches read so far, in every open group, and the groups met so
far have the numbers up to their count.

## Main definitions

* `OpenAlternation.Sound level o` — parts and branches of an alternation inside `level`
  open groups.
* `State.numbers` — the numbers of all groups met so far, from left to right.
* `State.Sound mode st` — what holds of the state all the time.
-/
namespace DeviceRegex

/-! ## Lists of nodes -/

namespace Node

theorem depthAll_le {nodes : List Node} {n : Nat} (h : ∀ node ∈ nodes, node.depth ≤ n) :
    depthAll nodes ≤ n := by
  induction nodes with
  | nil => exact Nat.zero_le n
  | cons node nodes ih =>
    obtain ⟨hnode, hnodes⟩ := List.forall_mem_cons.1 h
    exact Nat.max_le.2 ⟨hnode, ih hnodes⟩

@[simp] theorem numbersAll_append (nodes nodes' : List Node) :
    numbersAll (nodes ++ nodes') = numbersAll nodes ++ numbersAll nodes' := by
  induction nodes with
  | nil => rfl
  | cons node nodes ih => simp [numbersAll, ih]

@[simp] theorem numbersAll_singleton (node : Node) : numbersAll [node] = node.numbers := by
  simp [numbersAll]

@[simp] theorem numbers_ofParts (parts : List Node) :
    (ofParts parts).numbers = numbersAll parts := by
  cases parts with
  | nil => rfl
  | cons part parts =>
    cases parts with
    | nil => simp [ofParts]
    | cons next parts => simp [ofParts, numbers]

@[simp] theorem numbers_ofBranches (branches : List Node) :
    (ofBranches branches).numbers = numbersAll branches := by
  cases branches with
  | nil => simp [ofBranches, numbers]
  | cons branch branches =>
    cases branches with
    | nil => simp [ofBranches]
    | cons next branches => simp [ofBranches, numbers]

/-- What may stand in a sequence inside `level` open groups. -/
structure SoundPart (level : Nat) (node : Node) : Prop where
  normal : node.Normal
  part : node.isPart
  depth_le : level + node.depth ≤ Engine.maxNesting

/-- What may be a branch of a choice inside `level` open groups. -/
structure SoundBranch (level : Nat) (node : Node) : Prop where
  normal : node.Normal
  flat : node.isAlternate = false
  depth_le : level + node.depth ≤ Engine.maxNesting

section
variable {level : Nat} {node : Node} {nodes : List Node}

theorem SoundPart.branch (h : SoundPart level node) : SoundBranch level node where
  normal := h.normal
  flat := by
    have hpart := h.part
    cases node <;> first | rfl | cases hpart
  depth_le := h.depth_le

/-- Sound parts make a sound branch. -/
theorem soundBranch_ofParts (hlevel : level ≤ Engine.maxNesting)
    (h : ∀ part ∈ nodes, SoundPart level part) : SoundBranch level (ofParts nodes) := by
  match nodes, h with
  | [], _ => exact ⟨trivial, rfl, hlevel⟩
  | [part], h => exact (h part List.mem_cons_self).branch
  | first :: second :: rest, h =>
    refine ⟨⟨?_, fun part hpart => (h part hpart).part, ?_⟩, rfl, ?_⟩
    · simp
    · exact normalAll_iff.2 fun part hpart => (h part hpart).normal
    · have hdepth : depthAll (first :: second :: rest) ≤ Engine.maxNesting - level := by
        refine depthAll_le fun part hpart => ?_
        have := (h part hpart).depth_le
        omega
      simp only [ofParts, depth]
      omega

/-- Sound branches make a sound body. -/
theorem sound_ofBranches (hne : nodes ≠ []) (hlevel : level ≤ Engine.maxNesting)
    (h : ∀ branch ∈ nodes, SoundBranch level branch) :
    (ofBranches nodes).Normal ∧ level + (ofBranches nodes).depth ≤ Engine.maxNesting := by
  match nodes, hne, h with
  | [branch], _, h =>
    have hbranch := h branch List.mem_cons_self
    exact ⟨hbranch.normal, hbranch.depth_le⟩
  | first :: second :: rest, _, h =>
    refine ⟨⟨by simp, fun branch hbranch => (h branch hbranch).flat, ?_⟩, ?_⟩
    · exact normalAll_iff.2 fun branch hbranch => (h branch hbranch).normal
    · have hdepth : depthAll (first :: second :: rest) ≤ Engine.maxNesting - level := by
        refine depthAll_le fun branch hbranch => ?_
        have := (h branch hbranch).depth_le
        omega
      simp only [ofBranches, depth]
      omega

end
end Node

open Pattern

/-- A quantifier keeps the groups of a part, and makes a sound part of it. -/
theorem Node.SoundPart.of_quantify {level : Nat} {part node : Node} {text rest : List Char}
    (h : quantify part text = .ok (node, rest)) (hpart : part.SoundPart level)
    (hrepeatable : part.isAssertion = false → part.isRepeatable) :
    node.SoundPart level ∧ node.numbers = part.numbers := by
  rcases quantify_cases h with rfl | ⟨times, htimes, hassertion, rfl⟩
  · exact ⟨hpart, rfl⟩
  · exact ⟨⟨⟨hrepeatable hassertion, htimes, hpart.normal⟩, rfl, hpart.depth_le⟩, rfl⟩

/-! ## Open alternations -/

namespace Pattern.OpenAlternation

/-- Parts and branches of an alternation are sound inside `level` open groups. -/
structure Sound (level : Nat) (o : OpenAlternation) : Prop where
  level_le : level ≤ Engine.maxNesting
  branches : ∀ branch ∈ o.branches, branch.SoundBranch level
  parts : ∀ part ∈ o.parts, part.SoundPart level

/-- The numbers of the groups of an alternation, from left to right. -/
def numbers (o : OpenAlternation) : List Nat :=
  Node.numbersAll o.branches.reverse ++ Node.numbersAll o.parts.reverse

@[simp] theorem numbers_empty : empty.numbers = [] := rfl

@[simp] theorem numbers_bar (o : OpenAlternation) : o.bar.numbers = o.numbers := by
  simp [numbers, bar, Node.numbersAll]

@[simp] theorem numbers_push (o : OpenAlternation) (part : Node) :
    (o.push part).numbers = o.numbers ++ part.numbers := by
  simp [numbers, push]

@[simp] theorem numbers_close (o : OpenAlternation) : o.close.numbers = o.numbers := by
  simp [close, bar, numbers]

variable {level : Nat} {o : OpenAlternation}

theorem Sound.empty (hlevel : level ≤ Engine.maxNesting) : OpenAlternation.empty.Sound level where
  level_le := hlevel
  branches _ h := nomatch h
  parts _ h := nomatch h

theorem Sound.push (h : o.Sound level) {part : Node} (hpart : part.SoundPart level) :
    (o.push part).Sound level :=
  ⟨h.level_le, h.branches, List.forall_mem_cons.2 ⟨hpart, h.parts⟩⟩

theorem Sound.bar (h : o.Sound level) : o.bar.Sound level := by
  have hbranch : (Node.ofParts o.parts.reverse).SoundBranch level := by
    apply Node.soundBranch_ofParts h.level_le
    intro part hpart
    exact h.parts part (List.mem_reverse.1 hpart)
  exact ⟨h.level_le, List.forall_mem_cons.2 ⟨hbranch, h.branches⟩, fun _ h => nomatch h⟩

/-- A complete alternation is a normal body. -/
theorem Sound.close (h : o.Sound level) :
    o.close.Normal ∧ level + o.close.depth ≤ Engine.maxNesting := by
  apply Node.sound_ofBranches _ h.level_le
  · intro branch hbranch
    exact h.bar.branches branch (List.mem_reverse.1 hbranch)
  · simp [OpenAlternation.bar]

end Pattern.OpenAlternation

/-! ## States -/

namespace Pattern.State

/-- The numbers of the groups met outside the innermost open group, from left to right. -/
def outerNumbers : List OpenGroup → List Nat
  | [] => []
  | group :: stack => outerNumbers stack ++ group.outer.numbers ++ group.index.toList

/-- The numbers of all groups met so far, from left to right. -/
def numbers (st : State) : List Nat := outerNumbers st.stack ++ st.current.numbers

/-- The alternations in which groups are open are sound, each at its own level. -/
def SoundStack : List OpenGroup → Prop
  | [] => True
  | group :: stack => group.outer.Sound stack.length ∧ SoundStack stack

/-- What holds of the state all the time: everything read so far is normal, and the groups
have the numbers from 1 on. -/
structure Sound (mode : CaptureMode) (st : State) : Prop where
  current : st.current.Sound st.stack.length
  stack : SoundStack st.stack
  numbered : Numbered mode 1 st.numbers
  groups_eq : st.groups = st.numbers.length

theorem Sound.initial (mode : CaptureMode) : State.initial.Sound mode where
  current := .empty (Nat.zero_le _)
  stack := trivial
  numbered := by cases mode <;> rfl
  groups_eq := rfl

variable {mode : CaptureMode} {st st' : State}

/-- A part without groups of its own may be added. -/
theorem Sound.push (h : st.Sound mode) {part : Node} (hpart : part.SoundPart st.stack.length)
    (hnumbers : part.numbers = []) :
    ({ st with current := st.current.push part } : State).Sound mode := by
  have hsame : numbers { st with current := st.current.push part } = st.numbers := by
    simp [numbers, hnumbers]
  refine ⟨h.current.push hpart, h.stack, ?_, ?_⟩
  · rw [hsame]
    exact h.numbered
  · rw [hsame]
    exact h.groups_eq

/-- An opening parenthesis takes the next number before all groups inside. -/
theorem Sound.openGroup (h : st.Sound mode) {index : Option Nat} (opening : List Char)
    (hdepth : st.stack.length < Engine.maxNesting)
    (hindex : index = none ∨ mode = .extract ∧ index = some (st.groups + 1)) :
    (⟨st.groups + index.toList.length, ⟨opening, index, st.current⟩ :: st.stack, .empty⟩ :
      State).Sound mode := by
  have hnumbers : numbers ⟨st.groups + index.toList.length,
      ⟨opening, index, st.current⟩ :: st.stack, .empty⟩ = st.numbers ++ index.toList := by
    simp [numbers, outerNumbers]
  refine ⟨.empty hdepth, ⟨h.current, h.stack⟩, ?_, ?_⟩
  · rw [hnumbers, Numbered.append_iff, ← h.groups_eq]
    refine ⟨h.numbered, ?_⟩
    rcases hindex with rfl | ⟨rfl, rfl⟩
    · cases mode <;> rfl
    · exact Numbered.cons_iff.2 ⟨rfl, Nat.add_comm _ _, rfl⟩
  · rw [hnumbers, List.length_append, ← h.groups_eq]

/-- A closing parenthesis makes a part of the open group. -/
theorem Sound.closeGroup (h : st.Sound mode) {group : OpenGroup} {stack : List OpenGroup}
    {part : Node} {text rest : List Char} (hstack : st.stack = group :: stack)
    (hpart : quantify (.group group.index st.current.close) text = .ok (part, rest)) :
    (⟨st.groups, stack, group.outer.push part⟩ : State).Sound mode := by
  have hcurrent := h.current
  have houter := h.stack
  rw [hstack] at hcurrent houter
  obtain ⟨hnormal, hdepth⟩ := hcurrent.close
  have hgroup : (Node.group group.index st.current.close).SoundPart stack.length := by
    refine ⟨hnormal, rfl, ?_⟩
    simp only [Node.depth]
    simp only [List.length_cons] at hdepth
    omega
  obtain ⟨hsound, hnumbers⟩ := Node.SoundPart.of_quantify hpart hgroup fun _ => rfl
  have hsame : numbers ⟨st.groups, stack, group.outer.push part⟩ = st.numbers := by
    simp [numbers, hstack, outerNumbers, hnumbers, Node.numbers]
  refine ⟨houter.1.push hsound, houter.2, ?_, ?_⟩
  · rw [hsame]
    exact h.numbered
  · rw [hsame]
    exact h.groups_eq

/-- Every step keeps what is read normal. -/
theorem Sound.takes (htakes : Takes mode st st') (h : st.Sound mode) : st'.Sound mode := by
  cases htakes with
  | bar =>
    have hsame : numbers { st with current := st.current.bar } = st.numbers := by simp [numbers]
    refine ⟨h.current.bar, h.stack, ?_, ?_⟩
    · rw [hsame]
      exact h.numbered
    · rw [hsame]
      exact h.groups_eq
  | openGroup opening hdepth hindex => exact h.openGroup opening hdepth hindex
  | closeGroup hstack hpart => exact h.closeGroup hstack hpart
  | @leaf c l part text mid rest hleaf hpart =>
    have hsound : (Node.leaf l).SoundPart st.stack.length :=
      ⟨normal_of_readLeaf hleaf, rfl, h.current.level_le⟩
    obtain ⟨hpart, hnumbers⟩ := Node.SoundPart.of_quantify hpart hsound fun hassertion => by
      rw [Node.isRepeatable, show l.isAssertion = false from hassertion]
      rfl
    exact h.push hpart hnumbers

/-- What a complete pattern is made of is normal. -/
theorem Sound.finish (h : st.Sound mode) {p : Pattern} (hp : st.finish = .ok p) :
    p.Normal mode := by
  unfold State.finish at hp
  split at hp
  · rename_i hstack
    obtain rfl := Except.ok.inj hp
    have hnumbers : st.current.close.numbers = st.numbers := by
      simp [numbers, hstack, outerNumbers]
    obtain ⟨hnormal, hdepth⟩ := h.current.close
    refine ⟨hnormal, Nat.le_trans (Nat.le_add_left _ _) hdepth, ?_, ?_⟩
    · simp only [hnumbers]
      exact h.numbered
    · simp only [hnumbers]
      exact h.groups_eq
  · cases hp

/-- Reading keeps the pattern sound. -/
theorem Sound.of_run {text : List Char} (h : State.initial.run mode text = .ok st) :
    st.Sound mode :=
  State.run_induction (fun htakes hst => Sound.takes htakes hst) h (.initial mode)

end Pattern.State

/-- **Every pattern that is read is normal.** Sequences and choices join at least two
nodes and are not nested directly, quantifiers stand behind what may be repeated, with
bounds in order and within the limit, sets have items and no reversed range, groups nest
within the limit, and their numbers are 1, 2, … in the order of their opening parentheses,
or there are none where no groups are kept. -/
theorem Pattern.normal_of_parse {mode : CaptureMode} {text : List Char} {p : Pattern}
    (h : parse mode text = .ok p) : p.Normal mode := by
  obtain ⟨st, hrun, hfinish⟩ := bind_eq_ok_iff.1 h
  exact (State.Sound.of_run hrun).finish hfinish

/-- A pattern with nested groups, a lazy repetition, a set and an empty branch. -/
theorem Pattern.normal_of_parse_nested :
    ∃ p, parse .extract ['(', '(', '?', ':', 'a', '|', '[', 'b', '-', 'd', ']', ')', '{', '2', ',',
        '}', '?', '(', ')', ')', '|'] = .ok p ∧
      p.groups = 2 ∧ p.root.numbers = [1, 2] ∧ p.root.depth = 2 ∧ p.Normal .extract := by
  have hread : (parse .extract ['(', '(', '?', ':', 'a', '|', '[', 'b', '-', 'd', ']', ')', '{',
      '2', ',', '}', '?', '(', ')', ')', '|']).toOption.map
        (fun p => (p.groups, p.root.numbers, p.root.depth)) = some (2, [1, 2], 2) := by
    decide +kernel
  cases hp : parse .extract ['(', '(', '?', ':', 'a', '|', '[', 'b', '-', 'd', ']', ')', '{', '2',
      ',', '}', '?', '(', ')', ')', '|'] with
  | error e =>
    rw [hp] at hread
    cases hread
  | ok p =>
    rw [hp] at hread
    have hfields := Option.some.inj hread
    simp only [Prod.mk.injEq] at hfields
    exact ⟨p, rfl, hfields.1, hfields.2.1, hfields.2.2, normal_of_parse hp⟩

end DeviceRegex
