import DeviceRegex.Pattern.Parse

/-!
# Groups without numbers

The capture mode decides which groups have numbers and nothing else: reading a pattern
where no groups are kept finds the tree that is read where they are kept, without the
numbers, and finds the same fault where there is one.

## Main definitions

* `Node.unnumbered` — a tree without the numbers of its groups.
* `State.unnumbered` — what is known of a pattern of which a part is read, without the
  numbers.
-/
namespace DeviceRegex

open Pattern

mutual
/-- A tree without the numbers of its groups. -/
def Node.unnumbered : Node → Node
  | .empty => .empty
  | .leaf l => .leaf l
  | .group _ body => .group none body.unnumbered
  | .concat parts => .concat (Node.unnumberedAll parts)
  | .alternate branches => .alternate (Node.unnumberedAll branches)
  | .repetition body times => .repetition body.unnumbered times

/-- The trees of a list without the numbers of their groups. -/
def Node.unnumberedAll : List Node → List Node
  | [] => []
  | node :: nodes => node.unnumbered :: Node.unnumberedAll nodes
end

namespace Node

theorem unnumberedAll_eq_map (nodes : List Node) : unnumberedAll nodes = nodes.map unnumbered := by
  induction nodes with
  | nil => rfl
  | cons node nodes ih => simp [unnumberedAll, ih]

@[simp] theorem length_unnumberedAll (nodes : List Node) :
    (unnumberedAll nodes).length = nodes.length := by
  simp [unnumberedAll_eq_map]

@[simp] theorem isAssertion_unnumbered (node : Node) :
    node.unnumbered.isAssertion = node.isAssertion := by
  cases node <;> rfl

theorem ofParts_map_unnumbered (parts : List Node) :
    ofParts (parts.map unnumbered) = (ofParts parts).unnumbered := by
  cases parts with
  | nil => rfl
  | cons part parts =>
    cases parts with
    | nil => rfl
    | cons next parts => simp [ofParts, unnumbered, unnumberedAll_eq_map]

theorem ofBranches_map_unnumbered (branches : List Node) :
    ofBranches (branches.map unnumbered) = (ofBranches branches).unnumbered := by
  cases branches with
  | nil => rfl
  | cons branch branches =>
    cases branches with
    | nil => rfl
    | cons next branches => simp [ofBranches, unnumbered, unnumberedAll_eq_map]

end Node

namespace Pattern

/-- A pattern without the numbers of its groups, none of which is counted. -/
def unnumbered (p : Pattern) : Pattern := ⟨p.root.unnumbered, 0⟩

/-- A quantifier does not look at the numbers in the part it repeats. -/
theorem quantify_unnumbered (part : Node) (text : List Char) :
    quantify part.unnumbered text = (quantify part text).map (Prod.map Node.unnumbered id) := by
  rw [quantify, quantify]
  cases hbounds : bounds? text with
  | error e => rfl
  | ok found =>
    cases found with
    | none => rfl
    | some found =>
      obtain ⟨⟨min, max⟩, rest⟩ := found
      simp only [bind, Except.bind, Node.isAssertion_unnumbered]
      by_cases hassertion : part.isAssertion
      · rw [if_pos hassertion, if_pos hassertion]
        rfl
      · rw [if_neg hassertion, if_neg hassertion]
        cases bounds? (dropLazyMark rest) with
        | error e => rfl
        | ok again => cases again <;> rfl

namespace OpenAlternation

/-- An alternation without the numbers of its groups. -/
def unnumbered (o : OpenAlternation) : OpenAlternation :=
  ⟨o.branches.map Node.unnumbered, o.parts.map Node.unnumbered⟩

theorem unnumbered_bar (o : OpenAlternation) : o.bar.unnumbered = o.unnumbered.bar := by
  simp [unnumbered, bar, ← List.map_reverse, Node.ofParts_map_unnumbered]

theorem unnumbered_close (o : OpenAlternation) : o.close.unnumbered = o.unnumbered.close := by
  rw [close, close, ← unnumbered_bar, ← Node.ofBranches_map_unnumbered, List.map_reverse]
  rfl

end OpenAlternation

/-- An open group without a number, and without the numbers in front of it. -/
def OpenGroup.unnumbered (group : OpenGroup) : OpenGroup :=
  ⟨group.opening, none, group.outer.unnumbered⟩

namespace State

/-- What is known of a pattern of which a part is read, without the numbers of its
groups. -/
def unnumbered (st : State) : State :=
  ⟨0, st.stack.map OpenGroup.unnumbered, st.current.unnumbered⟩

variable (st : State)

theorem openGroup_unnumbered (text : List Char) :
    st.unnumbered.openGroup .nonCapture text =
      (st.openGroup .extract text).map (Prod.map unnumbered id) := by
  simp only [openGroup, unnumbered, List.length_map]
  by_cases hdepth : Engine.maxNesting ≤ st.stack.length
  · rw [if_pos hdepth, if_pos hdepth]
    rfl
  · rw [if_neg hdepth, if_neg hdepth]
    split <;> rfl

theorem closeGroup_unnumbered (text : List Char) :
    st.unnumbered.closeGroup text = (st.closeGroup text).map (Prod.map unnumbered id) := by
  obtain ⟨groups, stack, current⟩ := st
  cases stack with
  | nil => rfl
  | cons group stack =>
    have hquantify := quantify_unnumbered (.group group.index current.close) text
    rw [Node.unnumbered, OpenAlternation.unnumbered_close] at hquantify
    simp only [closeGroup, unnumbered, List.map_cons, OpenGroup.unnumbered, hquantify]
    cases quantify (.group group.index current.close) text <;> rfl

theorem readPart_unnumbered (c : Char) (text : List Char) :
    st.unnumbered.readPart c text = (st.readPart c text).map (Prod.map unnumbered id) := by
  rw [readPart, readPart]
  cases readLeaf c text with
  | error e => rfl
  | ok found =>
    obtain ⟨leaf, rest⟩ := found
    change (quantify (Node.leaf leaf).unnumbered rest).bind _ =
      Except.map _ ((quantify (.leaf leaf) rest).bind _)
    rw [quantify_unnumbered]
    cases quantify (.leaf leaf) rest <;> rfl

/-- One step does the same whether groups are kept or not. -/
theorem step_unnumbered (c : Char) (text : List Char) :
    st.unnumbered.step .nonCapture c text =
      (st.step .extract c text).map (Prod.map unnumbered id) := by
  unfold step
  split
  · have hbar := st.current.unnumbered_bar
    change Except.ok (State.mk 0 _ st.current.unnumbered.bar, text) = _
    rw [← hbar]
    rfl
  · exact st.openGroup_unnumbered text
  · exact st.closeGroup_unnumbered text
  · exact st.readPart_unnumbered c text

theorem run_unnumbered (text : List Char) :
    st.unnumbered.run .nonCapture text = (st.run .extract text).map unnumbered := by
  fun_induction State.run .extract st text with
  | case1 st =>
    rw [State.run]
    rfl
  | case2 st c text e hstep =>
    have h := st.step_unnumbered c text
    rw [hstep] at h
    rw [State.run]
    split <;> simp_all [Except.map]
  | case3 st c text next rest hstep ih =>
    have h := st.step_unnumbered c text
    rw [hstep] at h
    rw [← ih, State.run]
    split <;> simp_all [Except.map]

theorem finish_unnumbered : st.unnumbered.finish = st.finish.map Pattern.unnumbered := by
  obtain ⟨groups, stack, current⟩ := st
  cases stack with
  | nil =>
    have hclose := current.unnumbered_close
    simp [finish, unnumbered, Except.map, Pattern.unnumbered, hclose]
  | cons group stack => rfl

end State

/-- A pattern is read alike whether groups are kept or not, apart from their numbers. -/
theorem parse_nonCapture (text : List Char) :
    parse .nonCapture text = (parse .extract text).map Pattern.unnumbered := by
  have hrun := State.run_unnumbered .initial text
  have hinitial : State.initial.unnumbered = State.initial := rfl
  rw [hinitial] at hrun
  rw [parse, parse, hrun]
  cases State.initial.run .extract text with
  | error e => rfl
  | ok st => exact st.finish_unnumbered

end Pattern
end DeviceRegex
