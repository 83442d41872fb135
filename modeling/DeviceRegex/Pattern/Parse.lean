import DeviceRegex.Flags
import DeviceRegex.Pattern.BracketSet
import DeviceRegex.Pattern.Quantifier

/-!
# Reading patterns

A pattern is read from left to right with a stack of the groups that are open. Each
step takes one element off the text: a bar, a parenthesis, or a leaf, where a leaf or
a closing parenthesis takes its quantifier along. A pattern is accepted if no group is
open at its end.
-/
namespace DeviceRegex

/-- A pattern that is read: its tree and the number of its numbered groups. -/
structure Pattern where
  root : Node
  groups : Nat
deriving Repr

namespace Pattern

/-- An alternation of which a part is read: the complete branches, and the parts of
the branch being read. Both lists start with the latest. -/
structure OpenAlternation where
  branches : List Node
  parts : List Node

namespace OpenAlternation

/-- Nothing is read. -/
def empty : OpenAlternation := ⟨[], []⟩

/-- Add a part to the branch being read. -/
def push (o : OpenAlternation) (part : Node) : OpenAlternation :=
  { o with parts := part :: o.parts }

/-- The branch being read is complete, and another one follows. -/
def bar (o : OpenAlternation) : OpenAlternation := ⟨Node.ofParts o.parts.reverse :: o.branches, []⟩

/-- The alternation is complete. -/
def close (o : OpenAlternation) : Node := Node.ofBranches (o.bar.branches.reverse)

end OpenAlternation

/-- An open group: the text from its parenthesis, its number if its range is kept,
and the alternation in which it stands. -/
structure OpenGroup where
  opening : List Char
  index : Option Nat
  outer : OpenAlternation

/-- What is known of a pattern of which a part is read. -/
structure State where
  /-- The number of numbered groups so far. -/
  groups : Nat
  /-- The open groups, from the innermost outwards. -/
  stack : List OpenGroup
  /-- The alternation in the innermost open group. -/
  current : OpenAlternation

namespace State

/-- Nothing is read. -/
def initial : State := ⟨0, [], .empty⟩

/-- Open a group without a number. -/
def openPlain (st : State) (opening : List Char) : State :=
  ⟨st.groups, ⟨opening, none, st.current⟩ :: st.stack, .empty⟩

/-- Open a group with the next number. Groups are numbered by their opening
parentheses. -/
def openNumbered (st : State) (opening : List Char) : State :=
  ⟨st.groups + 1, ⟨opening, some (st.groups + 1), st.current⟩ :: st.stack, .empty⟩

/-- Read the opening of a group from the text after its parenthesis. -/
def openGroup (mode : CaptureMode) (st : State) (rest : List Char) :
    Except SyntaxError (State × List Char) :=
  let opening := '(' :: rest
  if Engine.maxNesting ≤ st.stack.length then faultAt opening .nestedTooDeeply
  else
    match rest with
    | '?' :: ':' :: rest => .ok (st.openPlain opening, rest)
    | '?' :: _ => faultAt opening (.unsupportedGroup (opening.take 3))
    | _ =>
      match mode with
      | .extract => .ok (st.openNumbered opening, rest)
      | .nonCapture => .ok (st.openPlain opening, rest)

/-- Read the end of a group, and the quantifier that follows it, from the text after
its parenthesis. -/
def closeGroup (st : State) (rest : List Char) : Except SyntaxError (State × List Char) :=
  match st.stack with
  | [] => faultAt (')' :: rest) .unmatchedClose
  | group :: stack => do
    let (part, rest) ← quantify (.group group.index st.current.close) rest
    return (⟨st.groups, stack, group.outer.push part⟩, rest)

end State

/-- Read a leaf that starts with `c`. A quantifier has nothing to repeat here. -/
def readLeaf (c : Char) (rest : List Char) : Except SyntaxError (Leaf × List Char) :=
  match c with
  | '[' => readSet (c :: rest) rest
  | '.' => .ok (.dot, rest)
  | '^' => .ok (.assertion .caret, rest)
  | '$' => .ok (.assertion .dollar, rest)
  | '\\' => readEscape (c :: rest) rest
  | _ => do
    match ← bounds? (c :: rest) with
    | some _ => faultAt (c :: rest) .nothingToRepeat
    | none => return (.char c, rest)

namespace State

/-- Read a leaf and the quantifier that follows it. -/
def readPart (st : State) (c : Char) (rest : List Char) :
    Except SyntaxError (State × List Char) := do
  let (leaf, rest) ← readLeaf c rest
  let (part, rest) ← quantify (.leaf leaf) rest
  return ({ st with current := st.current.push part }, rest)

/-- Read one element that starts with `c`. -/
def step (mode : CaptureMode) (st : State) (c : Char) (rest : List Char) :
    Except SyntaxError (State × List Char) :=
  match c with
  | '|' => .ok ({ st with current := st.current.bar }, rest)
  | '(' => st.openGroup mode rest
  | ')' => st.closeGroup rest
  | _ => st.readPart c rest

end State

theorem readLeaf_length_le {c : Char} {text rest : List Char} {leaf : Leaf}
    (h : readLeaf c text = .ok (leaf, rest)) : rest.length ≤ text.length := by
  unfold readLeaf at h
  split at h
  · exact Nat.le_of_lt (readSet_length_lt h)
  iterate 3 simp_all
  · exact Nat.le_of_lt (readEscape_length_lt h)
  · obtain ⟨bounds, _, h⟩ := bind_eq_ok_iff.1 h
    split at h
    · simp at h
    · simp_all [pure, Except.pure]

/-- Every step takes at least the first character off the text. -/
theorem State.step_length_le {mode : CaptureMode} {st st' : State} {c : Char}
    {text rest : List Char}
    (h : st.step mode c text = .ok (st', rest)) : rest.length ≤ text.length := by
  unfold State.step at h
  split at h
  · simp_all
  · unfold State.openGroup at h
    simp only at h
    split at h
    · simp at h
    · split at h
      · simp_all
        omega
      · simp at h
      · split at h <;> simp_all
  · unfold State.closeGroup at h
    split at h
    · simp at h
    · obtain ⟨⟨part, rest'⟩, hq, h⟩ := bind_eq_ok_iff.1 h
      have := quantify_length_le hq
      simp_all [pure, Except.pure]
  · obtain ⟨⟨leaf, rest₁⟩, hl, h⟩ := bind_eq_ok_iff.1 h
    obtain ⟨⟨part, rest₂⟩, hq, h⟩ := bind_eq_ok_iff.1 h
    have := readLeaf_length_le hl
    have := quantify_length_le hq
    simp only [pure, Except.pure, Except.ok.injEq, Prod.mk.injEq] at h
    rw [← h.2]
    omega

/-- Read all elements of a text. -/
def State.run (mode : CaptureMode) (st : State) (text : List Char) : Except SyntaxError State :=
  match text with
  | [] => .ok st
  | c :: rest =>
    match _h : st.step mode c rest with
    | .error e => .error e
    | .ok (st, rest) => st.run mode rest
termination_by text.length
decreasing_by exact Nat.lt_succ_of_le (State.step_length_le _h)

/-- The pattern is complete if no group is open. -/
def State.finish (st : State) : Except SyntaxError Pattern :=
  match st.stack with
  | [] => .ok ⟨st.current.close, st.groups⟩
  | group :: _ => faultAt group.opening .missingClose

/-- Read a pattern. -/
def parse (mode : CaptureMode) (text : List Char) : Except SyntaxError Pattern := do
  let st ← State.initial.run mode text
  st.finish

end Pattern
end DeviceRegex
