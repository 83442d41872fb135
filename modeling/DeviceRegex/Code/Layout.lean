import DeviceRegex.Code.CodeSize
import DeviceRegex.Code.Leaf

/-!
# Laying out code

The engine keeps no stack, so a pattern becomes a straight list of instructions in
which every choice is an explicit split and every counted repetition is written out.
A layout says how the finished code of a part looks at the place where its first
instruction stands: a segment whose branches stay inside it or leave it at its end.
-/
namespace DeviceRegex

/-- How a part is laid out at a place, given the class table so far. -/
abbrev Layout := Nat → ClassTable → Segment

namespace Layout

/-- No code. -/
def nothing : Layout := fun _ table => ⟨[], table⟩

/-- One instruction. -/
def single (i : Instruction) : Layout := fun _ table => ⟨[i], table⟩

/-- One part after the other. -/
def append (first second : Layout) : Layout := fun pc table =>
  let s := first pc table
  let t := second (pc + s.code.length) s.table
  ⟨s.code ++ t.code, t.table⟩

/-- A choice between a body and what follows it; a greedy one prefers the body. -/
def branch (greedy : Bool) (body out : Nat) : Instruction :=
  if greedy then .make .split body out else .make .split out body

/-- A choice between two parts, the first one preferred.

        split first, second
    first:  …
        jump out
    second: …
    out:
-/
def choice (first second : Layout) : Layout := fun pc table =>
  let s := first (pc + 1) table
  let next := pc + 2 + s.code.length
  let t := second next s.table
  ⟨.make .split (pc + 1) next :: s.code ++ .make .jump (next + t.code.length) 0 :: t.code, t.table⟩

/-- A part that may be skipped.

        branch body, out
    body: …
    out:
-/
def optional (greedy : Bool) (part : Layout) : Layout := fun pc table =>
  let s := part (pc + 1) table
  ⟨branch greedy (pc + 1) (pc + 1 + s.code.length) :: s.code, s.table⟩

/-- A part any number of times.

    top: branch body, out
    body: …
        jump top
    out:
-/
def star (greedy : Bool) (part : Layout) : Layout := fun pc table =>
  let s := part (pc + 1) table
  ⟨branch greedy (pc + 1) (pc + 2 + s.code.length) :: s.code ++ [.make .jump pc 0], s.table⟩

/-- A part at least once.

    body: …
        branch body, out
    out:
-/
def plus (greedy : Bool) (part : Layout) : Layout := fun pc table =>
  let s := part pc table
  ⟨s.code ++ [branch greedy pc (pc + s.code.length + 1)], s.table⟩

/-- A part so many times. -/
def copies (part : Layout) : Nat → Layout
  | 0 => nothing
  | n + 1 => append part (copies part n)

/-- A part at most so many times. Every copy may be skipped with all later ones. -/
def optionals (greedy : Bool) (part : Layout) : Nat → Layout
  | 0 => nothing
  | n + 1 => optional greedy (append part (optionals greedy part n))

/-- A part as often as a quantifier says. -/
def repeated (times : Quantifier) (part : Layout) : Layout :=
  match times.max with
  | none =>
    if times.min = 0 then star times.greedy part
    else append (copies part (times.min - 1)) (plus times.greedy part)
  | some max => append (copies part times.min) (optionals times.greedy part (max - times.min))

end Layout

mutual
/-- How a node is laid out. Repeating a body without code matches what the empty text
matches, so it needs no code. -/
def Node.layout (flags : Flags) : Node → Layout
  | .empty => Layout.nothing
  | .leaf l => fun _ table => (l.letter flags).segment table
  | .group (some index) body =>
    Layout.append (Layout.single (.make .openGroup index 0))
      (Layout.append (body.layout flags) (Layout.single (.make .closeGroup index 0)))
  | .group none body => body.layout flags
  | .concat parts => Node.layoutAll flags parts
  | .alternate branches => Node.layoutChoice flags branches
  | .repetition body times =>
    if body.codeSize = 0 then Layout.nothing else Layout.repeated times (body.layout flags)

/-- How nodes are laid out one after the other. -/
def Node.layoutAll (flags : Flags) : List Node → Layout
  | [] => Layout.nothing
  | node :: nodes => Layout.append (node.layout flags) (Node.layoutAll flags nodes)

/-- How the branches of a choice are laid out. -/
def Node.layoutChoice (flags : Flags) : List Node → Layout
  | [] => Layout.nothing
  | [node] => node.layout flags
  | node :: nodes => Layout.choice (node.layout flags) (Node.layoutChoice flags nodes)
end

end DeviceRegex
