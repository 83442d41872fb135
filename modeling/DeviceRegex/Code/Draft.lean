import DeviceRegex.Code.CodeSize
import DeviceRegex.Code.Leaf
import DeviceRegex.Engine

/-!
# Drafting code

Code is written from its first instruction to its last, and there is room for so many
instructions only. A branch whose target is not known yet is written without it, and
gets it when the code up to the target is written; where several branches leave for one
place, they are collected and all of them get it then. The length of a repetition is
checked before the first copy of its body is written.
-/
namespace DeviceRegex

/-- Code in the making, and the sets it refers to so far. -/
@[ext] structure Draft where
  code : Array Instruction
  classes : Interner

namespace Draft

instance : DecidableEq Draft := fun _ _ => decidable_of_iff _ Draft.ext_iff.symm

/-- Nothing is written. -/
def empty : Draft := ⟨#[], .empty⟩

/-- The sets that the code refers to. -/
def table (d : Draft) : ClassTable := d.classes.table

/-- The place of the next instruction. -/
def here (d : Draft) : Nat := d.code.size

/-- Write one instruction, if there is room for it. -/
def push? (d : Draft) (i : Instruction) : Option Draft :=
  if Engine.maxInstructions ≤ d.code.size then none
  else some { d with code := d.code.push i }

/-- Write a split whose targets are not known yet. -/
def pushSplit? (d : Draft) : Option Draft := d.push? (.make .split 0 0)

/-- Write the instruction of a letter, with an entry for the set it asks for. -/
def pushLetter? (d : Draft) : Letter → Option Draft
  | .plain i => d.push? i
  | .member s negated =>
    let (index, classes) := d.classes.intern s
    { d with classes }.push? (.make (if negated then .notInClass else .inClass) index 0)

/-- Give the instruction at `pc` its first operand. -/
def patchA (d : Draft) (pc target : Nat) : Draft :=
  { d with code := d.code.modify pc (·.setA target) }

/-- Give the instruction at `pc` its second operand. -/
def patchB (d : Draft) (pc target : Nat) : Draft :=
  { d with code := d.code.modify pc (·.setB target) }

/-- Point the split at `pc` at its two continuations, the first one preferred. -/
def patchSplit (d : Draft) (pc first second : Nat) : Draft :=
  (d.patchA pc first).patchB pc second

/-- Point the split at `pc` at a body and at what follows it; a greedy one prefers the
body. -/
def prefer (d : Draft) (greedy : Bool) (pc body out : Nat) : Draft :=
  if greedy then d.patchSplit pc body out else d.patchSplit pc out body

end Draft

/-- A way to write a part of the code at the end of a draft, if there is room for it. -/
abbrev Emission := Draft → Option Draft

namespace Emission

/-- Parts one after the other. -/
def sequence : List Emission → Emission
  | [] => some
  | part :: parts => fun d => do sequence parts (← part d)

/-- Write the branches of a choice, with a split in front and a jump behind each one but the
last. The places of the jumps are collected, as their target is not known yet. -/
def branches : List Emission → Array Nat → Draft → Option (Array Nat × Draft)
  | [], exits, d => some (exits, d)
  | [last], exits, d => do return (exits, ← last d)
  | part :: parts, exits, d => do
    let split := d.here
    let d ← part (← d.pushSplit?)
    let exit := d.here
    let d ← d.push? (.make .jump 0 0)
    branches parts (exits.push exit) (d.patchSplit split (split + 1) d.here)

/-- A choice between parts, an earlier one preferred. All branches leave for the place
behind the last one. -/
def alternatives (parts : List Emission) : Emission := fun d => do
  let (exits, d) ← branches parts #[] d
  let out := d.here
  return exits.foldl (fun d exit => d.patchA exit out) d

/-- A part any number of times. -/
def star (greedy : Bool) (part : Emission) : Emission := fun d => do
  let split := d.here
  let d ← d.pushSplit?
  let d ← part d
  let d ← d.push? (.make .jump split 0)
  return d.prefer greedy split (split + 1) d.here

/-- A part at least once. -/
def plus (greedy : Bool) (part : Emission) : Emission := fun d => do
  let body := d.here
  let d ← part d
  let split := d.here
  let d ← d.pushSplit?
  return d.prefer greedy split body (split + 1)

/-- A part so many times. -/
def copies (part : Emission) : Nat → Emission
  | 0 => some
  | n + 1 => fun d => do copies part n (← part d)

/-- Write a part so many times, each time behind a split. The places of the splits are
collected, as one of their targets is not known yet. -/
def splitCopies (part : Emission) : Nat → Array Nat → Draft → Option (Array Nat × Draft)
  | 0, splits, d => some (splits, d)
  | n + 1, splits, d => do
    let split := d.here
    let d ← part (← d.pushSplit?)
    splitCopies part n (splits.push split) d

/-- A part at most so many times. All splits leave for the place behind the last copy. -/
def optionals (greedy : Bool) (part : Emission) (n : Nat) : Emission := fun d => do
  let (splits, d) ← splitCopies part n #[] d
  let out := d.here
  return splits.foldl (fun d split => d.prefer greedy split (split + 1) out) d

/-- A part as often as a quantifier says. -/
def repeated (times : Quantifier) (part : Emission) : Emission :=
  match times.max with
  | none =>
    if times.min = 0 then star times.greedy part
    else fun d => do plus times.greedy part (← copies part (times.min - 1) d)
  | some max => fun d => do
    optionals times.greedy part (max - times.min) (← copies part times.min d)

end Emission

mutual
/-- Write the code of a node. A body without code is not repeated, and a repetition for
which there is no room is refused before it is written. -/
def Node.emit (flags : Flags) : Node → Emission
  | .empty => some
  | .leaf l => fun d => d.pushLetter? (l.letter flags)
  | .group (some index) body => fun d => do
    let d ← d.push? (.make .openGroup index 0)
    let d ← body.emit flags d
    d.push? (.make .closeGroup index 0)
  | .group none body => body.emit flags
  | .concat parts => Emission.sequence (Node.emitEach flags parts)
  | .alternate branches => Emission.alternatives (Node.emitEach flags branches)
  | .repetition body times =>
    if body.codeSize = 0 then some
    else fun d =>
      if Engine.maxInstructions <
          (Size.satAdd (Size.saturate d.here) (times.codeSize body.codeSize)).toNat then none
      else Emission.repeated times (body.emit flags) d

/-- Ways to write the code of nodes. -/
def Node.emitEach (flags : Flags) : List Node → List Emission
  | [] => []
  | node :: nodes => node.emit flags :: Node.emitEach flags nodes
end

end DeviceRegex
