import DeviceRegex.Code.Draft
import DeviceRegex.Pattern.Parse

/-!
# Compiled patterns

A compiled pattern is the code of its tree, closed by the instruction that reports a
match, with the sets that the code refers to.
-/
namespace DeviceRegex

/-- The compiled form of a pattern, which the engine runs from its first instruction. -/
structure Compiled where
  code : List Instruction
  classes : ClassTable
  groups : Nat
  flags : Flags
  capture : CaptureMode
deriving DecidableEq, Repr

/-- Why a pattern has no compiled form. -/
inductive CompileError where
  | malformed (error : SyntaxError)
  | tooManyInstructions
deriving DecidableEq, Repr

namespace CompileError

/-- The kind of precondition that the pattern breaks. -/
def kind : CompileError → PreconditionKind
  | malformed e => e.fault.kind
  | tooManyInstructions => .outOfRange

/-- The message for a pattern. -/
def message (pattern : List Char) : CompileError → String
  | malformed e => e.message pattern
  | tooManyInstructions =>
    "pattern compiles to more than " ++ Text.decimal Engine.maxInstructions ++ " instructions"

end CompileError

/-- The code of a tree, closed by the instruction that reports a match. -/
def assemble? (flags : Flags) (root : Node) : Option Draft := do
  let d ← root.emit flags .empty
  d.push? (.make .accept 0 0)

namespace Compiled

/-- Compile a pattern. -/
def compile (pattern : List Char) (flags : Flags) (capture : CaptureMode) :
    Except CompileError Compiled :=
  match Pattern.parse capture pattern with
  | .error e => .error (.malformed e)
  | .ok p =>
    match assemble? flags p.root with
    | none => .error .tooManyInstructions
    | some d => .ok ⟨d.code.toList, d.table, p.groups, flags, capture⟩

/-- The place of the first instruction. -/
def start (_ : Compiled) : Nat := 0

/-- The bytes that one thread needs. Each of the two thread lists has an entry per
instruction, with an instruction number, the range of the match and, if groups are
kept, the ranges of all groups; and one bit per instruction marks those visited. -/
def bytesPerThread (c : Compiled) : Size :=
  let groupBytes :=
    match c.capture with
    | .extract => Size.satMul (Size.saturate c.groups) (Size.saturate Engine.groupSlotBytes)
    | .nonCapture => 0
  let entry :=
    Size.satAdd groupBytes (Size.saturate (Engine.instructionIdBytes + Engine.rangeBytes))
  let count := Size.saturate c.code.length
  Size.satMul
    (Size.satAdd (Size.satMul count entry) (Size.saturate ((c.code.length + 7) / 8)))
    (Size.saturate Engine.threadLists)

end Compiled
end DeviceRegex
