import DeviceRegex.Charset.CaseFolding
import DeviceRegex.Charset.ClassTable
import DeviceRegex.Code.Instruction
import DeviceRegex.Flags
import DeviceRegex.Pattern.Node

/-!
# The code of leaves

Every leaf of a pattern becomes one instruction, which depends on the flags. A leaf
that asks for a set refers to its entry in the class table.
-/
namespace DeviceRegex

/-- What a leaf asks of the engine: an instruction that stands alone, or a character
inside a set, or outside it if `negated`. -/
inductive Letter where
  | plain (i : Instruction)
  | member (s : Charset) (negated : Bool)
deriving DecidableEq, Repr

/-- One as an operand if the condition holds, and zero otherwise. -/
def operandOf (condition : Bool) : Nat := if condition then 1 else 0

/-- The instruction for a test of a position. A caret and a dollar test for lines only
in multiline patterns. -/
def Assertion.instruction (flags : Flags) : Assertion → Instruction
  | caret =>
    if flags.has .multiline then .make .lineStart 0 (operandOf (flags.has .extNewline))
    else .make .textStart 0 0
  | dollar =>
    if flags.has .multiline then .make .lineEnd 0 (operandOf (flags.has .extNewline))
    else .make .textEnd 0 0
  | textStart => .make .textStart 0 0
  | textEnd => .make .textEnd 0 0
  | wordBoundary => .make .wordBoundary 0 (operandOf (flags.has .ascii))
  | notWordBoundary => .make .notWordBoundary 0 (operandOf (flags.has .ascii))

/-- What a leaf asks for under the given flags. If case is ignored, a character with
other cases asks for the set of all its cases. -/
def Leaf.letter (flags : Flags) : Leaf → Letter
  | char c =>
    if flags.has .ignorecase && decide (1 < (letterCases c).length) then
      .member ⟨(letterCases c).map .char, flags.has .ascii⟩ false
    else .plain (.make .char 0 c.toNat)
  | dot =>
    .plain (.make (if flags.has .dotall then .anyNewline else .any) 0
      (operandOf (flags.has .extNewline)))
  | set items negated =>
    .member ⟨if flags.has .ignorecase then foldCases items else items, flags.has .ascii⟩ negated
  | assertion test => .plain (test.instruction flags)

/-- A piece of code, and the class table after it. -/
structure Segment where
  code : List Instruction
  table : ClassTable
deriving DecidableEq, Repr

/-- The segment of a letter: one instruction, and an entry for the set it asks for. -/
def Letter.segment (table : ClassTable) : Letter → Segment
  | plain i => ⟨[i], table⟩
  | member s negated =>
    ⟨[.make (if negated then .notInClass else .inClass) (table.index s) 0], table.intern s⟩

end DeviceRegex
