import DeviceRegex.Code.Compiled
import DeviceRegex.Event
import DeviceRegex.Program.Info
import DeviceRegex.Program.WorkingMemory

/-!
# Programs

A program is a pattern together with its compiled form. It cannot be copied: its
content can only be taken, which leaves an empty program behind.
-/
namespace DeviceRegex

/-- A program. One whose compiled form was taken is empty. -/
structure Program where
  pattern : String
  flags : Flags
  capture : CaptureMode
  compiled? : Option Compiled
deriving DecidableEq, Repr

/-- Why no program is made. -/
inductive CreateError where
  | unrecognizedFlags (bits : BitVec 32)
  | emptyPattern
  | invalidPattern (pattern : String) (error : CompileError)
deriving DecidableEq, Repr

namespace CreateError

/-- The kind of precondition that the caller broke. -/
def kind : CreateError → PreconditionKind
  | unrecognizedFlags _ | emptyPattern => .invalidArgument
  | invalidPattern _ e => e.kind

/-- The reason that the failure gives. -/
def reason : CreateError → String
  | unrecognizedFlags bits => "unrecognized regex flag bits 0x" ++ Text.hexadecimal bits.toNat
  | emptyPattern => "empty regex pattern"
  | invalidPattern pattern e =>
    "invalid regex pattern '" ++ pattern ++ "': " ++ e.message pattern.toList

/-- The failure at a call site. -/
def failure (e : CreateError) (site : CallSite) : Failure := .precondition ⟨e.kind, e.reason, site⟩

end CreateError

namespace Program

/-- The program without content. -/
def empty : Program := ⟨"", .none, .extract, none⟩

/-- Make a program. The flags are checked first, then the pattern. -/
def build (pattern : String) (flags : Flags) (capture : CaptureMode) : Except CreateError Program :=
  if flags.unrecognized ≠ 0 then .error (.unrecognizedFlags flags.unrecognized)
  else if pattern.isEmpty then .error .emptyPattern
  else
    match Compiled.compile pattern.toList flags capture with
    | .error e => .error (.invalidPattern pattern e)
    | .ok c => .ok ⟨pattern, flags, capture, some c⟩

/-- Make a program, or fail at a call site. -/
def create (pattern : String) (flags : Flags) (capture : CaptureMode) (site : CallSite) :
    Except Failure Program :=
  (build pattern flags capture).mapError (·.failure site)

/-- Make a program without flags that keeps the ranges of its groups. -/
def new (pattern : String) (site : CallSite) : Except Failure Program :=
  create pattern .none .extract site

/-- Take the content of a program: what is taken, and what is left. -/
def take (p : Program) : Program × Program := (p, empty)

/-- The content was taken. -/
def isEmpty (p : Program) : Bool := p.compiled?.isNone

/-- The number of instructions; an empty program has none. -/
def instructions (p : Program) : Nat := (p.compiled?.map (·.code.length)).getD 0

/-- The number of groups whose ranges are kept. -/
def groups (p : Program) : Nat := (p.compiled?.map (·.groups)).getD 0

/-- The tier that the program runs in. -/
def tier (p : Program) : Tier := Tier.ofInstructions p.instructions

/-- The division of the working memory for a number of threads. -/
def workingMemory (p : Program) (threads : Size) : WorkingMemory :=
  ⟨Size.saturate Engine.workingMemoryBase, (p.compiled?.map (·.bytesPerThread)).getD 0, threads⟩

/-- The bytes that a number of threads need. -/
def workingMemorySize (p : Program) (threads : Size) : Size := (p.workingMemory threads).total

/-- What is known of a program without its code. -/
def info (p : Program) : ProgramInfo where
  pattern := p.pattern
  flags := p.flags
  capture := p.capture
  instructions := Size.saturate p.instructions
  groups := Size.saturate p.groups
  tier := p.tier
  threadState := (p.workingMemory 1).perThread

/-- The event that the making of a program leaves in the log. -/
def compiledEvent (p : Program) : Event :=
  .compiled p.pattern p.flags p.capture p.instructions p.groups

end Program
end DeviceRegex
