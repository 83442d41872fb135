import DeviceRegex.Program.Basic

/-!
# Listings

A listing shows a program to a person: its facts, the working memory for some numbers
of threads, its sets, and its code with one line for each instruction.
-/
namespace DeviceRegex

namespace Program

/-- The lines with the facts of a program. -/
def headerLines (p : Program) : List String :=
  let i := p.info
  ["=== " ++ i.pattern ++ " ===",
    "flags: " ++ i.flags.text ++ ", capture: " ++ i.capture.text ++
      ", instructions: " ++ Text.decimal i.instructions.toNat ++
      ", groups: " ++ Text.decimal i.groups.toNat ++ ", tier: " ++ i.tier.name,
    "thread state: " ++ Text.decimal i.threadState.toNat ++ " bytes"]

/-- The line with the working memory for a number of threads. -/
def memoryLine (p : Program) (threads : Size) : String :=
  "  " ++ Text.padLeft 8 ' ' (Text.decimal threads.toNat) ++ " threads -> " ++
    Text.decimal (p.workingMemorySize threads).toNat ++ " bytes"

end Program

namespace Compiled

/-- The line of a set. -/
def classLine (index : Nat) (s : Charset) : String :=
  "  " ++ Text.padLeft 4 ' ' (Text.decimal index) ++ "  " ++ s.text ++
    (if s.ascii then " ascii" else "")

/-- The lines of the sets; there are none without sets. -/
def classLines (c : Compiled) : List String :=
  if c.classes = [] then []
  else "classes:" :: c.classes.mapIdx classLine ++ [""]

/-- The line of an instruction. The one where the engine starts is marked. -/
def codeLine (c : Compiled) (pc : Nat) (i : Instruction) : String :=
  (if pc = c.start then ">" else " ") ++ " " ++ Text.padLeft 4 ' ' (Text.decimal pc) ++ "  " ++
    Text.hexWord i.word.toNat ++ "  " ++ i.text

/-- The lines of the code. -/
def codeLines (c : Compiled) : List String := "code:" :: c.code.mapIdx c.codeLine

end Compiled

namespace Program

/-- The lines of the listing of a program. -/
def listingLines (p : Program) (threads : List Size) : List String :=
  p.headerLines ++ threads.map p.memoryLine ++ [""] ++
    match p.compiled? with
    | some c => c.classLines ++ c.codeLines
    | none => []

/-- The listing of a program. -/
def listing (p : Program) (threads : List Size) : String :=
  String.join ((p.listingLines threads).map (· ++ "\n"))

end Program
end DeviceRegex
