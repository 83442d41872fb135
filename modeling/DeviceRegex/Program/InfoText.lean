import DeviceRegex.Json.Value
import DeviceRegex.Program.FlagsText
import DeviceRegex.Program.Info

/-!
# Facts about programs as JSON text

The facts are written as an object, in one line or with one line for each fact. A
reader takes them in any order and passes over others, or takes an array of all facts
in the order in which they are written.
-/
namespace DeviceRegex

/-- The name of a capture mode in JSON text. -/
def CaptureMode.name : CaptureMode → String
  | extract => "Extract"
  | nonCapture => "NonCapture"

namespace ProgramInfo

/-- The names of the facts and their JSON values as text, in the order of writing. -/
def members (i : ProgramInfo) : List (String × String) :=
  [("pattern", Json.quote i.pattern),
    ("flags", Json.quote i.flags.exchangeText),
    ("capture", Json.quote i.capture.name),
    ("instructions_count", Text.decimal i.instructions.toNat),
    ("groups_count", Text.decimal i.groups.toNat),
    ("tier", Json.quote i.tier.name),
    ("thread_state_size", Text.decimal i.threadState.toNat)]

/-- The facts as JSON text in one line. -/
def compactText (i : ProgramInfo) : String :=
  "\x7b" ++ ",".intercalate (i.members.map fun (key, value) => Json.quote key ++ ":" ++ value) ++
    "\x7d"

/-- The facts as JSON text with a line for each fact. -/
def prettyText (i : ProgramInfo) : String :=
  "\x7b\n" ++
    ",\n".intercalate (i.members.map fun (key, value) => "  " ++ Json.quote key ++ ": " ++ value) ++
    "\n\x7d"

/-- Read a string. -/
def string? : Json → Option String
  | .string s => s
  | _ => none

/-- Read a size: a number without sign, point and exponent. -/
def size? : Json → Option Size
  | .number numeral =>
    if numeral.all Char.isDigit then Size.ofNat? (Nat.ofDigitChars 10 numeral 0) else none
  | _ => none

/-- Read flags from their string. -/
def flags? (v : Json) : Option Flags := do Flags.ofExchangeText? (← string? v)

/-- Read a choice, given by its name, or by an object with its name as only key and
nothing as value. -/
def choice? {α : Type} (choices : List α) (name : α → String) (v : Json) : Option α :=
  match v with
  | .string (some s) | .object [(some s, .null)] => choices.find? (name · = s)
  | _ => none

/-- The facts from their values in the order of writing. -/
def ofValues? : List Json → Option ProgramInfo
  | [pattern, flags, capture, instructions, groups, tier, threadState] => do
    return {
      pattern := ← string? pattern
      flags := ← flags? flags
      capture := ← choice? [.extract, .nonCapture] CaptureMode.name capture
      instructions := ← size? instructions
      groups := ← size? groups
      tier := ← choice? [.small, .medium, .large] Tier.name tier
      threadState := ← size? threadState }
  | _ => none

/-- The value of a key that occurs exactly once among the members of an object. -/
def member? (members : List (Option String × Json)) (key : String) : Option Json :=
  match members.filter (·.1 = some key) with
  | [(_, v)] => some v
  | _ => none

/-- The keys of all facts, in the order of writing. -/
def keys : List String :=
  ["pattern", "flags", "capture", "instructions_count", "groups_count", "tier", "thread_state_size"]

/-- Read the facts from a value. Every key of an object must be a string. -/
def ofJson? : Json → Option ProgramInfo
  | .array values => ofValues? values
  | .object members =>
    if members.all (·.1.isSome) then do ofValues? (← keys.mapM (member? members)) else none
  | _ => none

/-- Read the facts from JSON text. -/
def parse? (text : String) : Option ProgramInfo := do ofJson? (← Json.parse text)

end ProgramInfo
end DeviceRegex
