import DeviceRegex.Failure
import DeviceRegex.Flags

/-!
# Log events

What the library writes to a log. An event is a line with a level, a message and
its fields in a fixed order.
-/
namespace DeviceRegex

/-- What happened. -/
inductive Event where
  | compiled (pattern : String) (flags : Flags) (capture : CaptureMode) (instructions groups : Nat)
  /-- After a failed call with `status`, the pending error was cleared and then read as `last`. -/
  | drained (status last : Status)
  | callFailed (status : Status)
  | contextLost (status : Status)
  | poisoned (status : Status)
deriving DecidableEq, Repr

namespace Event

/-- The level of an event, from `TRACE` to `ERROR`. -/
def level : Event → String
  | compiled .. => "DEBUG"
  | drained .. => "TRACE"
  | callFailed _ => "WARN"
  | contextLost _ | poisoned _ => "ERROR"

/-- What an event says, without its fields. -/
def message : Event → String
  | compiled .. => "compiled regex program"
  | drained .. => "drained device error"
  | callFailed _ => "device call failed"
  | contextLost _ => "fatal device error, context is unusable"
  | poisoned _ => "device context poisoned"

/-- The names and values of the fields of an event. -/
def fields : Event → List (String × String)
  | compiled pattern flags capture instructions groups =>
    [("pattern", pattern), ("flags", flags.text), ("capture", capture.text),
      ("instructions", toString instructions), ("groups", toString groups)]
  | drained status last => [("status", toString status.toInt), ("last", toString last.toInt)]
  | callFailed status | contextLost status | poisoned status => [("status", toString status.toInt)]

/-- The line of an event in the log. -/
def text (e : Event) : String :=
  " ".intercalate (e.level :: e.message :: e.fields.map fun (name, value) => name ++ "=" ++ value)

end Event
end DeviceRegex
