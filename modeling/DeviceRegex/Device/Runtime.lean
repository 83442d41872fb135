import DeviceRegex.Event

/-!
# Device runtimes

A device runtime is a state machine that answers four requests with a status. Work on
the device is asynchronous, so an answer may belong to an earlier call. What is done
with a runtime is kept in a session: the requests made and the events logged.
-/
namespace DeviceRegex

/-- A stream of work on a device; zero is the default stream. -/
abbrev StreamHandle := UInt64

/-- What can be asked of a device runtime. -/
inductive Request where
  /-- The pending error, which is reset to success. -/
  | lastError
  /-- The pending error, which stays. -/
  | peekError
  /-- Wait for all work on the device. -/
  | synchronizeDevice
  /-- Wait for all work on a stream. -/
  | synchronizeStream (stream : StreamHandle)
deriving DecidableEq, Repr

/-- A request in words. -/
def Request.text : Request → String
  | lastError => "get_last_error"
  | peekError => "peek_at_last_error"
  | synchronizeDevice => "device_synchronize"
  | synchronizeStream stream => "stream_synchronize " ++ toString stream.toNat

/-- A device runtime with states of type `σ`. -/
structure Runtime (σ : Type) where
  /-- The answer to a request, and the state after it. -/
  answer : Request → σ → Status × σ
  /-- The name of a status. -/
  name : Status → String
  /-- A status in words. -/
  description : Status → String

namespace Runtime

/-- The name of a status that the runtime does not know. -/
def unknownName : String := "unknown_error"

/-- The words for a status that the runtime does not know. -/
def unknownDescription : String := "unrecognized error code"

end Runtime

/-- The state of a runtime, with the requests made and the events logged so far, from
first to last. -/
structure Session (σ : Type) where
  device : σ
  requests : List Request
  events : List Event

namespace Session

variable {σ : Type}

/-- A session in which nothing has happened. -/
def start (device : σ) : Session σ := ⟨device, [], []⟩

/-- Make a request. -/
def ask (s : Session σ) (rt : Runtime σ) (r : Request) : Status × Session σ :=
  ((rt.answer r s.device).1,
    { s with device := (rt.answer r s.device).2, requests := s.requests ++ [r] })

/-- Log an event. -/
def log (s : Session σ) (e : Event) : Session σ := { s with events := s.events ++ [e] }

/-- Let the caller's own call act on the device. -/
def issue (s : Session σ) (call : σ → Status × σ) : Status × Session σ :=
  ((call s.device).1, { s with device := (call s.device).2 })

end Session
end DeviceRegex
