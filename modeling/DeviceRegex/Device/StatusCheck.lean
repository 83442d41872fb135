import DeviceRegex.Device.Runtime

/-!
# Checking statuses

The status of every device call is checked, and a failing one is checked twice. The
pending error is cleared, then read again: only an error that comes back, and that
waiting for the device reports as well, means that the device context is lost. Anything
else is an error of the one call, or of an earlier one that only showed late.
-/
namespace DeviceRegex

/-- What the status of a device call turns out to mean. -/
inductive Verdict where
  | success
  /-- Only the failing call is affected. -/
  | recoverable
  /-- The device context is lost. -/
  | fatal
deriving DecidableEq, Repr

/-- The name of a verdict. -/
def Verdict.name : Verdict → String
  | success => "Success"
  | recoverable => "Recoverable"
  | fatal => "Fatal"

/-- How a stream is checked for errors. -/
inductive CheckMode where
  /-- Wait for the stream first, so that errors show where they are checked. -/
  | synchronous
  /-- Do not wait; errors may show at a later check. -/
  | deferred
deriving DecidableEq, Repr

/-- How the library is built. -/
inductive Build where
  /-- With assertions, for development. -/
  | debug
  | release
deriving DecidableEq, Repr

/-- The mode of checks that name none. Only a build for development waits. -/
def CheckMode.ofBuild : Build → CheckMode
  | .debug => synchronous
  | .release => deferred

/-- The mode of checks that name none, in the build for development. -/
def CheckMode.standard : CheckMode := ofBuild .debug

/-- The message for a failing device call gives the call site, the status, and the
runtime's name and words for it. -/
def deviceMessage {σ : Type} (rt : Runtime σ) (status : Status) (site : CallSite) : String :=
  "Device error encountered at: " ++ site.text ++ ": " ++ toString status.toInt ++ " " ++
    rt.name status ++ " " ++ rt.description status

namespace Session

variable {σ : Type}

/-- Find out what a status means. Success is taken as it is, without any request. -/
def judge (s : Session σ) (rt : Runtime σ) (status : Status) : Verdict × Session σ :=
  if status = 0 then (.success, s)
  else
    let s := (s.ask rt .lastError).2
    let (last, s) := s.ask rt .lastError
    let s := s.log (.drained status last)
    if last = status then
      let (waited, s) := s.ask rt .synchronizeDevice
      (if waited = status then .fatal else .recoverable, s)
    else (.recoverable, s)

/-- Make and log the failure for a status and its verdict. -/
def report (s : Session σ) (rt : Runtime σ) (status : Status) (v : Verdict) (site : CallSite) :
    Failure × Session σ :=
  match v with
  | .fatal =>
    (.fatalDevice ⟨status, "Fatal " ++ deviceMessage rt status site, site⟩,
      s.log (.contextLost status))
  | .success | .recoverable =>
    (.device ⟨status, deviceMessage rt status site, site⟩, s.log (.callFailed status))

/-- Check the status of a device call. -/
def checkStatus (s : Session σ) (rt : Runtime σ) (status : Status) (site : CallSite) :
    Except Failure Unit × Session σ :=
  match s.judge rt status with
  | (.success, s) => (.ok (), s)
  | (v, s) => (.error (s.report rt status v site).1, (s.report rt status v site).2)

/-- Check the pending error. -/
def checkPending (s : Session σ) (rt : Runtime σ) (site : CallSite) :
    Except Failure Unit × Session σ :=
  let (status, s) := s.ask rt .peekError
  s.checkStatus rt status site

/-- Check a stream. A synchronous check waits for it first, and looks for a pending
error unless waiting has failed. -/
def checkStream (s : Session σ) (rt : Runtime σ) (stream : StreamHandle) (mode : CheckMode)
    (site : CallSite) : Except Failure Unit × Session σ :=
  match mode with
  | .synchronous =>
    let (status, s) := s.ask rt (.synchronizeStream stream)
    match s.checkStatus rt status site with
    | (.ok (), s) => s.checkPending rt site
    | (.error failure, s) => (.error failure, s)
  | .deferred => s.checkPending rt site

end Session
end DeviceRegex
