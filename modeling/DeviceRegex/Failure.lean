/-!
# Failures

A failure is a precondition that the caller broke, a device call that failed alone,
or a device call that took the whole device context with it. Every failure names the
call site where it was noticed.
-/
namespace DeviceRegex

/-- Where a call was made: a named site, or a line of a file. -/
inductive CallSite where
  | named (name : String)
  | line (file : String) (number : Nat)
deriving DecidableEq, Repr

/-- A call site as messages show it. -/
def CallSite.text : CallSite → String
  | named name => name
  | line file number => file ++ ":" ++ toString number

/-- Which kind of rule a precondition failure reports. -/
inductive PreconditionKind where
  /-- A general error of the caller. -/
  | logic
  /-- A malformed argument, such as a pattern with bad syntax. -/
  | invalidArgument
  /-- A value beyond a limit of the engine. -/
  | outOfRange
  /-- A well-formed request that the engine cannot serve. -/
  | unsupported
deriving DecidableEq, Repr

/-- A kind as messages show it. -/
def PreconditionKind.text : PreconditionKind → String
  | logic => "logic error"
  | invalidArgument => "invalid argument"
  | outOfRange => "out of range"
  | unsupported => "unsupported"

/-- The number that a device call returns; zero is success. -/
abbrev Status := Int32

/-- A broken precondition. -/
structure PreconditionError where
  kind : PreconditionKind
  reason : String
  site : CallSite
deriving DecidableEq, Repr

/-- A device call that did not succeed. -/
structure DeviceError where
  status : Status
  message : String
  site : CallSite
deriving DecidableEq, Repr

inductive Failure where
  | precondition (error : PreconditionError)
  /-- The failing call stands alone; the device context takes more work. -/
  | device (error : DeviceError)
  /-- The device context is lost. -/
  | fatalDevice (error : DeviceError)
deriving DecidableEq, Repr

/-- The message of a precondition failure gives the call site and the reason. -/
def PreconditionError.message (e : PreconditionError) : String :=
  "devrx failure at: " ++ e.site.text ++ ": " ++ e.reason

namespace Failure

/-- The message of a failure. -/
def message : Failure → String
  | precondition e => e.message
  | device e => e.message
  | fatalDevice e => e.message

/-- The call site of a failure. -/
def site : Failure → CallSite
  | precondition e => e.site
  | device e => e.site
  | fatalDevice e => e.site

/-- The caller broke a precondition. -/
def isPrecondition : Failure → Bool
  | precondition _ => true
  | device _ | fatalDevice _ => false

/-- A device call failed, alone or with its context. -/
def isDevice : Failure → Bool
  | precondition _ => false
  | device _ | fatalDevice _ => true

/-- The device context is lost. -/
def isFatal : Failure → Bool
  | precondition _ | device _ => false
  | fatalDevice _ => true

/-- The status of the failing device call. -/
def status? : Failure → Option Status
  | precondition _ => none
  | device e | fatalDevice e => some e.status

/-- The kind of a precondition failure. -/
def preconditionKind? : Failure → Option PreconditionKind
  | precondition e => some e.kind
  | device _ | fatalDevice _ => none

end Failure

/-- A precondition failure at a call site. -/
def fail {α : Type} (kind : PreconditionKind) (reason : String) (site : CallSite) :
    Except Failure α :=
  .error (.precondition ⟨kind, reason, site⟩)

/-- Pass if the condition holds, and fail with the given reason otherwise. -/
def require (condition : Bool) (kind : PreconditionKind) (reason : String) (site : CallSite) :
    Except Failure Unit :=
  if condition then .ok () else fail kind reason site

end DeviceRegex
