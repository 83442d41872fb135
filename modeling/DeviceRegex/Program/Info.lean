import DeviceRegex.Flags
import DeviceRegex.Program.WorkingMemory

/-!
# Facts about programs

The facts about a program that tools show and exchange.
-/
namespace DeviceRegex

/-- What is known of a program without its code. -/
structure ProgramInfo where
  pattern : String
  flags : Flags
  capture : CaptureMode
  instructions : Size
  groups : Size
  tier : Tier
  /-- The bytes that one thread needs. -/
  threadState : Size
deriving DecidableEq, Repr

end DeviceRegex
