import DeviceRegex.Engine
import DeviceRegex.Size

/-!
# Working memory

Threads that run a program together share one buffer: a header, then one slice for
each thread, all of the same size and in the order of the threads.
-/
namespace DeviceRegex

/-- How the buffer is divided. -/
structure WorkingMemory where
  base : Size
  perThread : Size
  threads : Size
deriving DecidableEq, Repr

namespace WorkingMemory

/-- The size of the buffer, or the largest size if it is larger. -/
def total (m : WorkingMemory) : Size := Size.satAdd (Size.satMul m.perThread m.threads) m.base

/-- The first byte of the slice of a thread and the first byte after it. There is no
slice for a thread that does not exist or whose slice would not end within the largest
size. -/
def slice? (m : WorkingMemory) (thread : Size) : Option (Size × Size) :=
  if m.threads ≤ thread then none
  else do
    let offset ← Size.mul? m.perThread thread
    let first ← Size.add? offset m.base
    let last ← Size.add? first m.perThread
    return (first, last)

end WorkingMemory

/-- The memory tier of the engine that a program needs. -/
inductive Tier where
  | small
  | medium
  | large
deriving DecidableEq, Repr

namespace Tier

/-- The tier for a number of instructions. -/
def ofInstructions (count : Nat) : Tier :=
  if count ≤ Engine.smallTierInstructions then small
  else if count ≤ Engine.mediumTierInstructions then medium
  else large

/-- The position of a tier in the order of sizes. -/
def rank : Tier → Nat
  | small => 0
  | medium => 1
  | large => 2

/-- The name of a tier. -/
def name : Tier → String
  | small => "Small"
  | medium => "Medium"
  | large => "Large"

end Tier
end DeviceRegex
