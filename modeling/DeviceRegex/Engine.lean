/-!
# Limits of the engine

The engine that runs programs keeps two lists of threads for each execution, with
one entry per instruction. The sizes here are those of its entries.
-/
namespace DeviceRegex.Engine

/-- The most instructions a program may have: thread lists hold instruction numbers
in 16 signed bits. -/
def maxInstructions : Nat := 32767

/-- The largest count in a counted quantifier. -/
def maxRepeat : Nat := 1000

/-- The most groups that may be open at once. -/
def maxNesting : Nat := 200

/-- Programs up to this length run in the small tier. -/
def smallTierInstructions : Nat := 10

/-- Programs up to this length run in the medium tier. -/
def mediumTierInstructions : Nat := 100

/-- Bytes before the slices of the threads in the working memory. -/
def workingMemoryBase : Nat := 0

/-- Thread lists per execution: the current one and the next one. -/
def threadLists : Nat := 2

/-- Bytes of an instruction number in a thread list. -/
def instructionIdBytes : Nat := 2

/-- Bytes of the range of a match. -/
def rangeBytes : Nat := 8

/-- Bytes of the range of a captured group. -/
def groupSlotBytes : Nat := 8

end DeviceRegex.Engine
