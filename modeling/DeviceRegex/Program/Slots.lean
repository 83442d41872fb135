import DeviceRegex.Program.Basic

/-!
# Named slots

Slots hold programs under names. A program is made in a slot, moved from one slot to
another, or dropped with its slot; it is never in two slots at once.
-/
namespace DeviceRegex

/-- Slots and their programs, one entry for each name. -/
structure Slots where
  entries : List (String × Program)

namespace Slots

/-- No slots. -/
def empty : Slots := ⟨[]⟩

/-- The program in a slot. -/
def get? (s : Slots) (slot : String) : Option Program := s.entries.lookup slot

/-- Remove a slot. -/
def erase (s : Slots) (slot : String) : Slots := ⟨s.entries.filter (·.1 ≠ slot)⟩

/-- Put a program into a slot, in place of the one it holds. -/
def put (s : Slots) (slot : String) (p : Program) : Slots := ⟨(slot, p) :: (s.erase slot).entries⟩

/-- A request about slots. -/
inductive Step where
  | create (slot pattern : String) (flags : Flags) (capture : CaptureMode) (site : CallSite)
  | new (slot pattern : String) (site : CallSite)
  | take (slot target : String)
  | drop (slot : String)

/-- What a request leads to. -/
inductive Outcome where
  | done
  | failed (failure : Failure)
  | noSlot
deriving DecidableEq, Repr

/-- Store a program that was made in a slot. A failure leaves all slots as they were. -/
def store (s : Slots) (slot : String) : Except Failure Program → Outcome × Slots × List Event
  | .error failure => (.failed failure, s, [])
  | .ok p => (.done, s.put slot p, [p.compiledEvent])

/-- Take the program of a slot and store it in a slot, which may be the same one. -/
def take (s : Slots) (slot target : String) : Outcome × Slots :=
  match s.get? slot with
  | none => (.noSlot, s)
  | some p => (.done, (s.put slot p.take.2).put target p.take.1)

/-- Drop a slot with its program. -/
def drop (s : Slots) (slot : String) : Outcome × Slots :=
  match s.get? slot with
  | none => (.noSlot, s)
  | some _ => (.done, s.erase slot)

/-- Serve a request: what it leads to, the slots after it, and the events it logs. -/
def step (s : Slots) : Step → Outcome × Slots × List Event
  | .create slot pattern flags capture site =>
    s.store slot (Program.create pattern flags capture site)
  | .new slot pattern site => s.store slot (Program.new pattern site)
  | .take slot target => ((s.take slot target).1, (s.take slot target).2, [])
  | .drop slot => ((s.drop slot).1, (s.drop slot).2, [])

end Slots
end DeviceRegex
