import DeviceRegex.Flags
import DeviceRegex.Text.Pieces

/-!
# Flags as JSON text

Flags are exchanged as one string: the names of the flags that are set, then all other
bits as one hexadecimal number, with bars between them. A reader takes names and
numbers in any order and as often as they come, with white space around each of them.
-/
namespace DeviceRegex

namespace Flags

/-- Flags as one string for exchange. -/
def exchangeText (flags : Flags) : String := " | ".intercalate flags.parts

/-- Read one piece: a number after `0x`, whose bits are all kept, or the name of a flag. -/
def ofPiece? : List Char → Option Flags
  | '0' :: 'x' :: digits =>
    (Text.readHexadecimal? 0xFFFFFFFF digits).map fun n => ⟨BitVec.ofNat 32 n⟩
  | name => (Flag.ofName? (String.ofList name)).map fun f => ⟨f.bit⟩

/-- Read flags from their string. White space alone stands for no flags. -/
def ofExchangeText? (text : String) : Option Flags := do
  if Text.trim text.toList = [] then return .none
  let pieces ← (Text.pieces '|' text.toList).mapM fun piece => ofPiece? (Text.trim piece)
  return pieces.foldl union .none

end Flags
end DeviceRegex
