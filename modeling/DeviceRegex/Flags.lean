import DeviceRegex.Text.Numeral

/-!
# Flags and capture mode

Flags change what the leaves of a pattern match. A flag word may have bits that no
flag defines; they are kept and shown, and are refused where a program is made.
-/
namespace DeviceRegex

/-- The flags in the order in which they are written. -/
inductive Flag where
  /-- Letters match regardless of case. -/
  | ignorecase
  /-- The tests `^` and `$` also match at line boundaries. -/
  | multiline
  /-- The dot also matches a newline. -/
  | dotall
  /-- The escapes `\d`, `\w`, `\s` and `\b` consider ASCII characters only. -/
  | ascii
  /-- Carriage return, U+0085, U+2028 and U+2029 count as line terminators. -/
  | extNewline
deriving DecidableEq, Repr

namespace Flag

/-- All flags, in the order of their bits. -/
def all : List Flag := [ignorecase, multiline, dotall, ascii, extNewline]

/-- The bit of a flag. -/
def bit : Flag → BitVec 32
  | ignorecase => 2
  | multiline => 8
  | dotall => 16
  | ascii => 256
  | extNewline => 512

/-- The written name of a flag. -/
def name : Flag → String
  | ignorecase => "IGNORECASE"
  | multiline => "MULTILINE"
  | dotall => "DOTALL"
  | ascii => "ASCII"
  | extNewline => "EXT_NEWLINE"

/-- The flag with a given name. -/
def ofName? (name : String) : Option Flag := all.find? (·.name = name)

end Flag

/-- A word of flags. -/
structure Flags where
  bits : BitVec 32
deriving DecidableEq, Repr

namespace Flags

/-- No flag. -/
def none : Flags := ⟨0⟩

/-- The bits that some flag defines. -/
def knownBits : BitVec 32 := Flag.all.foldl (fun bits f => bits ||| f.bit) 0

/-- The flag is set. -/
def has (flags : Flags) (f : Flag) : Bool := flags.bits &&& f.bit == f.bit

/-- Set a flag. -/
def set (flags : Flags) (f : Flag) : Flags := ⟨flags.bits ||| f.bit⟩

/-- All flags that one of the two words has. -/
def union (flags others : Flags) : Flags := ⟨flags.bits ||| others.bits⟩

/-- The bits that no flag defines. -/
def unrecognized (flags : Flags) : BitVec 32 := flags.bits &&& ~~~knownBits

/-- The names of the flags that are set, then the other bits as one number. -/
def parts (flags : Flags) : List String :=
  (Flag.all.filter flags.has).map Flag.name ++
    if flags.unrecognized = 0 then [] else ["0x" ++ Text.hexadecimal flags.unrecognized.toNat]

/-- The flags as messages show them. -/
def text (flags : Flags) : String :=
  if flags.bits = 0 then "DEFAULT" else "|".intercalate flags.parts

end Flags

/-- What becomes of parenthesized groups. -/
inductive CaptureMode where
  /-- Every group keeps the range it matched. -/
  | extract
  /-- Groups only group. -/
  | nonCapture
deriving DecidableEq, Repr

/-- The capture mode as messages show it. -/
def CaptureMode.text : CaptureMode → String
  | extract => "EXTRACT"
  | nonCapture => "NON_CAPTURE"

end DeviceRegex
