import DeviceRegex.Engine
import DeviceRegex.Failure
import DeviceRegex.Text.Numeral

/-!
# Syntax errors

A syntax error is a cause together with the rest of the pattern from the place where
it lies. The place is known from the length of that rest, and the message quotes the
rest's first characters.
-/
namespace DeviceRegex

/-- What is wrong with a pattern. -/
inductive SyntaxFault where
  | unmatchedClose
  | missingClose
  | nestedTooDeeply
  /-- A group that opens with `(?` and something other than `:`. -/
  | unsupportedGroup (construct : List Char)
  | nothingToRepeat
  | multipleRepeat
  | repeatTooLarge (count : Nat)
  | repeatBoundsReversed
  | trailingBackslash
  | backreference
  | badEscape (c : Char)
  | incompleteHex
  | invalidCodePoint
  | missingBracket
  /-- A range whose end is a class of characters. -/
  | rangeToClass
  | rangeReversed (first last : Char)
deriving DecidableEq, Repr

namespace SyntaxFault

/-- The kind of precondition that a faulty pattern breaks. -/
def kind : SyntaxFault → PreconditionKind
  | nestedTooDeeply | repeatTooLarge _ => .outOfRange
  | unsupportedGroup _ | backreference => .unsupported
  | unmatchedClose | missingClose | nothingToRepeat | multipleRepeat | repeatBoundsReversed
  | trailingBackslash | badEscape _ | incompleteHex | invalidCodePoint | missingBracket
  | rangeToClass | rangeReversed .. => .invalidArgument

/-- A fault in words. -/
def text : SyntaxFault → String
  | unmatchedClose => "unmatched ')'"
  | missingClose => "missing ')'"
  | nestedTooDeeply => "groups nested too deeply"
  | unsupportedGroup construct => "unsupported group construct '" ++ String.ofList construct ++ "'"
  | nothingToRepeat => "nothing to repeat"
  | multipleRepeat => "multiple repeat"
  | repeatTooLarge count =>
    "repeat count " ++ Text.decimal count ++ " exceeds " ++ Text.decimal Engine.maxRepeat
  | repeatBoundsReversed => "min repeat greater than max repeat"
  | trailingBackslash => "trailing backslash"
  | backreference => "backreferences are not supported"
  | badEscape c => "bad escape '\\" ++ String.singleton c ++ "'"
  | incompleteHex => "incomplete hex escape"
  | invalidCodePoint => "invalid code point"
  | missingBracket => "missing ']'"
  | rangeToClass => "bad character range"
  | rangeReversed first last =>
    "bad character range " ++ String.singleton first ++ "-" ++ String.singleton last

end SyntaxFault

/-- A fault and the rest of the pattern at the place where it lies. -/
structure SyntaxError where
  fault : SyntaxFault
  rest : List Char
deriving DecidableEq, Repr

namespace SyntaxError

/-- The number of characters of the pattern before the fault. -/
def position (e : SyntaxError) (pattern : List Char) : Nat := pattern.length - e.rest.length

/-- The characters that the message quotes. -/
def excerpt (e : SyntaxError) : List Char := e.rest.take 8

/-- The message of a syntax error in a pattern. -/
def message (e : SyntaxError) (pattern : List Char) : String :=
  e.fault.text ++ " at position " ++ Text.decimal (e.position pattern) ++
    " near '" ++ String.ofList e.excerpt ++ "'"

end SyntaxError

/-- A reader takes an item off the front of a text, or finds a fault. -/
abbrev Reader (α : Type) := List Char → Except SyntaxError (α × List Char)

/-- Report a fault that lies at the front of `rest`. -/
def faultAt {α : Type} (rest : List Char) (fault : SyntaxFault) : Except SyntaxError α :=
  .error ⟨fault, rest⟩

@[simp] theorem faultAt_ne_ok {α : Type} {rest : List Char} {fault : SyntaxFault} {a : α} :
    faultAt rest fault ≠ .ok a := by simp [faultAt]

/-- Two readings in a row succeed when the first one does and the second one does on
what the first one gives. -/
theorem bind_eq_ok_iff {ε α β : Type} {x : Except ε α} {f : α → Except ε β} {b : β} :
    (x >>= f) = .ok b ↔ ∃ a, x = .ok a ∧ f a = .ok b := by
  cases x <;> simp [bind, Except.bind]

end DeviceRegex
