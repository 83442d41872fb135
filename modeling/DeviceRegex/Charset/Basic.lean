import DeviceRegex.Text.Escape
import DeviceRegex.Unicode.Alphabetic
import DeviceRegex.Unicode.Numeric
import DeviceRegex.Unicode.WhiteSpace

/-!
# Sets of characters

A set is a list of items and matches what some item matches. Sets are stored
positive: whether a pattern asks for a character inside or outside a set is up to
the instruction that refers to it.
-/
namespace DeviceRegex

/-- The classes of characters that have an escape of their own. -/
inductive Shorthand where
  /-- Digits, written `\d`. -/
  | digit
  /-- Letters, digits and the underscore, written `\w`. -/
  | word
  /-- White space, written `\s`. -/
  | space
deriving DecidableEq, Repr

namespace Shorthand

/-- The ASCII characters of a class. -/
def containsAscii : Shorthand → Char → Bool
  | digit, c => c.isDigit
  | word, c => c.isAlphanum || c == '_'
  | space, c => c == ' ' || ('\t' ≤ c && c ≤ '\r')

/-- All characters of a class. -/
def containsUnicode : Shorthand → Char → Bool
  | digit, c => Unicode.isNumeric c
  | word, c => Unicode.isAlphabetic c || Unicode.isNumeric c || c == '_'
  | space, c => Unicode.isWhiteSpace c

/-- Membership in the class, which has ASCII characters only if `ascii` is set. -/
def contains (s : Shorthand) (ascii : Bool) (c : Char) : Bool :=
  if ascii then s.containsAscii c else s.containsUnicode c

/-- The letter that names the class in an escape. -/
def letter : Shorthand → Char
  | digit => 'd'
  | word => 'w'
  | space => 's'

/-- The letter that names the complement of the class. -/
def complementLetter : Shorthand → Char
  | digit => 'D'
  | word => 'W'
  | space => 'S'

end Shorthand

/-- An item of a set. -/
inductive SetItem where
  | char (c : Char)
  /-- All characters from `first` to `last`; none if `last` comes before `first`. -/
  | range (first last : Char)
  | shorthand (s : Shorthand)
  /-- All characters outside a class. -/
  | complement (s : Shorthand)
deriving DecidableEq, Repr

namespace SetItem

/-- Whether `c` is one of the characters of an item. -/
def contains (ascii : Bool) (c : Char) : SetItem → Bool
  | char d => c == d
  | range first last => decide (first ≤ c) && decide (c ≤ last)
  | shorthand s => s.contains ascii c
  | complement s => !s.contains ascii c

/-- An item as listings show it. -/
def text : SetItem → String
  | char c => Text.escape c
  | range first last => Text.escape first ++ "-" ++ Text.escape last
  | shorthand s => "\\" ++ String.singleton s.letter
  | complement s => "\\" ++ String.singleton s.complementLetter

end SetItem

/-- A set of characters. -/
structure Charset where
  items : List SetItem
  /-- The shorthand items have ASCII characters only. -/
  ascii : Bool
deriving DecidableEq, Repr

namespace Charset

/-- Whether `c` is in the set. -/
def contains (s : Charset) (c : Char) : Bool := s.items.any (·.contains s.ascii c)

/-- A set as listings show it. -/
def text (s : Charset) : String := "[" ++ String.join (s.items.map SetItem.text) ++ "]"

end Charset
end DeviceRegex
