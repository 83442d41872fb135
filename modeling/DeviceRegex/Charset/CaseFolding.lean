import DeviceRegex.Charset.Basic
import DeviceRegex.Unicode.CaseMapping

/-!
# Case folding

Under the flag `ignorecase` a character stands for itself and for its lower-case and
upper-case images, as far as these are single characters. In ranges, ASCII letters
alone are folded.
-/
namespace DeviceRegex

/-- Add the image of a character to its variants, if it is a single new character. -/
def addCase (variants image : List Char) : List Char :=
  match image with
  | [c] => if c ∈ variants then variants else variants ++ [c]
  | _ => variants

/-- A character followed by its other cases. -/
def letterCases (c : Char) : List Char :=
  addCase (addCase [c] (Unicode.lowercase c)) (Unicode.uppercase c)

/-- The part of the range from `first` to `last` that lies between `low` and `high`,
with its ends mapped; nothing if the ranges do not meet. -/
def foldOverlap (first last low high : Char) (map : Char → Char) : List SetItem :=
  let lower := if first ≤ low then low else first
  let upper := if last ≤ high then last else high
  if lower ≤ upper then [.range (map lower) (map upper)] else []

namespace SetItem

/-- An item followed by the items for its other cases. -/
def foldCase : SetItem → List SetItem
  | char c => char c :: ((letterCases c).filter (· ≠ c)).map char
  | range first last =>
    range first last ::
      (foldOverlap first last 'a' 'z' Char.toUpper ++ foldOverlap first last 'A' 'Z' Char.toLower)
  | shorthand s => [shorthand s]
  | complement s => [complement s]

end SetItem

/-- The items of a set under the flag `ignorecase`. -/
def foldCases (items : List SetItem) : List SetItem := items.flatMap SetItem.foldCase

end DeviceRegex
