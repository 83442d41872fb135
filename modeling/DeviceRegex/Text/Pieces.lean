import DeviceRegex.Unicode.WhiteSpace

/-!
# Pieces of a text

Texts with several parts, such as lists of names, are taken apart at a separator.
-/
namespace DeviceRegex.Text

/-- The pieces of a text between separators. There is always one more than there are
separators. -/
def pieces (separator : Char) : List Char → List (List Char)
  | [] => [[]]
  | c :: rest =>
    if c = separator then [] :: pieces separator rest
    else
      match pieces separator rest with
      | [] => [[c]]
      | piece :: others => (c :: piece) :: others

/-- The text without white space at its ends. -/
def trim (text : List Char) : List Char :=
  ((text.dropWhile Unicode.isWhiteSpace).reverse.dropWhile Unicode.isWhiteSpace).reverse

end DeviceRegex.Text
