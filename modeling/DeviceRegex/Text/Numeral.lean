/-!
# Numerals

Numbers as they are written in listings and read from arguments: decimal numerals,
lower-case hexadecimal numerals, and fields of a fixed width.
-/
namespace DeviceRegex.Text

/-- The decimal numeral of `n`, without leading zeros. -/
def decimal (n : Nat) : String := String.ofList (Nat.toDigits 10 n)

/-- The hexadecimal numeral of `n`, in lower case and without leading zeros. -/
def hexadecimal (n : Nat) : String := String.ofList (Nat.toDigits 16 n)

/-- Fill `s` on the left up to `width` characters; a longer text is kept whole. -/
def padLeft (width : Nat) (fill : Char) (s : String) : String :=
  String.ofList (List.replicate (width - s.length) fill) ++ s

/-- A 64-bit word as it appears in listings: `0x` and sixteen digits. -/
def hexWord (word : Nat) : String := "0x" ++ padLeft 16 '0' (hexadecimal word)

/-- The value of a hexadecimal digit of either case. -/
def hexDigit? (c : Char) : Option Nat :=
  if c.isDigit then some (c.toNat - '0'.toNat)
  else if 'a' ≤ c ∧ c ≤ 'f' then some (c.toNat - 'a'.toNat + 10)
  else if 'A' ≤ c ∧ c ≤ 'F' then some (c.toNat - 'A'.toNat + 10)
  else none

/-- The value of an octal digit. -/
def octalDigit? (c : Char) : Option Nat :=
  if '0' ≤ c ∧ c ≤ '7' then some (c.toNat - '0'.toNat) else none

/-- A numeral may start with one plus sign, which adds nothing. -/
def dropPlus : List Char → List Char
  | '+' :: digits => digits
  | digits => digits

/-- Read a decimal numeral of at most `limit`. -/
def readDecimal? (limit : Nat) (text : List Char) : Option Nat :=
  let digits := dropPlus text
  if digits ≠ [] ∧ digits.all Char.isDigit then
    let value := Nat.ofDigitChars 10 digits 0
    if value ≤ limit then some value else none
  else none

/-- The number that hexadecimal digits write, after the digits of `value`. -/
def hexValue? (value : Nat) : List Char → Option Nat
  | [] => some value
  | c :: digits => do hexValue? (16 * value + (← hexDigit? c)) digits

/-- Read a hexadecimal numeral of at most `limit`. -/
def readHexadecimal? (limit : Nat) (text : List Char) : Option Nat :=
  let digits := dropPlus text
  if digits = [] then none
  else (hexValue? 0 digits).filter (· ≤ limit)

end DeviceRegex.Text
