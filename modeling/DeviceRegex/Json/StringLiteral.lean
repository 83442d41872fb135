import DeviceRegex.Text.Numeral

/-!
# JSON strings

A string is written between quotes. Quotes, backslashes and controls are escaped, and
every other character stands for itself. A reader also takes the escape of any UTF-16
unit; two of them in a row may write one character beyond the first plane, and a unit
of such a pair alone writes none.
-/
namespace DeviceRegex.Json

/-- The form of a character inside a string literal. -/
def escapeChar (c : Char) : List Char :=
  match c with
  | '"' => ['\\', '"']
  | '\\' => ['\\', '\\']
  | '\x08' => ['\\', 'b']
  | '\x0c' => ['\\', 'f']
  | '\n' => ['\\', 'n']
  | '\r' => ['\\', 'r']
  | '\t' => ['\\', 't']
  | c =>
    if c < ' ' then
      ['\\', 'u', '0', '0', Nat.digitChar (c.toNat / 16), Nat.digitChar (c.toNat % 16)]
    else [c]

/-- The literal of a string. -/
def quote (s : String) : String :=
  String.ofList ('"' :: s.toList.flatMap escapeChar ++ ['"'])

/-- A piece of a string literal: a character, or a UTF-16 unit given by its number. -/
inductive Piece where
  | char (c : Char)
  | unit (n : Nat)
deriving DecidableEq, Repr

/-- The character of an escape with one letter. -/
def escapeLetter? : Char → Option Char
  | '"' => some '"'
  | '\\' => some '\\'
  | '/' => some '/'
  | 'b' => some '\x08'
  | 'f' => some '\x0c'
  | 'n' => some '\n'
  | 'r' => some '\r'
  | 't' => some '\t'
  | _ => none

/-- Read the pieces of a string literal up to its closing quote. Controls must be
escaped. -/
def readPieces : List Char → Option (List Piece × List Char)
  | [] => none
  | '"' :: rest => some ([], rest)
  | '\\' :: 'u' :: d₁ :: d₂ :: d₃ :: d₄ :: rest => do
    let n ← Text.hexValue? 0 [d₁, d₂, d₃, d₄]
    let (pieces, rest) ← readPieces rest
    return (.unit n :: pieces, rest)
  | '\\' :: c :: rest => do
    let d ← escapeLetter? c
    let (pieces, rest) ← readPieces rest
    return (.char d :: pieces, rest)
  | c :: rest => do
    if c < ' ' ∨ c = '\\' then none
    else
      let (pieces, rest) ← readPieces rest
      return (.char c :: pieces, rest)

/-- The unit is the first of a pair. -/
def isHighUnit (n : Nat) : Bool := decide (0xd800 ≤ n) && decide (n < 0xdc00)

/-- The unit is the second of a pair. -/
def isLowUnit (n : Nat) : Bool := decide (0xdc00 ≤ n) && decide (n < 0xe000)

/-- The character that a pair of units writes. -/
def pairChar (high low : Nat) : Char :=
  Char.ofNat (0x10000 + 0x400 * (high - 0xd800) + (low - 0xdc00))

/-- The characters that pieces write, unless a unit of a pair stands alone. -/
def decodePieces : List Piece → Option (List Char)
  | [] => some []
  | .char c :: pieces => do return c :: (← decodePieces pieces)
  | .unit high :: .unit low :: pieces =>
    if isHighUnit high && isLowUnit low then do return pairChar high low :: (← decodePieces pieces)
    else if isHighUnit high || isLowUnit high then none
    else do return Char.ofNat high :: (← decodePieces (.unit low :: pieces))
  | .unit n :: pieces =>
    if isHighUnit n || isLowUnit n then none else do return Char.ofNat n :: (← decodePieces pieces)

/-- Read a string from the text after its opening quote. The answer has no string when
the literal is in order but writes an unpaired unit. -/
def readString (text : List Char) : Option (Option String × List Char) := do
  let (pieces, rest) ← readPieces text
  return ((decodePieces pieces).map String.ofList, rest)

/-! ## Reading makes progress -/

theorem readPieces_length_lt {text rest : List Char} {pieces : List Piece}
    (h : readPieces text = some (pieces, rest)) : rest.length < text.length := by
  fun_induction readPieces text generalizing pieces <;>
    simp_all [Option.bind_eq_some_iff] <;> grind

theorem readString_length_lt {text rest : List Char} {s : Option String}
    (h : readString text = some (s, rest)) : rest.length < text.length := by
  simp only [readString, Option.bind_eq_bind, Option.bind_eq_some_iff] at h
  obtain ⟨⟨pieces, rest'⟩, hr, h⟩ := h
  have := readPieces_length_lt hr
  simp_all

end DeviceRegex.Json
