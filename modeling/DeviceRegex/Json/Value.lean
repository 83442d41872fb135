import DeviceRegex.Json.StringLiteral

/-!
# JSON values

A value is read from left to right with a stack of the arrays and objects that are
open. Numbers are kept as they are written.
-/
namespace DeviceRegex

/-- A JSON value. A string or key is missing when its literal writes an unpaired UTF-16
unit, which no string can hold. -/
inductive Json where
  | null
  | bool (b : Bool)
  | number (numeral : List Char)
  | string (s : Option String)
  | array (elements : List Json)
  | object (members : List (Option String × Json))

namespace Json

/-- The blanks that may stand between the parts of a value. -/
def isBlank (c : Char) : Bool := c == ' ' || c == '\n' || c == '\t' || c == '\r'

/-- Pass over blanks. -/
def skipBlanks (text : List Char) : List Char := text.dropWhile isBlank

/-! ## Numbers -/

/-- Read the digits at the front of a text, of which there must be one. -/
def readDigits (text : List Char) : Option (List Char × List Char) :=
  if text.takeWhile Char.isDigit = [] then none
  else some (text.takeWhile Char.isDigit, text.dropWhile Char.isDigit)

/-- Read the digits before the point. Only the number zero starts with a zero. -/
def readWhole : List Char → Option (List Char × List Char)
  | '0' :: c :: rest => if c.isDigit then none else some (['0'], c :: rest)
  | text => readDigits text

/-- Read the point and the digits after it, if there is a point. -/
def readFraction : List Char → Option (List Char × List Char)
  | '.' :: rest => do
    let (digits, rest) ← readDigits rest
    return ('.' :: digits, rest)
  | text => some ([], text)

/-- Read the sign of an exponent, if there is one. -/
def readExponentSign : List Char → List Char × List Char
  | '+' :: rest => (['+'], rest)
  | '-' :: rest => (['-'], rest)
  | text => ([], text)

/-- Read the exponent, if there is one. -/
def readExponent : List Char → Option (List Char × List Char)
  | c :: rest =>
    if c = 'e' ∨ c = 'E' then do
      let (digits, tail) ← readDigits (readExponentSign rest).2
      return (c :: (readExponentSign rest).1 ++ digits, tail)
    else some ([], c :: rest)
  | [] => some ([], [])

/-- Read a number without its sign. -/
def readUnsigned (text : List Char) : Option (List Char × List Char) := do
  let (whole, rest) ← readWhole text
  let (fraction, rest) ← readFraction rest
  let (exponent, rest) ← readExponent rest
  return (whole ++ fraction ++ exponent, rest)

/-- Read a number as it is written. -/
def readNumber : List Char → Option (List Char × List Char)
  | '-' :: rest => do
    let (numeral, rest) ← readUnsigned rest
    return ('-' :: numeral, rest)
  | text => readUnsigned text

/-! ## Reading makes progress -/

theorem skipBlanks_length_le (text : List Char) : (skipBlanks text).length ≤ text.length :=
  (List.dropWhile_sublist isBlank).length_le

theorem length_lt_of_skipBlanks {text rest : List Char} {c : Char}
    (h : skipBlanks text = c :: rest) : rest.length < text.length := by
  have := skipBlanks_length_le text
  rw [h] at this
  exact this

theorem readDigits_length_lt {text digits rest : List Char}
    (h : readDigits text = some (digits, rest)) : rest.length < text.length := by
  have parts := congrArg List.length (@List.takeWhile_append_dropWhile _ Char.isDigit text)
  rw [List.length_append] at parts
  unfold readDigits at h
  split at h
  · simp at h
  · rename_i hne
    have := List.length_pos_iff.2 hne
    simp only [Option.some.injEq, Prod.mk.injEq] at h
    rw [← h.2]
    omega

theorem readWhole_length_lt {text digits rest : List Char}
    (h : readWhole text = some (digits, rest)) : rest.length < text.length := by
  unfold readWhole at h
  split at h
  · split at h
    · simp at h
    · simp_all
  · exact readDigits_length_lt h

theorem readFraction_length_le {text digits rest : List Char}
    (h : readFraction text = some (digits, rest)) : rest.length ≤ text.length := by
  unfold readFraction at h
  split at h
  · simp only [Option.bind_eq_bind, Option.bind_eq_some_iff] at h
    obtain ⟨⟨digits', rest'⟩, hr, h⟩ := h
    have := readDigits_length_lt hr
    simp_all
    omega
  · simp_all

theorem readExponentSign_length_le (text : List Char) :
    (readExponentSign text).2.length ≤ text.length := by
  unfold readExponentSign
  split <;> simp

theorem readExponent_length_le {text exponent rest : List Char}
    (h : readExponent text = some (exponent, rest)) : rest.length ≤ text.length := by
  unfold readExponent at h
  split at h
  · rename_i c tail
    split at h
    · simp only [Option.bind_eq_bind, Option.bind_eq_some_iff] at h
      obtain ⟨⟨digits, rest'⟩, hr, h⟩ := h
      have := readDigits_length_lt hr
      have := readExponentSign_length_le tail
      simp_all
      omega
    · simp_all
  · simp_all

theorem readUnsigned_length_lt {text numeral rest : List Char}
    (h : readUnsigned text = some (numeral, rest)) : rest.length < text.length := by
  simp only [readUnsigned, Option.bind_eq_bind, Option.bind_eq_some_iff] at h
  obtain ⟨⟨whole, rest₁⟩, h₁, ⟨fraction, rest₂⟩, h₂, ⟨exponent, rest₃⟩, h₃, h⟩ := h
  have := readWhole_length_lt h₁
  have := readFraction_length_le h₂
  have := readExponent_length_le h₃
  simp_all
  omega

theorem readNumber_length_lt {text numeral rest : List Char}
    (h : readNumber text = some (numeral, rest)) : rest.length < text.length := by
  unfold readNumber at h
  split at h
  · simp only [Option.bind_eq_bind, Option.bind_eq_some_iff] at h
    obtain ⟨⟨numeral', rest'⟩, hr, h⟩ := h
    have := readUnsigned_length_lt hr
    simp_all
    omega
  · exact readUnsigned_length_lt h

/-! ## Values -/

/-- Read a value that is neither an array nor an object. -/
def readScalar : List Char → Option (Json × List Char)
  | 'n' :: 'u' :: 'l' :: 'l' :: rest => some (null, rest)
  | 't' :: 'r' :: 'u' :: 'e' :: rest => some (bool true, rest)
  | 'f' :: 'a' :: 'l' :: 's' :: 'e' :: rest => some (bool false, rest)
  | '"' :: rest => (readString rest).map fun (s, rest) => (string s, rest)
  | text => (readNumber text).map fun (numeral, rest) => (number numeral, rest)

/-- Read a key of an object and the colon after it. -/
def readKey (text : List Char) : Option (Option String × List Char) :=
  match skipBlanks text with
  | '"' :: rest => do
    let (key, rest) ← readString rest
    match skipBlanks rest with
    | ':' :: rest => some (key, rest)
    | _ => none
  | _ => none

theorem readScalar_length_lt {text rest : List Char} {v : Json}
    (h : readScalar text = some (v, rest)) : rest.length < text.length := by
  unfold readScalar at h
  split at h
  iterate 3
    simp_all
    omega
  · simp only [Option.map_eq_some_iff, Prod.mk.injEq] at h
    obtain ⟨⟨s, rest'⟩, hr, h⟩ := h
    have := readString_length_lt hr
    simp_all
    omega
  · simp only [Option.map_eq_some_iff, Prod.mk.injEq] at h
    obtain ⟨⟨numeral, rest'⟩, hr, h⟩ := h
    have := readNumber_length_lt hr
    simp_all

theorem readKey_length_lt {text rest : List Char} {key : Option String}
    (h : readKey text = some (key, rest)) : rest.length < text.length := by
  have first := skipBlanks_length_le text
  unfold readKey at h
  split at h
  · rename_i tail hs
    simp only [Option.bind_eq_bind, Option.bind_eq_some_iff] at h
    obtain ⟨⟨key', rest'⟩, hr, h⟩ := h
    have := readString_length_lt hr
    have second := skipBlanks_length_le rest'
    split at h
    · simp_all
      omega
    · simp at h
  · simp at h

/-- An array or object that is open, with its contents so far, the latest first. An
object waits for the value of a key. -/
inductive Frame where
  | array (elements : List Json)
  | object (members : List (Option String × Json)) (key : Option String)

mutual
/-- Read a value inside the open arrays and objects of the stack, and all that follows
until the outermost value is complete. -/
def readValue (stack : List Frame) (text : List Char) : Option (Json × List Char) :=
  match _h : skipBlanks text with
  | '[' :: inside =>
    match _h' : skipBlanks inside with
    | ']' :: rest => complete stack (array []) rest
    | _ => readValue (.array [] :: stack) inside
  | '{' :: inside =>
    match _h' : skipBlanks inside with
    | '}' :: rest => complete stack (object []) rest
    | _ =>
      match _h'' : readKey inside with
      | some (key, rest) => readValue (.object [] key :: stack) rest
      | none => none
  | start =>
    match _h' : readScalar start with
    | some (v, rest) => complete stack v rest
    | none => none
termination_by text.length
decreasing_by
  · exact Nat.lt_trans (length_lt_of_skipBlanks _h') (length_lt_of_skipBlanks _h)
  · exact length_lt_of_skipBlanks _h
  · exact Nat.lt_trans (length_lt_of_skipBlanks _h') (length_lt_of_skipBlanks _h)
  · exact Nat.lt_trans (readKey_length_lt _h'') (length_lt_of_skipBlanks _h)
  · exact Nat.lt_of_lt_of_le (readScalar_length_lt _h') (_h ▸ skipBlanks_length_le text)

/-- Put a complete value into the innermost open array or object, and read what
follows until the outermost value is complete. -/
def complete (stack : List Frame) (v : Json) (text : List Char) : Option (Json × List Char) :=
  match stack with
  | [] => some (v, text)
  | .array elements :: stack =>
    match _h : skipBlanks text with
    | ',' :: rest => readValue (.array (v :: elements) :: stack) rest
    | ']' :: rest => complete stack (array (v :: elements).reverse) rest
    | _ => none
  | .object members key :: stack =>
    match _h : skipBlanks text with
    | ',' :: more =>
      match _h' : readKey more with
      | some (key', rest) => readValue (.object ((key, v) :: members) key' :: stack) rest
      | none => none
    | '}' :: rest => complete stack (object ((key, v) :: members).reverse) rest
    | _ => none
termination_by text.length
decreasing_by
  · exact length_lt_of_skipBlanks _h
  · exact length_lt_of_skipBlanks _h
  · exact Nat.lt_trans (readKey_length_lt _h') (length_lt_of_skipBlanks _h)
  · exact length_lt_of_skipBlanks _h
end

/-- Read a text that holds one value and nothing else but blanks. -/
def parse (text : String) : Option Json :=
  match readValue [] text.toList with
  | some (v, rest) => if skipBlanks rest = [] then some v else none
  | none => none

end Json
end DeviceRegex
