import DeviceRegex.Pattern.Node
import DeviceRegex.Pattern.SyntaxError

/-!
# Escapes

A backslash gives the next character another meaning: a class of characters, a test
of a position, a control character, or a code point in octal or hexadecimal digits.
Before any other character that is not an ASCII letter or digit, it takes the special
meaning away. All faults lie at the backslash, whose text is passed as `start`.
-/
namespace DeviceRegex.Pattern

/-- The class that an escape letter names, and whether it names the complement. -/
def shorthand? : Char → Option (Shorthand × Bool)
  | 'd' => some (.digit, false)
  | 'D' => some (.digit, true)
  | 'w' => some (.word, false)
  | 'W' => some (.word, true)
  | 's' => some (.space, false)
  | 'S' => some (.space, true)
  | _ => none

/-- The test of a position that an escape letter names. -/
def assertion? : Char → Option Assertion
  | 'b' => some .wordBoundary
  | 'B' => some .notWordBoundary
  | 'A' => some .textStart
  | 'Z' | 'z' => some .textEnd
  | _ => none

/-- The control character that an escape letter names. A `b` names the backspace
inside sets only. -/
def control? (inSet : Bool) : Char → Option Char
  | 'n' => some '\n'
  | 't' => some '\t'
  | 'r' => some '\r'
  | 'f' => some '\x0c'
  | 'v' => some '\x0b'
  | 'a' => some '\x07'
  | 'e' => some '\x1b'
  | 'b' => if inSet then some '\x08' else none
  | _ => none

/-- The digit refers back to a group. -/
def isBackreference (c : Char) : Bool := decide ('1' ≤ c) && decide (c ≤ '9')

/-- Read at most `count` octal digits after the digits of `value`. -/
def readOctal (value : Nat) : Nat → List Char → Nat × List Char
  | 0, text => (value, text)
  | _ + 1, [] => (value, [])
  | count + 1, c :: rest =>
    match Text.octalDigit? c with
    | some digit => readOctal (8 * value + digit) count rest
    | none => (value, c :: rest)

/-- Read exactly `count` hexadecimal digits after the digits of `value`. -/
def readHex (start : List Char) (value : Nat) : Nat → Reader Nat
  | 0, text => .ok (value, text)
  | _ + 1, [] => faultAt start .incompleteHex
  | count + 1, c :: rest =>
    match Text.hexDigit? c with
    | some digit => readHex start (16 * value + digit) count rest
    | none => faultAt start .incompleteHex

/-- Read a code point of exactly `count` hexadecimal digits. -/
def readCodePoint (start : List Char) (count : Nat) : Reader Char := fun text => do
  let (value, rest) ← readHex start 0 count text
  if value.isValidChar then return (Char.ofNat value, rest) else faultAt start .invalidCodePoint

/-- Read the character that an escape stands for, from the text after its backslash. -/
def readEscapedChar (inSet : Bool) (start : List Char) : Reader Char
  | [] => faultAt start .trailingBackslash
  | c :: rest =>
    match control? inSet c with
    | some decoded => .ok (decoded, rest)
    | none =>
      if c = '0' then
        let (value, rest) := readOctal 0 2 rest
        .ok (Char.ofNat value, rest)
      else if c = 'x' then readCodePoint start 2 rest
      else if c = 'u' then readCodePoint start 4 rest
      else if c.isAlphanum then faultAt start (.badEscape c)
      else .ok (c, rest)

/-- Read an escape outside sets, from the text after its backslash. -/
def readEscape (start : List Char) : Reader Leaf
  | [] => faultAt start .trailingBackslash
  | c :: rest =>
    match shorthand? c, assertion? c with
    | some (kind, negated), _ => .ok (.set [.shorthand kind] negated, rest)
    | none, some test => .ok (.assertion test, rest)
    | none, none =>
      if isBackreference c then faultAt start .backreference
      else do
        let (decoded, rest) ← readEscapedChar false start (c :: rest)
        return (.char decoded, rest)

/-- Read an escape inside a set, from the text after its backslash. -/
def readSetEscape (start : List Char) : Reader SetItem
  | [] => faultAt start .trailingBackslash
  | c :: rest =>
    match shorthand? c with
    | some (kind, negated) => .ok (if negated then .complement kind else .shorthand kind, rest)
    | none =>
      if isBackreference c then faultAt start .backreference
      else do
        let (decoded, rest) ← readEscapedChar true start (c :: rest)
        return (.char decoded, rest)

/-! ## Reading makes progress -/

theorem readOctal_length_le (value count : Nat) (text : List Char) :
    (readOctal value count text).2.length ≤ text.length := by
  fun_induction readOctal value count text <;> simp_all
  omega

theorem readHex_length_le {start text rest : List Char} {value count n : Nat}
    (h : readHex start value count text = .ok (n, rest)) : rest.length ≤ text.length := by
  fun_induction readHex start value count text <;> simp_all [faultAt]
  omega

theorem readCodePoint_length_le {start text rest : List Char} {count : Nat} {c : Char}
    (h : readCodePoint start count text = .ok (c, rest)) : rest.length ≤ text.length := by
  obtain ⟨⟨value, rest'⟩, hr, h⟩ := bind_eq_ok_iff.1 h
  have := readHex_length_le hr
  simp only at h
  split at h
  · simp_all [pure, Except.pure]
  · simp at h

theorem readEscapedChar_length_lt {inSet : Bool} {start text rest : List Char} {c : Char}
    (h : readEscapedChar inSet start text = .ok (c, rest)) : rest.length < text.length := by
  unfold readEscapedChar at h
  split at h
  · simp [faultAt] at h
  · rename_i d tail
    split at h
    · simp_all
    · split at h
      · have := readOctal_length_le 0 2 tail
        simp only [Except.ok.injEq, Prod.mk.injEq] at h
        rw [← h.2, List.length_cons]
        omega
      · split at h
        · have := readCodePoint_length_le h
          simp; omega
        · split at h
          · have := readCodePoint_length_le h
            simp; omega
          · split at h <;> simp_all [faultAt]

theorem readEscape_length_lt {start text rest : List Char} {leaf : Leaf}
    (h : readEscape start text = .ok (leaf, rest)) : rest.length < text.length := by
  unfold readEscape at h
  split at h
  · simp at h
  · split at h
    · simp_all
    · simp_all
    · split at h
      · simp at h
      · obtain ⟨⟨decoded, rest'⟩, hr, h⟩ := bind_eq_ok_iff.1 h
        have := readEscapedChar_length_lt hr
        simp_all [pure, Except.pure]

theorem readSetEscape_length_lt {start text rest : List Char} {item : SetItem}
    (h : readSetEscape start text = .ok (item, rest)) : rest.length < text.length := by
  unfold readSetEscape at h
  split at h
  · simp at h
  · split at h
    · simp_all
    · split at h
      · simp at h
      · obtain ⟨⟨decoded, rest'⟩, hr, h⟩ := bind_eq_ok_iff.1 h
        have := readEscapedChar_length_lt hr
        simp_all [pure, Except.pure]

end DeviceRegex.Pattern
