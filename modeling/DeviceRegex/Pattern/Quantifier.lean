import DeviceRegex.Engine
import DeviceRegex.Pattern.Node
import DeviceRegex.Pattern.SyntaxError

/-!
# Quantifiers

`*`, `+`, `?` and counted quantifiers such as `{2,5}` follow the part they repeat; a
question mark after one of them prefers fewer repetitions. A brace that does not
start a counted quantifier stands for itself.
-/
namespace DeviceRegex.Pattern

/-- The largest count that is told apart from larger ones. -/
def maxCount : Nat := 0xFFFFFFFF

/-- The number that decimal digits write, or `maxCount` if it is larger. -/
def countValue (digits : List Char) : Nat :=
  digits.foldl (fun value c => min (10 * value + (c.toNat - '0'.toNat)) maxCount) 0

/-- The count that digits write, refused above the limit. `start` is the text from
the brace of the quantifier. -/
def readCount (start digits : List Char) : Except SyntaxError Nat :=
  if Engine.maxRepeat < countValue digits then faultAt start (.repeatTooLarge (countValue digits))
  else .ok (countValue digits)

/-- A counted quantifier as written: the digits of the two counts, and whether a
comma stands between them. -/
structure CountedShape where
  minDigits : List Char
  comma : Bool
  maxDigits : List Char
deriving DecidableEq, Repr

/-- Read what follows the opening brace of `{n}`, `{n,}`, `{,m}` or `{n,m}`. -/
def readShape (afterBrace : List Char) : Option (CountedShape × List Char) :=
  let minDigits := afterBrace.takeWhile Char.isDigit
  match afterBrace.dropWhile Char.isDigit with
  | '}' :: rest => if minDigits = [] then none else some (⟨minDigits, false, []⟩, rest)
  | ',' :: afterComma =>
    let maxDigits := afterComma.takeWhile Char.isDigit
    match afterComma.dropWhile Char.isDigit with
    | '}' :: rest =>
      if minDigits = [] ∧ maxDigits = [] then none else some (⟨minDigits, true, maxDigits⟩, rest)
    | _ => none
  | _ => none

/-- Read the least count, which is 0 if omitted. -/
def CountedShape.readMin (start : List Char) (s : CountedShape) : Except SyntaxError Nat :=
  if s.minDigits = [] then .ok 0 else readCount start s.minDigits

/-- Read the largest count. It equals the least one without a comma and is missing if
omitted after one. -/
def CountedShape.readMax (start : List Char) (s : CountedShape) (min : Nat) :
    Except SyntaxError (Option Nat) :=
  if s.comma = false then .ok (some min)
  else if s.maxDigits = [] then .ok none
  else some <$> readCount start s.maxDigits

/-- The bounds that a counted quantifier sets. -/
def CountedShape.bounds (start : List Char) (s : CountedShape) :
    Except SyntaxError (Nat × Option Nat) := do
  let min ← s.readMin start
  let max ← s.readMax start min
  match max with
  | some m => if m < min then faultAt start .repeatBoundsReversed else pure (min, max)
  | none => pure (min, max)

/-- Recognize a counted quantifier at the front of a text that starts with a brace.
The answer is `none` when the brace stands for itself. -/
def counted? (start : List Char) : Except SyntaxError (Option ((Nat × Option Nat) × List Char)) :=
  match start with
  | '{' :: afterBrace =>
    match readShape afterBrace with
    | none => .ok none
    | some (shape, rest) => do return some (← shape.bounds start, rest)
  | _ => .ok none

/-- Recognize the bounds of any quantifier at the front of a text. -/
def bounds? (start : List Char) : Except SyntaxError (Option ((Nat × Option Nat) × List Char)) :=
  match start with
  | '*' :: rest => .ok (some ((0, none), rest))
  | '+' :: rest => .ok (some ((1, none), rest))
  | '?' :: rest => .ok (some ((0, some 1), rest))
  | _ => counted? start

/-- A quantifier prefers more repetitions unless a question mark follows it. -/
def isGreedy : List Char → Bool
  | '?' :: _ => false
  | _ => true

/-- Pass over the question mark of a quantifier that prefers fewer repetitions. -/
def dropLazyMark : List Char → List Char
  | '?' :: rest => rest
  | rest => rest

/-- Apply the quantifier that follows `part`, if there is one. A quantifier cannot
follow a test of a position or another quantifier. -/
def quantify (part : Node) : Reader Node := fun start => do
  match ← bounds? start with
  | none => return (part, start)
  | some ((min, max), rest) =>
    if part.isAssertion then faultAt start .nothingToRepeat
    else
      match ← bounds? (dropLazyMark rest) with
      | some _ => faultAt (dropLazyMark rest) .multipleRepeat
      | none => return (.repetition part ⟨min, max, isGreedy rest⟩, dropLazyMark rest)

/-! ## Reading makes progress -/

theorem length_dropWhile_le {α : Type} (p : α → Bool) (l : List α) :
    (l.dropWhile p).length ≤ l.length := (List.dropWhile_sublist p).length_le

theorem readShape_length_le {text rest : List Char} {shape : CountedShape}
    (h : readShape text = some (shape, rest)) : rest.length ≤ text.length := by
  have first := length_dropWhile_le Char.isDigit text
  unfold readShape at h
  simp only at h
  split at h
  · rename_i tail hd
    rw [hd] at first
    split at h
    · simp at h
    · simp only [List.length_cons] at first
      simp only [Option.some.injEq, Prod.mk.injEq] at h
      rw [← h.2]
      omega
  · rename_i afterComma hd
    have second := length_dropWhile_le Char.isDigit afterComma
    rw [hd] at first
    split at h
    · rename_i tail hd'
      rw [hd'] at second
      split at h
      · simp at h
      · simp only [List.length_cons] at first second
        simp only [Option.some.injEq, Prod.mk.injEq] at h
        rw [← h.2]
        omega
    · simp at h
  · simp at h

theorem bounds?_length_le {text rest : List Char} {bounds : Nat × Option Nat}
    (h : bounds? text = .ok (some (bounds, rest))) : rest.length ≤ text.length := by
  unfold bounds? at h
  split at h
  iterate 3 simp_all
  unfold counted? at h
  split at h
  · split at h
    · simp at h
    · rename_i shape tail hs
      have := readShape_length_le hs
      obtain ⟨bounds', _, h⟩ := bind_eq_ok_iff.1 h
      simp_all [pure, Except.pure]
      omega
  · simp at h

theorem dropLazyMark_length_le (text : List Char) : (dropLazyMark text).length ≤ text.length := by
  unfold dropLazyMark
  split <;> simp

theorem quantify_length_le {part node : Node} {text rest : List Char}
    (h : quantify part text = .ok (node, rest)) : rest.length ≤ text.length := by
  obtain ⟨bounds, hb, h⟩ := bind_eq_ok_iff.1 h
  split at h
  · simp_all [pure, Except.pure]
  · split at h
    · simp at h
    · rename_i min max tail _
      have := bounds?_length_le hb
      have := dropLazyMark_length_le tail
      obtain ⟨again, _, h⟩ := bind_eq_ok_iff.1 h
      split at h
      · simp at h
      · simp only [pure, Except.pure, Except.ok.injEq, Prod.mk.injEq] at h
        rw [← h.2]
        omega

end DeviceRegex.Pattern
