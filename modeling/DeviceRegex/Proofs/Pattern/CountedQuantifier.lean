import DeviceRegex.Pattern.Quantifier
import Mathlib.Data.List.TakeWhile

/-!
# Counted quantifiers as written

A brace starts a counted quantifier if digits, a comma, more digits and a closing brace
follow it, where the comma or one of the numbers may be missing. The numbers are written
in decimal digits of any length, leading zeros included.

## Main definitions

* `CountedShape.Valid` — the shape is one of a counted quantifier.
* `CountedShape.text` — the shape as written behind its opening brace.
* `StartsCounted` — a text goes on with a counted quantifier behind an opening brace.
-/
namespace DeviceRegex.Pattern

namespace CountedShape

/-- The numbers have digits only, one of them is written, and without a comma there is
one number. -/
structure Valid (s : CountedShape) : Prop where
  min_digits : ∀ c ∈ s.minDigits, c.isDigit
  max_digits : ∀ c ∈ s.maxDigits, c.isDigit
  ne_nil : s.minDigits ≠ [] ∨ s.maxDigits ≠ []
  max_eq_nil : s.comma = false → s.maxDigits = []

/-- The shape as written behind its opening brace. -/
def text (s : CountedShape) : List Char :=
  s.minDigits ++ (if s.comma then ',' :: s.maxDigits else []) ++ ['}']

/-- The least count, zero if it is not written. -/
def minCount (s : CountedShape) : Nat := Nat.ofDigitChars 10 s.minDigits 0

/-- The largest count: the least one without a comma, and none if it is not written. -/
def maxCount? (s : CountedShape) : Option Nat :=
  if s.comma = false then some s.minCount
  else if s.maxDigits = [] then none
  else some (Nat.ofDigitChars 10 s.maxDigits 0)

end CountedShape

/-- Behind an opening brace, the text goes on with a counted quantifier. -/
def StartsCounted (afterBrace : List Char) : Prop :=
  ∃ s : CountedShape, s.Valid ∧ s.text <+: afterBrace

/-! ## The shape -/

section
variable {digits rest : List Char} {c : Char}

theorem takeWhile_digits_append (hdigits : ∀ d ∈ digits, d.isDigit) (hc : c.isDigit = false) :
    (digits ++ c :: rest).takeWhile Char.isDigit = digits := by
  rw [List.takeWhile_append_of_pos hdigits, List.takeWhile_cons_of_neg (by simp [hc]),
    List.append_nil]

theorem dropWhile_digits_append (hdigits : ∀ d ∈ digits, d.isDigit) (hc : c.isDigit = false) :
    (digits ++ c :: rest).dropWhile Char.isDigit = c :: rest := by
  rw [List.dropWhile_append_of_pos hdigits, List.dropWhile_cons_of_neg (by simp [hc])]

/-- What is read of a text as its leading digits stands there. -/
theorem eq_digits_append {text : List Char} (h : text.dropWhile Char.isDigit = c :: rest) :
    text = text.takeWhile Char.isDigit ++ c :: rest := by
  rw [← h, List.takeWhile_append_dropWhile]

end

theorem isDigit_of_mem_takeWhile {text : List Char} :
    ∀ c ∈ text.takeWhile Char.isDigit, c.isDigit :=
  fun _ h => List.mem_takeWhile_imp h

/-- A valid shape is read off its text. -/
theorem readShape_text_append {s : CountedShape} (hs : s.Valid) (rest : List Char) :
    readShape (s.text ++ rest) = some (s, rest) := by
  obtain ⟨minDigits, comma, maxDigits⟩ := s
  have hmin := hs.min_digits
  have hmax := hs.max_digits
  simp only at hmin hmax
  cases comma with
  | false =>
    obtain rfl : maxDigits = [] := hs.max_eq_nil rfl
    have hne : minDigits ≠ [] := by simpa using hs.ne_nil
    have htext : CountedShape.text ⟨minDigits, false, []⟩ ++ rest = minDigits ++ '}' :: rest := by
      simp [CountedShape.text]
    simp only [readShape, htext, takeWhile_digits_append hmin (c := '}') rfl,
      dropWhile_digits_append hmin (c := '}') rfl, if_neg hne]
  | true =>
    have hne : ¬(minDigits = [] ∧ maxDigits = []) := by
      rintro ⟨rfl, rfl⟩
      simpa using hs.ne_nil
    have htext : CountedShape.text ⟨minDigits, true, maxDigits⟩ ++ rest =
        minDigits ++ ',' :: (maxDigits ++ '}' :: rest) := by
      simp [CountedShape.text]
    simp only [readShape, htext, takeWhile_digits_append hmin (c := ',') rfl,
      dropWhile_digits_append hmin (c := ',') rfl, takeWhile_digits_append hmax (c := '}') rfl,
      dropWhile_digits_append hmax (c := '}') rfl, if_neg hne]

/-- **Shapes are recognized exactly.** A shape is read off a text if it is valid and the
text starts with it. -/
theorem readShape_eq_some_iff {text rest : List Char} {s : CountedShape} :
    readShape text = some (s, rest) ↔ s.Valid ∧ text = s.text ++ rest := by
  constructor
  · intro h
    unfold readShape at h
    simp only at h
    split at h
    · rename_i tail hmin
      split at h
      · cases h
      · rename_i hne
        obtain ⟨rfl, rfl⟩ : _ = s ∧ tail = rest := by simpa using h
        refine ⟨⟨isDigit_of_mem_takeWhile, by simp, .inl hne, fun _ => rfl⟩, ?_⟩
        simpa [CountedShape.text] using eq_digits_append hmin
    · rename_i afterComma hmin
      split at h
      · rename_i tail hmax
        split at h
        · cases h
        · rename_i hne
          obtain ⟨rfl, rfl⟩ : _ = s ∧ tail = rest := by simpa using h
          refine ⟨⟨isDigit_of_mem_takeWhile, isDigit_of_mem_takeWhile, not_and_or.1 hne,
            by simp⟩, ?_⟩
          have htext := eq_digits_append hmin
          rw [eq_digits_append hmax] at htext
          simpa [CountedShape.text] using htext
      · cases h
    · cases h
  · rintro ⟨hs, rfl⟩
    exact readShape_text_append hs rest

/-- A brace stands for itself exactly if no counted quantifier follows. -/
theorem readShape_eq_none_iff {text : List Char} :
    readShape text = none ↔ ¬StartsCounted text := by
  constructor
  · rintro h ⟨s, hs, rest, rfl⟩
    rw [readShape_text_append hs] at h
    cases h
  · intro h
    cases hshape : readShape text with
    | none => rfl
    | some found =>
      obtain ⟨s, rest⟩ := found
      obtain ⟨hs, htext⟩ := readShape_eq_some_iff.1 hshape
      exact absurd ⟨s, hs, rest, htext.symm⟩ h

/-! ## The counts -/

/-- The number that digits write is found, up to the largest one that is told apart. -/
theorem countValue_eq (digits : List Char) :
    countValue digits = min (Nat.ofDigitChars 10 digits 0) maxCount := by
  have hfold (value : Nat) (digits : List Char) :
      digits.foldl (fun value c => min (10 * value + (c.toNat - '0'.toNat)) maxCount)
        (min value maxCount) = min (Nat.ofDigitChars 10 digits value) maxCount := by
    induction digits generalizing value with
    | nil => simp
    | cons c digits ih =>
      rw [Nat.ofDigitChars_cons, ← ih, List.foldl_cons]
      congr 1
      omega
  simpa [countValue] using hfold 0 digits

/-- A count within the limit is read as written. -/
theorem readCount_eq_ok {digits : List Char} (start : List Char)
    (h : Nat.ofDigitChars 10 digits 0 ≤ Engine.maxRepeat) :
    readCount start digits = .ok (Nat.ofDigitChars 10 digits 0) := by
  have hlimit : Engine.maxRepeat ≤ maxCount := by decide
  have hvalue : countValue digits = Nat.ofDigitChars 10 digits 0 := by
    rw [countValue_eq]
    omega
  rw [readCount, hvalue, if_neg (by omega)]

namespace CountedShape
variable {s : CountedShape} (start : List Char)

theorem readMin_eq_ok (hmin : s.minCount ≤ Engine.maxRepeat) :
    s.readMin start = .ok s.minCount := by
  by_cases hnil : s.minDigits = []
  · simp [readMin, minCount, hnil]
  · rw [readMin, if_neg hnil]
    exact readCount_eq_ok start hmin

theorem readMax_eq_ok (hmax : ∀ m, s.maxCount? = some m → m ≤ Engine.maxRepeat) :
    s.readMax start s.minCount = .ok s.maxCount? := by
  by_cases hcomma : s.comma = false
  · rw [readMax, maxCount?, if_pos hcomma, if_pos hcomma]
  by_cases hnil : s.maxDigits = []
  · rw [readMax, maxCount?, if_neg hcomma, if_neg hcomma, if_pos hnil, if_pos hnil]
  · rw [maxCount?, if_neg hcomma, if_neg hnil] at hmax ⊢
    rw [readMax, if_neg hcomma, if_neg hnil, readCount_eq_ok start (hmax _ rfl)]
    rfl

/-- Counts within the limit and in order are the bounds. -/
theorem bounds_eq_ok (hmin : s.minCount ≤ Engine.maxRepeat)
    (hmax : ∀ m, s.maxCount? = some m → s.minCount ≤ m ∧ m ≤ Engine.maxRepeat) :
    s.bounds start = .ok (s.minCount, s.maxCount?) := by
  have hlimit : ∀ m, s.maxCount? = some m → m ≤ Engine.maxRepeat := fun m hm => (hmax m hm).2
  rw [bounds, readMin_eq_ok start hmin]
  simp only [bind, Except.bind, readMax_eq_ok start hlimit]
  cases hm : s.maxCount? with
  | none => rfl
  | some m => exact if_neg (Nat.not_lt.2 (hmax m hm).1)

end CountedShape
end DeviceRegex.Pattern
