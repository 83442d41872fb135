import DeviceRegex.Proofs.Pattern.CountedQuantifier
import Mathlib.Data.List.Infix

/-!
# What a brace stands for

A brace stands for itself unless a counted quantifier is written there, and there is at
most one way to read it as one. The numbers of a counted quantifier may have any length
and any leading zeros. A number beyond the limit is refused before the order of the
numbers is looked at, and the first one is refused before the second one.

## Main definitions

* `CountedShape.numbers` — the numbers that are written, from left to right.
-/
namespace DeviceRegex

/-- The message of a fault tells how many characters stand in front of it. -/
theorem SyntaxError.message_append (fault : SyntaxFault) (before rest : List Char) :
    (⟨fault, rest⟩ : SyntaxError).message (before ++ rest) =
      fault.text ++ " at position " ++ Text.decimal before.length ++ " near '" ++
        String.ofList (rest.take 8) ++ "'" := by
  simp [message, position, excerpt]

theorem SyntaxFault.text_repeatTooLarge (count : Nat) :
    (repeatTooLarge count).text = "repeat count " ++ Text.decimal count ++ " exceeds 1000" := by
  have hlimit : " exceeds " ++ Text.decimal Engine.maxRepeat = " exceeds 1000" := rfl
  rw [← hlimit, ← String.append_assoc]
  rfl

namespace Pattern

/-- A counted quantifier that is written is the one that is read. -/
theorem readShape_of_begins {s : CountedShape} {text : List Char} (hs : s.Valid)
    (h : s.text <+: text) : readShape text = some (s, text.drop s.text.length) :=
  readShape_eq_some_iff.2 ⟨hs, List.prefix_append_drop h⟩

/-- A count beyond the limit is refused with its value, as far as values are told apart. -/
theorem readCount_eq_fault {digits : List Char} (start : List Char)
    (h : Engine.maxRepeat < Nat.ofDigitChars 10 digits 0) :
    readCount start digits =
      faultAt start (.repeatTooLarge (min (Nat.ofDigitChars 10 digits 0) maxCount)) := by
  have hlimit : Engine.maxRepeat < maxCount := by decide
  rw [readCount, countValue_eq, if_pos (by omega)]

namespace CountedShape

/-- The numbers that are written, from left to right. -/
def numbers (s : CountedShape) : List Nat :=
  ([s.minDigits, s.maxDigits].filter (· ≠ [])).map (Nat.ofDigitChars 10 · 0)

/-- The first number beyond the limit is the least count, if that is one, and else the
number behind the comma. -/
theorem find?_numbers (s : CountedShape) :
    s.numbers.find? (Engine.maxRepeat < ·) =
      if Engine.maxRepeat < s.minCount then some s.minCount
      else if Engine.maxRepeat < Nat.ofDigitChars 10 s.maxDigits 0 then
        some (Nat.ofDigitChars 10 s.maxDigits 0)
      else none := by
  have hcons (n : Nat) (numbers : List Nat) :
      (n :: numbers).find? (Engine.maxRepeat < ·) =
        if Engine.maxRepeat < n then some n else numbers.find? (Engine.maxRepeat < ·) := by
    by_cases h : Engine.maxRepeat < n <;> simp [h]
  rw [minCount]
  by_cases hmin : s.minDigits = [] <;> by_cases hmax : s.maxDigits = []
  · simp [numbers, hmin, hmax]
  · simp [numbers, hmin, hmax, hcons]
  · simp [numbers, hmin, hmax, hcons]
  · have hnumbers : s.numbers =
        [Nat.ofDigitChars 10 s.minDigits 0, Nat.ofDigitChars 10 s.maxDigits 0] := by
      simp [numbers, hmin, hmax]
    rw [hnumbers, hcons, hcons, List.find?_nil]

/-- A text starts with one counted quantifier at most. -/
theorem eq_of_begins {s s' : CountedShape} {text : List Char} (hs : s.Valid)
    (hs' : s'.Valid) (h : s.text <+: text) (h' : s'.text <+: text) : s = s' := by
  have hread := readShape_of_begins hs h
  rw [readShape_of_begins hs' h'] at hread
  simp at hread
  exact hread.1.symm

variable {s : CountedShape} (start : List Char)

/-! ## Refused counts -/

theorem bounds_eq_fault_of_min (h : Engine.maxRepeat < s.minCount) :
    s.bounds start = faultAt start (.repeatTooLarge (min s.minCount maxCount)) := by
  have hne : s.minDigits ≠ [] := by
    intro hnil
    simp [minCount, hnil] at h
  have hmin : s.readMin start = faultAt start (.repeatTooLarge (min s.minCount maxCount)) := by
    rw [readMin, if_neg hne]
    exact readCount_eq_fault start h
  rw [bounds, hmin]
  rfl

theorem bounds_eq_fault_of_max (hs : s.Valid) (hmin : s.minCount ≤ Engine.maxRepeat)
    (h : Engine.maxRepeat < Nat.ofDigitChars 10 s.maxDigits 0) :
    s.bounds start =
      faultAt start (.repeatTooLarge (min (Nat.ofDigitChars 10 s.maxDigits 0) maxCount)) := by
  have hne : s.maxDigits ≠ [] := by
    intro hnil
    simp [hnil] at h
  have hcomma : s.comma ≠ false := fun hcomma => hne (hs.max_eq_nil hcomma)
  have hmax : s.readMax start s.minCount =
      faultAt start (.repeatTooLarge (min (Nat.ofDigitChars 10 s.maxDigits 0) maxCount)) := by
    rw [readMax, if_neg hcomma, if_neg hne, readCount_eq_fault start h]
    rfl
  rw [bounds, readMin_eq_ok start hmin]
  simp only [bind, Except.bind, hmax]
  rfl

/-- The first number beyond the limit is refused. -/
theorem bounds_eq_fault_of_find? (hs : s.Valid) {v : Nat}
    (hv : s.numbers.find? (Engine.maxRepeat < ·) = some v) :
    s.bounds start = faultAt start (.repeatTooLarge (min v maxCount)) := by
  rw [find?_numbers] at hv
  by_cases hmin : Engine.maxRepeat < s.minCount
  · rw [if_pos hmin] at hv
    obtain rfl := Option.some.inj hv
    exact bounds_eq_fault_of_min start hmin
  · rw [if_neg hmin] at hv
    by_cases hmax : Engine.maxRepeat < Nat.ofDigitChars 10 s.maxDigits 0
    · rw [if_pos hmax] at hv
      obtain rfl := Option.some.inj hv
      exact bounds_eq_fault_of_max start hs (Nat.not_lt.1 hmin) hmax
    · simp [hmax] at hv

/-- If no number is beyond the limit, neither bound is. -/
theorem le_of_find?_eq_none (h : s.numbers.find? (Engine.maxRepeat < ·) = none) :
    s.minCount ≤ Engine.maxRepeat ∧ ∀ m, s.maxCount? = some m → m ≤ Engine.maxRepeat := by
  rw [find?_numbers] at h
  have hmin : s.minCount ≤ Engine.maxRepeat := by
    by_contra hmin
    simp [Nat.not_le.1 hmin] at h
  have hmax : Nat.ofDigitChars 10 s.maxDigits 0 ≤ Engine.maxRepeat := by
    by_contra hmax
    simp [Nat.not_lt.2 hmin, Nat.not_le.1 hmax] at h
  refine ⟨hmin, ?_⟩
  intro m hm
  rw [maxCount?] at hm
  by_cases hcomma : s.comma = false
  · rw [if_pos hcomma] at hm
    exact Option.some.inj hm ▸ hmin
  · by_cases hnil : s.maxDigits = []
    · simp [hcomma, hnil] at hm
    · rw [if_neg hcomma, if_neg hnil] at hm
      exact Option.some.inj hm ▸ hmax

/-! ## Refused order -/

theorem bounds_eq_fault_of_reversed (hmin : s.minCount ≤ Engine.maxRepeat) {m : Nat}
    (hm : s.maxCount? = some m) (h : m < s.minCount) :
    s.bounds start = faultAt start .repeatBoundsReversed := by
  have hmax : ∀ n, s.maxCount? = some n → n ≤ Engine.maxRepeat := by
    intro n hn
    obtain rfl : m = n := Option.some.inj (hm.symm.trans hn)
    omega
  rw [bounds, readMin_eq_ok start hmin]
  simp only [bind, Except.bind, readMax_eq_ok start hmax, hm, if_pos h]

end CountedShape

/-! ## The answer for a brace -/

/-- The brace behind `before` starts a quantifier that is refused, with a message that
says so and where. -/
def IsRefused (before afterBrace : List Char) (kind : PreconditionKind) (text : String) : Prop :=
  ∃ e : SyntaxError, counted? ('{' :: afterBrace) = .error e ∧ e.fault.kind = kind ∧
    e.message (before ++ '{' :: afterBrace) =
      text ++ " at position " ++ Text.decimal before.length ++ " near '" ++
        String.ofList (('{' :: afterBrace).take 8) ++ "'"

section
variable {s : CountedShape} {afterBrace : List Char}

/-- A counted quantifier that is written has the bounds of its shape. -/
theorem counted?_of_begins (hs : s.Valid) (h : s.text <+: afterBrace) :
    counted? ('{' :: afterBrace) =
      (s.bounds ('{' :: afterBrace)).map
        fun bounds => some (bounds, afterBrace.drop s.text.length) := by
  simp only [counted?, readShape_of_begins hs h]
  cases s.bounds ('{' :: afterBrace) <;> rfl

theorem isRefused_of_bounds_eq {fault : SyntaxFault} (before : List Char) (hs : s.Valid)
    (h : s.text <+: afterBrace)
    (hbounds : s.bounds ('{' :: afterBrace) = faultAt ('{' :: afterBrace) fault) :
    IsRefused before afterBrace fault.kind fault.text := by
  refine ⟨⟨fault, '{' :: afterBrace⟩, ?_, rfl, SyntaxError.message_append ..⟩
  rw [counted?_of_begins hs h, hbounds]
  rfl

end

/-- A brace stands for itself exactly if no counted quantifier is written there. -/
theorem counted?_eq_none_iff (afterBrace : List Char) :
    counted? ('{' :: afterBrace) = .ok none ↔ ¬StartsCounted afterBrace := by
  constructor
  · rintro hnone ⟨s, hs, h⟩
    rw [counted?_of_begins hs h] at hnone
    cases hbounds : s.bounds ('{' :: afterBrace) <;> simp [hbounds, Except.map] at hnone
  · intro h
    simp only [counted?, readShape_eq_none_iff.2 h]

/-- **Counted quantifiers are recognized exactly.** Behind any text, a brace stands for
itself if none of the shapes of a counted quantifier is written there. If one is, it is
the only one. The first number beyond 1000 is refused with its value, or with the largest
one that is told apart; then bounds in the wrong order are refused; and all others are
read as the numbers that are written, up to the end of the shape. -/
theorem counted?_exact (before afterBrace : List Char) :
    (counted? ('{' :: afterBrace) = .ok none ↔ ¬StartsCounted afterBrace) ∧
    ∀ s : CountedShape, s.Valid → s.text <+: afterBrace →
      (∀ s' : CountedShape, s'.Valid → s'.text <+: afterBrace → s' = s) ∧
      (∀ v, s.numbers.find? (1000 < ·) = some v →
        IsRefused before afterBrace .outOfRange
          ("repeat count " ++ Text.decimal (min v 4294967295) ++ " exceeds 1000")) ∧
      (s.numbers.find? (1000 < ·) = none →
        (∀ m, s.maxCount? = some m → m < s.minCount →
          IsRefused before afterBrace .invalidArgument "min repeat greater than max repeat") ∧
        ((∀ m, s.maxCount? = some m → s.minCount ≤ m) →
          counted? ('{' :: afterBrace) =
            .ok (some ((s.minCount, s.maxCount?), afterBrace.drop s.text.length)))) := by
  refine ⟨counted?_eq_none_iff afterBrace, ?_⟩
  intro s hs h
  refine ⟨?_, ?_, ?_⟩
  · intro s' hs' h'
    exact CountedShape.eq_of_begins hs' hs h' h
  · intro v hv
    rw [← SyntaxFault.text_repeatTooLarge]
    exact isRefused_of_bounds_eq before hs h (CountedShape.bounds_eq_fault_of_find? _ hs hv)
  · intro hnone
    obtain ⟨hmin, hmax⟩ := CountedShape.le_of_find?_eq_none hnone
    refine ⟨?_, ?_⟩
    · intro m hm hreversed
      have hbounds := CountedShape.bounds_eq_fault_of_reversed ('{' :: afterBrace) hmin hm hreversed
      exact isRefused_of_bounds_eq before hs h hbounds
    · intro hordered
      have hbounds := s.bounds_eq_ok ('{' :: afterBrace) hmin
        fun m hm => ⟨hordered m hm, hmax m hm⟩
      rw [counted?_of_begins hs h, hbounds]
      rfl

/-- A quantifier with leading zeros, one with bounds in the wrong order, and one with a
number that is not told apart from larger ones. -/
theorem counted?_exact_of_long_numbers :
    let zeros : CountedShape := ⟨['0', '0', '2'], true, ['5']⟩
    let reversed : CountedShape := ⟨['5'], true, ['2']⟩
    let long : CountedShape := ⟨['3'], true, ['9', '9', '9', '9', '9', '9', '9', '9', '9', '9']⟩
    (zeros.Valid ∧ zeros.numbers.find? (1000 < ·) = none ∧
      counted? ['{', '0', '0', '2', ',', '5', '}', 'x'] = .ok (some ((2, some 5), ['x']))) ∧
    (reversed.Valid ∧ reversed.numbers.find? (1000 < ·) = none ∧
      IsRefused ['a'] reversed.text .invalidArgument "min repeat greater than max repeat") ∧
    (long.Valid ∧ long.numbers.find? (1000 < ·) = some 9999999999 ∧
      IsRefused ['a'] long.text .outOfRange "repeat count 4294967295 exceeds 1000") := by
  intro zeros reversed long
  have hzeros : zeros.Valid := by constructor <;> simp [zeros]
  have hreversed : reversed.Valid := by constructor <;> simp [reversed]
  have hlong : long.Valid := by constructor <;> simp [long]
  have hinorder : zeros.numbers.find? (1000 < ·) = none := by decide
  have hsmall : reversed.numbers.find? (1000 < ·) = none := by decide
  have hlarge : long.numbers.find? (1000 < ·) = some 9999999999 := by decide
  refine ⟨⟨hzeros, hinorder, ?_⟩, ⟨hreversed, hsmall, ?_⟩, ⟨hlong, hlarge, ?_⟩⟩
  · have h := (counted?_exact [] (zeros.text ++ ['x'])).2 zeros hzeros (List.prefix_append ..)
    exact (h.2.2 hinorder).2 (by decide)
  · have h := (counted?_exact ['a'] reversed.text).2 reversed hreversed List.prefix_rfl
    exact (h.2.2 hsmall).1 2 (by decide) (by decide)
  · have h := (counted?_exact ['a'] long.text).2 long hlong List.prefix_rfl
    exact h.2.1 9999999999 hlarge

end Pattern
end DeviceRegex
