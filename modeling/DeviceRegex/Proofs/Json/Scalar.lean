import DeviceRegex.Json.Value
import DeviceRegex.Proofs.Pattern.CountedQuantifier

/-!
# Strings and numbers are read back

The literal of a string is read as that string, whatever its characters, and the decimal
numeral of a number is read as it is written, in front of any character that cannot go on
with it.

## Main definitions

* `Json.pieceOf` — the piece as which the form of a character in a literal is read.
* `Json.EndsScalar` — a character that ends a number before it.
* `Json.Writes` — a text writes a value that is neither an array nor an object.
-/
namespace DeviceRegex.Json

/-! ## Strings -/

/-- The piece as which the form of a character is read: only controls without a letter of
their own are written by their number. -/
def pieceOf (c : Char) : Piece :=
  if c < ' ' ∧ c ∉ ['\x08', '\x0c', '\n', '\r', '\t'] then .unit c.toNat else .char c

theorem hexValue?_control {n : Nat} (h : n < 32) :
    Text.hexValue? 0 ['0', '0', (n / 16).digitChar, (n % 16).digitChar] = some n := by
  have hall : ∀ n < 32,
      Text.hexValue? 0 ['0', '0', (n / 16).digitChar, (n % 16).digitChar] = some n := by decide
  exact hall n h

theorem toNat_lt_of_lt_space {c : Char} (h : c < ' ') : c.toNat < 32 := h

/-- The form of a character is read as its piece. -/
theorem readPieces_escapeChar_append (c : Char) {text rest : List Char} {pieces : List Piece}
    (h : readPieces text = some (pieces, rest)) :
    readPieces (escapeChar c ++ text) = some (pieceOf c :: pieces, rest) := by
  unfold escapeChar
  split
  iterate 7
    simp [readPieces, escapeLetter?, pieceOf, h]
  rename_i hquote hbackslash hb hf hn hr ht
  by_cases hcontrol : c < ' '
  · have hvalue := hexValue?_control (toNat_lt_of_lt_space hcontrol)
    have hpiece : pieceOf c = .unit c.toNat := if_pos ⟨hcontrol, by simp_all⟩
    rw [if_pos hcontrol, hpiece]
    simp [readPieces, hvalue, h]
  · have hpiece : pieceOf c = .char c := if_neg fun hc => hcontrol hc.1
    have hplain : ¬(c < ' ' ∨ c = '\\') := fun hc => hc.elim hcontrol hbackslash
    rw [if_neg hcontrol, hpiece, List.singleton_append, readPieces]
    · rw [if_neg hplain, h]
      rfl
    all_goals simp_all

/-- The literal of a string is read piece by piece, up to the closing quote. -/
theorem readPieces_flatMap_escapeChar (s rest : List Char) :
    readPieces (s.flatMap escapeChar ++ '"' :: rest) = some (s.map pieceOf, rest) := by
  induction s with
  | nil => simp [readPieces]
  | cons c s ih =>
    rw [List.flatMap_cons, List.append_assoc, List.map_cons]
    exact readPieces_escapeChar_append c ih

/-- A unit below those of pairs stands for a character of its own. -/
theorem decodePieces_unit {n : Nat} (hn : n < 0xd800) {pieces : List Piece} {s : List Char}
    (h : decodePieces pieces = some s) :
    decodePieces (.unit n :: pieces) = some (Char.ofNat n :: s) := by
  have hhigh : isHighUnit n = false := by simp [isHighUnit]; omega
  have hlow : isLowUnit n = false := by simp [isLowUnit]; omega
  cases pieces with
  | nil => simp_all [decodePieces]
  | cons piece pieces =>
    cases piece with
    | char c => simp_all [decodePieces]
    | unit m => simp [decodePieces, hhigh, hlow, h]

theorem decodePieces_map_pieceOf (s : List Char) : decodePieces (s.map pieceOf) = some s := by
  induction s with
  | nil => rfl
  | cons c s ih =>
    rw [List.map_cons, pieceOf]
    split
    · rename_i hcontrol
      have hunit : c.toNat < 0xd800 := Nat.lt_trans (toNat_lt_of_lt_space hcontrol.1) (by decide)
      rw [decodePieces_unit hunit ih, Char.ofNat_toNat]
    · simp [decodePieces, ih]

/-- The literal of a string is read as the string. -/
theorem readString_quote (s rest : List Char) :
    readString (s.flatMap escapeChar ++ '"' :: rest) = some (some (String.ofList s), rest) := by
  simp [readString, readPieces_flatMap_escapeChar, decodePieces_map_pieceOf]

/-! ## Numbers -/

/-- A character that does not go on with a number. -/
structure EndsScalar (c : Char) : Prop where
  not_digit : c.isDigit = false
  ne_point : c ≠ '.'
  ne_exponent : c ≠ 'e' ∧ c ≠ 'E'

/-- The numeral of a positive number starts with a digit that is not zero. -/
theorem exists_toDigits_eq_cons {n : Nat} (hn : 0 < n) :
    ∃ d digits, Nat.toDigits 10 n = d :: digits ∧ d ≠ '0' := by
  induction n using Nat.strongRecOn with
  | ind n ih =>
    by_cases hsmall : n < 10
    · have hall : ∀ n < 10, 0 < n → n.digitChar ≠ '0' := by decide
      exact ⟨_, [], Nat.toDigits_of_lt_base hsmall, hall n hsmall hn⟩
    · obtain ⟨d, digits, hdigits, hd⟩ := ih (n / 10) (by omega) (by omega)
      refine ⟨d, digits ++ [(n % 10).digitChar], ?_, hd⟩
      rw [Nat.toDigits_of_base_le (by decide) (Nat.not_lt.1 hsmall), hdigits, List.cons_append]

section
variable {c : Char} {n : Nat} {rest : List Char}

theorem readDigits_toDigits (hc : c.isDigit = false) :
    readDigits (Nat.toDigits 10 n ++ c :: rest) = some (Nat.toDigits 10 n, c :: rest) := by
  have hdigits : ∀ d ∈ Nat.toDigits 10 n, d.isDigit :=
    fun d => Nat.isDigit_of_mem_toDigits (by decide) (by decide)
  simp [readDigits, Pattern.takeWhile_digits_append hdigits hc,
    Pattern.dropWhile_digits_append hdigits hc, Nat.toDigits_ne_nil]

theorem readWhole_toDigits (hc : c.isDigit = false) :
    readWhole (Nat.toDigits 10 n ++ c :: rest) = some (Nat.toDigits 10 n, c :: rest) := by
  rcases n.eq_zero_or_pos with rfl | hn
  · simp [Nat.toDigits_zero, readWhole, hc]
  · -- a numeral without a leading zero is read as its digits
    obtain ⟨d, digits, hdigits, hd⟩ := exists_toDigits_eq_cons hn
    rw [← readDigits_toDigits hc, hdigits, readWhole]
    rintro c' rest' heq
    exact hd (List.cons.inj heq).1

theorem readUnsigned_toDigits (hc : EndsScalar c) :
    readUnsigned (Nat.toDigits 10 n ++ c :: rest) = some (Nat.toDigits 10 n, c :: rest) := by
  have hfraction : readFraction (c :: rest) = some ([], c :: rest) := by
    rw [readFraction]
    rintro rest' heq
    exact hc.ne_point (List.cons.inj heq).1
  have hexponent : readExponent (c :: rest) = some ([], c :: rest) := by
    rw [readExponent, if_neg (not_or.2 hc.ne_exponent)]
  simp [readUnsigned, readWhole_toDigits hc.not_digit, hfraction, hexponent]

end

/-! ## Values -/

/-- The text writes a value that is neither an array nor an object. -/
structure Writes (text : List Char) (v : Json) : Prop where
  reads : ∀ c rest, EndsScalar c → readScalar (text ++ c :: rest) = some (v, c :: rest)
  starts : ∃ c tail, text = c :: tail ∧ isBlank c = false ∧ c ≠ '[' ∧ c ≠ '{'

theorem toList_quote (s : String) :
    (quote s).toList = '"' :: (s.toList.flatMap escapeChar ++ ['"']) := by
  simp [quote]

theorem writes_quote (s : String) : Writes (quote s).toList (.string (some s)) where
  reads c rest _ := by
    rw [toList_quote, List.cons_append, List.append_assoc]
    simp [readScalar, readString_quote]
  starts := ⟨'"', _, toList_quote s, by decide⟩

theorem writes_decimal (n : Nat) :
    Writes (Text.decimal n).toList (.number (Nat.toDigits 10 n)) := by
  rw [Text.decimal, String.toList_ofList]
  cases hdigits : Nat.toDigits 10 n with
  | nil => exact absurd hdigits Nat.toDigits_ne_nil
  | cons d digits =>
    have hd : d.isDigit :=
      Nat.isDigit_of_mem_toDigits (b := 10) (n := n) (by decide) (by decide) (by simp [hdigits])
    have hne {c : Char} (hc : c.isDigit = false) : d ≠ c := fun heq => by simp [← heq, hd] at hc
    refine ⟨fun c rest hc => ?_, d, digits, rfl, ?_, hne (by decide), hne (by decide)⟩
    · have hnumber : readNumber (d :: digits ++ c :: rest) = some (d :: digits, c :: rest) := by
        rw [readNumber]
        · rw [← hdigits, readUnsigned_toDigits hc]
        · rintro rest' heq
          exact hne (by decide) (List.cons.inj heq).1
      rw [readScalar, hnumber]
      · rfl
      all_goals
        rintro rest' heq
        exact hne (by decide) (List.cons.inj heq).1
    · simp [isBlank, hne (c := ' ') (by decide), hne (c := '\n') (by decide),
        hne (c := '\t') (by decide), hne (c := '\r') (by decide)]

end DeviceRegex.Json
