import DeviceRegex.Proofs.Text.ReadBack
import DeviceRegex.Text.Escape

/-!
# Escaped characters are read back

The form of a character in a listing can be told from the text behind it: a backslash
always starts an escape, and every escape shows where it ends. So forms that stand side by
side without a separator are read one after the other.

## Main definitions

* `Text.unescape?` — the character whose form stands at the front of a text, and the text
  behind it.
-/
namespace DeviceRegex.Text

/-- The character that is written by a letter or sign behind a backslash. -/
def unescapeLetter? : Char → Option Char
  | '0' => some '\x00'
  | 't' => some '\t'
  | 'r' => some '\r'
  | 'n' => some '\n'
  | '\'' => some '\''
  | '"' => some '"'
  | '\\' => some '\\'
  | _ => none

/-- The character whose form stands at the front of a text, and the text behind it. -/
def unescape? : List Char → Option (Char × List Char)
  | '\\' :: 'u' :: '{' :: rest => do
    let value ← hexValue? 0 (rest.takeWhile (· != '}'))
    return (Char.ofNat value, (rest.dropWhile (· != '}')).tail)
  | '\\' :: letter :: rest => do return (← unescapeLetter? letter, rest)
  | ['\\'] => none
  | c :: rest => some (c, rest)
  | [] => none

/-- A numeral ends in front of its closing brace. -/
theorem bne_brace_of_mem_toDigits {n : Nat} {c : Char} (h : c ∈ Nat.toDigits 16 n) :
    (c != '}') = true := by
  obtain ⟨d, -, rfl⟩ := exists_digitChar_of_mem_toDigits h
  rw [bne_iff_ne]
  exact Nat.digitChar_ne '}' (by decide)

theorem unescape?_codePoint (n : Nat) (rest : List Char) :
    unescape? ('\\' :: 'u' :: '{' :: (Nat.toDigits 16 n ++ '}' :: rest)) =
      some (Char.ofNat n, rest) := by
  have hdigits : ∀ c ∈ Nat.toDigits 16 n, (c != '}') = true :=
    fun c hc => bne_brace_of_mem_toDigits hc
  simp [unescape?, List.takeWhile_append_of_pos hdigits, List.dropWhile_append_of_pos hdigits,
    hexValue?_toDigits]

/-- **An escaped character is read back**, whatever stands behind it. -/
theorem unescape?_escape_append (c : Char) (rest : List Char) :
    unescape? ((escape c).toList ++ rest) = some (c, rest) := by
  unfold escape
  split
  iterate 7 · rfl
  split
  · have hform : ("\\u\x7b" ++ hexadecimal c.toNat ++ "\x7d").toList ++ rest =
        '\\' :: 'u' :: '{' :: (Nat.toDigits 16 c.toNat ++ '}' :: rest) := by
      simp [hexadecimal]
    rw [hform, unescape?_codePoint, Char.ofNat_toNat]
  · simp only [String.toList_singleton, List.singleton_append]
    rw [unescape?]
    all_goals simp_all

/-- No escaped character begins with another one. -/
theorem escape_append_inj {c d : Char} {rest rest' : List Char}
    (h : (escape c).toList ++ rest = (escape d).toList ++ rest') : c = d ∧ rest = rest' := by
  have hread := congrArg unescape? h
  simpa [unescape?_escape_append] using hread

theorem escape_inj {c d : Char} (h : escape c = escape d) : c = d := by
  have hforms : (escape c).toList ++ [] = (escape d).toList ++ [] := by rw [h]
  exact (escape_append_inj hforms).1

end DeviceRegex.Text
