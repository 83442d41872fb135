import DeviceRegex.Text.Numeral
import DeviceRegex.Text.Pieces

/-!
# Numerals and joined parts are read back

A hexadecimal numeral is read as the number it was written for, and a text of parts that
are joined with white space around the separators comes apart into these parts.

## Main definitions

* `Text.IsSolid` — the text can be a part: it is not empty, and it has no separator and no
  white space.
-/
namespace DeviceRegex.Text

/-! ## Hexadecimal numerals -/

theorem hexDigit?_digitChar {d : Nat} (h : d < 16) : hexDigit? d.digitChar = some d := by
  have hall : ∀ d < 16, hexDigit? d.digitChar = some d := by decide
  exact hall d h

theorem hexValue?_append (value : Nat) (high low : List Char) :
    hexValue? value (high ++ low) = (hexValue? value high).bind (hexValue? · low) := by
  induction high generalizing value with
  | nil => rfl
  | cons c high ih =>
    cases hc : hexDigit? c with
    | none => simp [hexValue?, hc]
    | some d => simp [hexValue?, hc, ih]

theorem hexValue?_toDigits (n : Nat) : hexValue? 0 (Nat.toDigits 16 n) = some n := by
  induction n using Nat.strongRecOn with
  | ind n ih =>
    by_cases hn : n < 16
    · rw [Nat.toDigits_of_lt_base hn]
      simp [hexValue?, hexDigit?_digitChar hn]
    · rw [Nat.toDigits_of_base_le (by decide) (Nat.not_lt.1 hn), hexValue?_append,
        ih (n / 16) (by omega), Option.bind_some]
      simp only [hexValue?, hexDigit?_digitChar (Nat.mod_lt n (by decide))]
      exact congrArg some (Nat.div_add_mod n 16)

/-- A character of a numeral is the character of a digit. -/
theorem exists_digitChar_of_mem_toDigits {n : Nat} {c : Char} (h : c ∈ Nat.toDigits 16 n) :
    ∃ d < 16, c = d.digitChar := by
  induction n using Nat.strongRecOn with
  | ind n ih =>
    by_cases hn : n < 16
    · rw [Nat.toDigits_of_lt_base hn, List.mem_singleton] at h
      exact ⟨n, hn, h⟩
    · rw [Nat.toDigits_of_base_le (by decide) (Nat.not_lt.1 hn), List.mem_append,
        List.mem_singleton] at h
      rcases h with h | h
      · exact ih (n / 16) (by omega) h
      · exact ⟨n % 16, Nat.mod_lt n (by decide), h⟩

theorem readHexadecimal?_toDigits {limit n : Nat} (h : n ≤ limit) :
    readHexadecimal? limit (Nat.toDigits 16 n) = some n := by
  have hplus : dropPlus (Nat.toDigits 16 n) = Nat.toDigits 16 n := by
    cases hdigits : Nat.toDigits 16 n with
    | nil => rfl
    | cons c digits =>
      obtain ⟨d, -, rfl⟩ : ∃ d < 16, c = d.digitChar :=
        exists_digitChar_of_mem_toDigits (n := n) (by simp [hdigits])
      have hd : d.digitChar ≠ '+' := Nat.digitChar_ne '+' (by decide)
      simp [dropPlus, hd]
  simp [readHexadecimal?, hplus, Nat.toDigits_ne_nil, hexValue?_toDigits, h]

/-! ## Joined parts -/

/-- The text can be a part between separators, with nothing to trim. -/
structure IsSolid (separator : Char) (text : List Char) : Prop where
  ne_nil : text ≠ []
  not_mem : separator ∉ text
  not_blank : ∀ c ∈ text, Unicode.isWhiteSpace c = false

section
variable {separator : Char} {text : List Char}

theorem IsSolid.of_all (hne : text ≠ [])
    (hall : text.all fun c => c != separator && !Unicode.isWhiteSpace c) :
    IsSolid separator text := by
  have hchar : ∀ c ∈ text, c ≠ separator ∧ Unicode.isWhiteSpace c = false := by simpa using hall
  exact ⟨hne, fun h => (hchar separator h).1 rfl, fun c hc => (hchar c hc).2⟩

theorem pieces_of_not_mem (h : separator ∉ text) : pieces separator text = [text] := by
  induction text with
  | nil => rfl
  | cons c text ih =>
    rw [List.mem_cons, not_or] at h
    simp [pieces, ih h.2, Ne.symm h.1]

theorem pieces_append (h : separator ∉ text) (rest : List Char) :
    pieces separator (text ++ separator :: rest) = text :: pieces separator rest := by
  induction text with
  | nil => simp [pieces]
  | cons c text ih =>
    rw [List.mem_cons, not_or] at h
    simp [pieces, ih h.2, Ne.symm h.1]

theorem dropWhile_of_not_blank (h : ∀ c ∈ text, Unicode.isWhiteSpace c = false) :
    text.dropWhile Unicode.isWhiteSpace = text := by
  cases text with
  | nil => rfl
  | cons c text => simp [h c]

/-- A character that is not white space is never trimmed. -/
theorem mem_trim {c : Char} (h : c ∈ text) (hc : Unicode.isWhiteSpace c = false) :
    c ∈ trim text := by
  have hdrop {text : List Char} (h : c ∈ text) : c ∈ text.dropWhile Unicode.isWhiteSpace := by
    induction text with
    | nil => exact h
    | cons d text ih =>
      by_cases hd : Unicode.isWhiteSpace d
      · have hne : c ≠ d := by
          rintro rfl
          simp [hd] at hc
        rw [List.dropWhile_cons_of_pos hd]
        exact ih (List.mem_of_ne_of_mem hne h)
      · rwa [List.dropWhile_cons_of_neg hd]
  rw [trim, List.mem_reverse]
  exact hdrop (List.mem_reverse.2 (hdrop h))

theorem trim_intercalate_ne_nil (h : IsSolid separator text) (joint : List Char)
    (parts : List (List Char)) : trim (joint.intercalate (text :: parts)) ≠ [] := by
  obtain ⟨c, tail, rfl⟩ := List.exists_cons_of_ne_nil h.ne_nil
  have hmem : c ∈ joint.intercalate ((c :: tail) :: parts) := by
    cases parts <;> simp [List.intercalate]
  exact List.ne_nil_of_mem (mem_trim hmem (h.not_blank c List.mem_cons_self))

/-- White space around a solid text is trimmed, and nothing else. -/
theorem trim_surrounded (h : ∀ c ∈ text, Unicode.isWhiteSpace c = false) {before after : List Char}
    (hbefore : ∀ c ∈ before, Unicode.isWhiteSpace c) (hafter : ∀ c ∈ after, Unicode.isWhiteSpace c) :
    trim (before ++ text ++ after) = text := by
  cases text with
  | nil =>
    have hback : after.dropWhile Unicode.isWhiteSpace = [] := by
      rw [← List.append_nil after, List.dropWhile_append_of_pos hafter]
      rfl
    rw [trim, List.append_nil, List.dropWhile_append_of_pos hbefore, hback]
    rfl
  | cons c text =>
    have hfront : (before ++ c :: text ++ after).dropWhile Unicode.isWhiteSpace =
        c :: text ++ after := by
      rw [List.append_assoc, List.dropWhile_append_of_pos hbefore]
      simp [h c]
    have hback : ((c :: text).reverse).dropWhile Unicode.isWhiteSpace = (c :: text).reverse :=
      dropWhile_of_not_blank fun d hd => h d (List.mem_reverse.1 hd)
    rw [trim, hfront, List.reverse_append, List.dropWhile_append_of_pos
      (fun d hd => hafter d (List.mem_reverse.1 hd)), hback, List.reverse_reverse]

/-- Solid parts, joined with blanks around the separators, come apart into themselves. What
is in front of the first part is trimmed with it. -/
theorem map_trim_pieces_intercalate {part : List Char} {parts : List (List Char)}
    (before : List Char) (hseparator : separator ≠ ' ') (hfront : separator ∉ before)
    (hbefore : ∀ c ∈ before, Unicode.isWhiteSpace c)
    (hparts : ∀ p ∈ part :: parts, IsSolid separator p) :
    (pieces separator (before ++ [' ', separator, ' '].intercalate (part :: parts))).map trim =
      part :: parts := by
  have hblank : ∀ c ∈ [' '], Unicode.isWhiteSpace c :=
    List.forall_mem_singleton.2 (by decide +kernel)
  have hpart := hparts part List.mem_cons_self
  induction parts generalizing part before with
  | nil =>
    have hpieces : separator ∉ before ++ part := by simp [hfront, hpart.not_mem]
    have htrim : trim (before ++ part ++ []) = part :=
      trim_surrounded hpart.not_blank hbefore (by simp)
    rw [List.append_nil] at htrim
    simp [List.intercalate, pieces_of_not_mem hpieces, htrim]
  | cons next parts ih =>
    have hpieces : separator ∉ before ++ part ++ [' '] := by
      simp [hfront, hpart.not_mem, hseparator]
    have hrest := ih [' '] (by simpa using hseparator) hblank
      (fun p hp => hparts p (List.mem_cons_of_mem _ hp)) (hparts next (by simp))
    have hsplit : before ++ [' ', separator, ' '].intercalate (part :: next :: parts) =
        before ++ part ++ [' '] ++
          separator :: ([' '] ++ [' ', separator, ' '].intercalate (next :: parts)) := by
      simp [List.intercalate_cons_cons]
    rw [hsplit, pieces_append hpieces, List.map_cons,
      trim_surrounded hpart.not_blank hbefore hblank, hrest]

end

end DeviceRegex.Text
