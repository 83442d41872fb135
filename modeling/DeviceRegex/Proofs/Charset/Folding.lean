import DeviceRegex.Charset.CaseFolding
import Mathlib

/-!
# What folded sets match

When case is ignored, the items of a set are followed by items for their other cases.
The folded set matches what the set matches and, besides, the single-character images of
its characters and the letters whose other case lies in one of its ranges.

## Main definitions

* `IsCaseOf c d` — `d` is `c`, or the whole lower-case or upper-case image of `c`.
* `otherCase? d` — the ASCII letter of the other case.
* `MatchesSomeCase ascii items d` — what a set matches when case is ignored.
-/
namespace DeviceRegex

/-- The character `d` is `c` itself, or all of the lower-case or upper-case image of `c`. -/
def IsCaseOf (c d : Char) : Prop := d = c ∨ Unicode.lowercase c = [d] ∨ Unicode.uppercase c = [d]

/-- The ASCII letter of the other case, if the character is an ASCII letter. -/
def otherCase? (d : Char) : Option Char :=
  if d.isLower then some d.toUpper else if d.isUpper then some d.toLower else none

/-- An item matches the character, or one of its characters has it as another case, or one
of its ranges has the other case of the character. -/
def MatchesSomeCase (ascii : Bool) (items : List SetItem) (d : Char) : Prop :=
  (∃ item ∈ items, item.contains ascii d) ∨
    (∃ c, .char c ∈ items ∧ IsCaseOf c d) ∨
    ∃ first last e, .range first last ∈ items ∧ otherCase? d = some e ∧ first ≤ e ∧ e ≤ last

/-! ## Characters -/

theorem mem_addCase_iff (variants image : List Char) (d : Char) :
    d ∈ addCase variants image ↔ d ∈ variants ∨ image = [d] := by
  unfold addCase
  split
  · rename_i c
    by_cases hc : c ∈ variants
    · rw [if_pos hc]
      constructor
      · exact .inl
      · rintro (hd | hd)
        · exact hd
        · obtain rfl : c = d := by simpa using hd
          exact hc
    · rw [if_neg hc, List.mem_append, List.mem_singleton, List.cons_eq_cons, eq_comm (a := d)]
      simp
  · rename_i hsingle
    constructor
    · exact .inl
    · rintro (hd | rfl)
      · exact hd
      · exact absurd rfl (hsingle d)

/-- The variants of a character are its cases. -/
theorem mem_letterCases_iff (c d : Char) : d ∈ letterCases c ↔ IsCaseOf c d := by
  rw [letterCases, mem_addCase_iff, mem_addCase_iff, List.mem_singleton, or_assoc]
  rfl

theorem isCaseOf_self (c : Char) : IsCaseOf c c := .inl rfl

/-- A character without a second variant has no case but itself. -/
theorem isCaseOf_iff_eq {c : Char} (h : ¬ 1 < (letterCases c).length) (d : Char) :
    IsCaseOf c d ↔ d = c := by
  have hself : c ∈ letterCases c := (mem_letterCases_iff c c).2 (isCaseOf_self c)
  constructor
  · intro hd
    have hmem := (mem_letterCases_iff c d).2 hd
    obtain ⟨e, he⟩ := List.length_eq_one_iff.1
      (show (letterCases c).length = 1 by have := List.length_pos_of_mem hself; omega)
    rw [he, List.mem_singleton] at hself hmem
    rw [hself, hmem]
  · rintro rfl
    exact isCaseOf_self d

/-! ## ASCII letters -/

theorem isLower_iff (c : Char) : c.isLower ↔ 97 ≤ c.toNat ∧ c.toNat ≤ 122 := by
  simp only [Char.isLower, Bool.and_eq_true, decide_eq_true_eq, UInt32.le_iff_toNat_le]
  rfl

theorem isUpper_iff (c : Char) : c.isUpper ↔ 65 ≤ c.toNat ∧ c.toNat ≤ 90 := by
  simp only [Char.isUpper, decide_eq_true_eq, UInt32.le_iff_toNat_le]
  rfl

theorem toNat_toUpper {c : Char} (h : c.isLower) : c.toUpper.toNat + 32 = c.toNat := by
  rw [Char.toUpper_eq_of_isLower h]
  rw [isLower_iff] at h
  rw [Char.toNat_ofNat, if_pos (.inl (by omega))]
  omega

theorem toNat_toLower {c : Char} (h : c.isUpper) : c.toLower.toNat = c.toNat + 32 := by
  rw [Char.toLower_eq_of_isUpper h]
  rw [isUpper_iff] at h
  rw [Char.toNat_ofNat, if_pos (.inl (by omega))]

/-! ## Ranges -/

theorem contains_range_iff (ascii : Bool) (first last d : Char) :
    (SetItem.range first last).contains ascii d ↔ first.toNat ≤ d.toNat ∧ d.toNat ≤ last.toNat := by
  simp only [SetItem.contains, Bool.and_eq_true, decide_eq_true_eq]
  rfl

section
variable {low high : Char} {map back : Char → Char} {shift : ℤ} (ascii : Bool) (first last : Char)
  {d : Char}

/-- A part of a range that is moved by a distance matches what lies in the moved alphabet
and comes from the range. -/
theorem any_contains_foldOverlap
    (hmap : ∀ c : Char, low.toNat ≤ c.toNat → c.toNat ≤ high.toNat →
      ((map c).toNat : ℤ) = c.toNat + shift)
    (hback : low.toNat + shift ≤ d.toNat → d.toNat ≤ high.toNat + shift →
      ((back d).toNat : ℤ) = d.toNat - shift) :
    (foldOverlap first last low high map).any (·.contains ascii d) ↔
      (low.toNat + shift ≤ d.toNat ∧ d.toNat ≤ high.toNat + shift) ∧
        first.toNat ≤ (back d).toNat ∧ (back d).toNat ≤ last.toNat := by
  have hlower : (if first ≤ low then low else first).toNat = max first.toNat low.toNat := by
    split
    · exact (Nat.max_eq_right ‹first ≤ low›).symm
    · exact (Nat.max_eq_left (Nat.le_of_not_le ‹¬ first ≤ low›)).symm
  have hupper : (if last ≤ high then last else high).toNat = min last.toNat high.toNat := by
    split
    · exact (Nat.min_eq_left ‹last ≤ high›).symm
    · exact (Nat.min_eq_right (Nat.le_of_not_le ‹¬ last ≤ high›)).symm
  rw [foldOverlap]
  generalize (if first ≤ low then low else first) = lower at hlower
  generalize (if last ≤ high then last else high) = upper at hupper
  by_cases hmeet : lower ≤ upper
  · have hmeet' : lower.toNat ≤ upper.toNat := hmeet
    have hfrom := hmap lower (by omega) (by omega)
    have hto := hmap upper (by omega) (by omega)
    simp only [hmeet, if_true, List.any_cons, List.any_nil, Bool.or_false, contains_range_iff]
    constructor
    · rintro ⟨hd, hd'⟩
      have hd'' := hback (by omega) (by omega)
      omega
    · rintro ⟨⟨hd, hd'⟩, h⟩
      have hd'' := hback hd hd'
      omega
  · have hmeet' : ¬ lower.toNat ≤ upper.toNat := hmeet
    simp only [hmeet, if_false, List.any_nil, Bool.false_eq_true, false_iff]
    rintro ⟨⟨hd, hd'⟩, h⟩
    have hd'' := hback hd hd'
    omega

/-- The lower-case letters of a range give the upper-case letters whose other case is in the
range. -/
theorem any_contains_foldOverlap_toUpper (d : Char) :
    (foldOverlap first last 'a' 'z' Char.toUpper).any (·.contains ascii d) ↔
      d.isUpper ∧ first ≤ d.toLower ∧ d.toLower ≤ last := by
  have hmap (c : Char) (h : 97 ≤ c.toNat) (h' : c.toNat ≤ 122) :
      (c.toUpper.toNat : ℤ) = c.toNat + -32 := by
    have := toNat_toUpper ((isLower_iff c).2 ⟨h, h'⟩)
    omega
  have hback (h : (97 : ℤ) + -32 ≤ d.toNat) (h' : (d.toNat : ℤ) ≤ 122 + -32) :
      (d.toLower.toNat : ℤ) = d.toNat - -32 := by
    have := toNat_toLower ((isUpper_iff d).2 ⟨by omega, by omega⟩)
    omega
  have hletter : (97 : ℤ) + -32 ≤ d.toNat ∧ (d.toNat : ℤ) ≤ 122 + -32 ↔ d.isUpper := by
    rw [isUpper_iff]
    omega
  rw [← hletter]
  exact any_contains_foldOverlap ascii first last hmap hback

/-- The upper-case letters of a range give the lower-case letters whose other case is in the
range. -/
theorem any_contains_foldOverlap_toLower (d : Char) :
    (foldOverlap first last 'A' 'Z' Char.toLower).any (·.contains ascii d) ↔
      d.isLower ∧ first ≤ d.toUpper ∧ d.toUpper ≤ last := by
  have hmap (c : Char) (h : 65 ≤ c.toNat) (h' : c.toNat ≤ 90) :
      (c.toLower.toNat : ℤ) = c.toNat + 32 := by
    have := toNat_toLower ((isUpper_iff c).2 ⟨h, h'⟩)
    omega
  have hback (h : (65 : ℤ) + 32 ≤ d.toNat) (h' : (d.toNat : ℤ) ≤ 90 + 32) :
      (d.toUpper.toNat : ℤ) = d.toNat - 32 := by
    have := toNat_toUpper ((isLower_iff d).2 ⟨by omega, by omega⟩)
    omega
  have hletter : (65 : ℤ) + 32 ≤ d.toNat ∧ (d.toNat : ℤ) ≤ 90 + 32 ↔ d.isLower := by
    rw [isLower_iff]
    omega
  rw [← hletter]
  exact any_contains_foldOverlap ascii first last hmap hback

end

/-! ## Items and sets -/

theorem otherCase?_eq_some_iff (d e : Char) :
    otherCase? d = some e ↔ (d.isLower ∧ d.toUpper = e) ∨ (d.isUpper ∧ d.toLower = e) := by
  rw [otherCase?]
  by_cases hlower : d.isLower
  · simp [hlower, Char.not_isUpper_of_isLower hlower]
  · by_cases hupper : d.isUpper <;> simp [hlower, hupper]

section
variable (ascii : Bool) (d : Char)

theorem matchesSomeCase_nil : ¬ MatchesSomeCase ascii [] d := by simp [MatchesSomeCase]

theorem matchesSomeCase_cons (item : SetItem) (items : List SetItem) :
    MatchesSomeCase ascii (item :: items) d ↔
      MatchesSomeCase ascii [item] d ∨ MatchesSomeCase ascii items d := by
  simp only [MatchesSomeCase, List.mem_cons, List.not_mem_nil, or_false, or_and_right, exists_or]
  rw [iff_eq_eq]
  ac_rfl

theorem matchesSomeCase_char (c : Char) : MatchesSomeCase ascii [.char c] d ↔ IsCaseOf c d := by
  have hself : d = c → IsCaseOf c d := .inl
  simpa [MatchesSomeCase, SetItem.contains] using hself

theorem matchesSomeCase_range (first last : Char) :
    MatchesSomeCase ascii [.range first last] d ↔
      (SetItem.range first last).contains ascii d ∨
        (d.isLower ∧ first ≤ d.toUpper ∧ d.toUpper ≤ last) ∨
        (d.isUpper ∧ first ≤ d.toLower ∧ d.toLower ≤ last) := by
  simp [MatchesSomeCase, otherCase?_eq_some_iff, or_and_right, exists_or, and_assoc]

/-- An item and the items for its other cases match what the item matches when case is
ignored. -/
theorem any_contains_foldCase (item : SetItem) :
    item.foldCase.any (·.contains ascii d) ↔ MatchesSomeCase ascii [item] d := by
  cases item with
  | char c =>
    rw [matchesSomeCase_char, ← mem_letterCases_iff]
    have hself : c ∈ letterCases c := (mem_letterCases_iff c c).2 (isCaseOf_self c)
    by_cases hd : d = c
    · subst hd
      simpa [SetItem.foldCase, SetItem.contains] using hself
    · simp [SetItem.foldCase, SetItem.contains, hd, List.any_map]
  | range first last =>
    rw [matchesSomeCase_range, SetItem.foldCase, List.any_cons, List.any_append, Bool.or_eq_true,
      Bool.or_eq_true, any_contains_foldOverlap_toUpper, any_contains_foldOverlap_toLower]
    exact or_congr_right or_comm
  | shorthand s => simp [SetItem.foldCase, MatchesSomeCase]
  | complement s => simp [SetItem.foldCase, MatchesSomeCase]

/-- Folded sets match exactly what their sets match when case is ignored. -/
theorem any_contains_foldCases (items : List SetItem) :
    (foldCases items).any (·.contains ascii d) ↔ MatchesSomeCase ascii items d := by
  induction items with
  | nil => simpa [foldCases] using matchesSomeCase_nil ascii d
  | cons item items ih =>
    rw [matchesSomeCase_cons, ← ih, ← any_contains_foldCase, foldCases, List.flatMap_cons,
      List.any_append, Bool.or_eq_true]
    rfl

end

-- the range reaches into both alphabets, and each part is mapped for itself
example : foldCases [.range 'Z' 'a'] = [.range 'Z' 'a', .range 'A' 'A', .range 'z' 'z'] := by
  decide

end DeviceRegex
