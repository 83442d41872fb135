import DeviceRegex.Proofs.Pattern.Normal
import DeviceRegex.Proofs.Pattern.Spelling

/-!
# Reading what was written

The readers of escapes, sets, leaves and quantifiers take exactly what was written off a
text, and find what it was written for.
-/
namespace DeviceRegex

open Pattern

/-! ## Escapes -/

theorem readOctal_of_not_startsOctal {rest : List Char} (h : ¬StartsOctal rest)
    (value count : Nat) : readOctal value count rest = (value, rest) := by
  cases count with
  | zero => rfl
  | succ count =>
    cases rest with
    | nil => rfl
    | cons c rest =>
      have hc : Text.octalDigit? c = none := by
        rw [← Option.not_isSome_iff_eq_none]
        exact fun hsome => h ⟨c, rest, rfl, hsome⟩
      simp [readOctal, hc]

theorem readHex_append {digits : List Char} {value n : Nat} (start rest : List Char)
    (h : Text.hexValue? value digits = some n) :
    readHex start value digits.length (digits ++ rest) = .ok (n, rest) := by
  induction digits generalizing value with
  | nil =>
    obtain rfl := Option.some.inj h
    rfl
  | cons c digits ih =>
    obtain ⟨digit, hdigit, h⟩ := Option.bind_eq_some_iff.1 h
    simp only [List.length_cons, List.cons_append, readHex, hdigit]
    exact ih h

theorem readCodePoint_append {digits : List Char} {c : Char} (start rest : List Char)
    (h : Text.hexValue? 0 digits = some c.toNat) :
    readCodePoint start digits.length (digits ++ rest) = .ok (c, rest) := by
  have hvalid : c.toNat.isValidChar := c.valid
  simp [readCodePoint, readHex_append start rest h, bind, Except.bind, hvalid, pure, Except.pure]

/-- A character that is no ASCII letter or digit names nothing after a backslash. -/
theorem control?_eq_none {c : Char} (hc : c.isAlphanum = false) (inSet : Bool) :
    control? inSet c = none := by
  unfold control?
  split <;> first | rfl | simp at hc

theorem shorthand?_eq_none {c : Char} (hc : c.isAlphanum = false) : shorthand? c = none := by
  unfold shorthand?
  split <;> first | rfl | simp at hc

theorem assertion?_eq_none {c : Char} (hc : c.isAlphanum = false) : assertion? c = none := by
  unfold assertion?
  split <;> first | rfl | simp at hc

theorem isBackreference_eq_false {c : Char} (hc : c.isAlphanum = false) :
    isBackreference c = false := by
  have hdigit : c.isDigit = false := by
    rw [Char.isAlphanum, Bool.or_eq_false_iff] at hc
    exact hc.2
  by_contra h
  simp only [isBackreference, Bool.not_eq_false, Bool.and_eq_true, decide_eq_true_eq] at h
  have : c.isDigit = true := by
    simp only [Char.isDigit, ge_iff_le, Bool.and_eq_true, decide_eq_true_eq]
    exact ⟨UInt32.le_trans (by decide : '0'.val ≤ '1'.val) h.1, h.2⟩
  simp [this] at hdigit

/-- The first character of an escape names no class, no group and, outside sets, no
test of a position. -/
theorem EscapeSpells.uncons {inSet : Bool} {c : Char} {text rest : List Char}
    (h : EscapeSpells inSet c text rest) :
    ∃ d tail, text = d :: tail ∧ shorthand? d = none ∧ isBackreference d = false ∧
      (inSet = false → assertion? d = none) := by
  cases h with
  | @control letter c rest h =>
    refine ⟨letter, rest, rfl, ?_⟩
    simp only [controlLetters, List.mem_cons, Prod.mk.injEq, List.not_mem_nil, or_false] at h
    rcases h with ⟨rfl, -⟩ | ⟨rfl, -⟩ | ⟨rfl, -⟩ | ⟨rfl, -⟩ | ⟨rfl, -⟩ | ⟨rfl, -⟩ | ⟨rfl, -⟩ <;>
      exact ⟨by decide, by decide, fun _ => by decide⟩
  | backspace rest h => exact ⟨'b', rest, rfl, by decide, by decide, by simp [h]⟩
  | zero | oneDigit | twoDigits => exact ⟨'0', _, rfl, by decide, by decide, fun _ => by decide⟩
  | codePoint rest hmark =>
    rcases hmark with ⟨rfl, -⟩ | ⟨rfl, -⟩
    · exact ⟨'x', _, rfl, by decide, by decide, fun _ => by decide⟩
    · exact ⟨'u', _, rfl, by decide, by decide, fun _ => by decide⟩
  | itself rest hc =>
    exact ⟨c, rest, rfl, shorthand?_eq_none hc, isBackreference_eq_false hc,
      fun _ => assertion?_eq_none hc⟩

theorem EscapeSpells.readEscapedChar {inSet : Bool} {c : Char} {text rest : List Char}
    (h : EscapeSpells inSet c text rest) (start : List Char) :
    readEscapedChar inSet start text = .ok (c, rest) := by
  have hzero : control? inSet '0' = none := by cases inSet <;> rfl
  cases h with
  | control rest h =>
    simp only [controlLetters, List.mem_cons, Prod.mk.injEq, List.not_mem_nil, or_false] at h
    rcases h with ⟨rfl, rfl⟩ | ⟨rfl, rfl⟩ | ⟨rfl, rfl⟩ | ⟨rfl, rfl⟩ | ⟨rfl, rfl⟩ | ⟨rfl, rfl⟩ |
      ⟨rfl, rfl⟩ <;> rfl
  | backspace rest h =>
    subst h
    rfl
  | zero h => simp [Pattern.readEscapedChar, hzero, readOctal_of_not_startsOctal h]
  | oneDigit hd h =>
    simp [Pattern.readEscapedChar, hzero, readOctal, hd, readOctal_of_not_startsOctal h]
  | twoDigits rest hd he => simp [Pattern.readEscapedChar, hzero, readOctal, hd, he]
  | codePoint rest hmark hvalue =>
    have hread := readCodePoint_append start rest hvalue
    rcases hmark with ⟨rfl, hlen⟩ | ⟨rfl, hlen⟩ <;> rw [hlen] at hread
    · have hx : control? inSet 'x' = none := by cases inSet <;> rfl
      simp [Pattern.readEscapedChar, hx, hread]
    · have hu : control? inSet 'u' = none := by cases inSet <;> rfl
      simp [Pattern.readEscapedChar, hu, hread]
  | itself rest hc =>
    have hne (d : Char) (hd : d.isAlphanum = true) : c ≠ d := by
      rintro rfl
      simp [hd] at hc
    simp [Pattern.readEscapedChar, control?_eq_none hc, hc, hne '0' rfl, hne 'x' rfl, hne 'u' rfl]

/-- An escape outside sets is read as the character it was written for. -/
theorem EscapeSpells.readEscape {c : Char} {text rest : List Char}
    (h : EscapeSpells false c text rest) (start : List Char) :
    readEscape start text = .ok (.char c, rest) := by
  have hread := h.readEscapedChar start
  obtain ⟨d, tail, rfl, hshorthand, hback, hassertion⟩ := h.uncons
  simp [Pattern.readEscape, hshorthand, hassertion rfl, hback, hread, bind, Except.bind, pure,
    Except.pure]

/-- An escape inside a set is read as the character it was written for. -/
theorem EscapeSpells.readSetEscape {c : Char} {text rest : List Char}
    (h : EscapeSpells true c text rest) (start : List Char) :
    readSetEscape start text = .ok (.char c, rest) := by
  have hread := h.readEscapedChar start
  obtain ⟨d, tail, rfl, hshorthand, hback, -⟩ := h.uncons
  simp [Pattern.readSetEscape, hshorthand, hback, hread, bind, Except.bind, pure, Except.pure]

/-! ## Sets -/

/-- A character of a set is read as it was written. -/
theorem MemberSpells.readSetAtom {c : Char} {text rest : List Char}
    (h : MemberSpells c text rest) : readSetAtom text = .ok (.char c, rest) := by
  cases h with
  | plain => simp [Pattern.readSetAtom]
  | escaped h => exact h.readSetEscape _

/-- No character of a set starts with a closing bracket. -/
theorem MemberSpells.uncons {c : Char} {text rest : List Char} (h : MemberSpells c text rest) :
    ∃ d tail, text = d :: tail ∧ d ≠ ']' := by
  cases h with
  | plain rest hbracket => exact ⟨c, rest, rfl, hbracket⟩
  | escaped => exact ⟨'\\', _, rfl, by decide⟩

theorem SetItem.Spells.uncons {item : SetItem} {text rest : List Char}
    (h : item.Spells text rest) : ∃ d tail, text = d :: tail ∧ d ≠ ']' := by
  cases h with
  | char h => exact h.uncons
  | range hfirst => exact hfirst.uncons
  | shorthand | complement => exact ⟨'\\', _, rfl, by decide⟩

/-- An item of a set is read as it was written. -/
theorem SetItem.Spells.readSetItem {item : SetItem} {text rest : List Char}
    (h : item.Spells text rest) (hitem : item.Normal) : readSetItem text = .ok (item, rest) := by
  cases h with
  | @char c _ _ h hdash =>
    have hatom := h.readSetAtom
    simp only [Pattern.readSetItem, hatom, bind, Except.bind]
    split
    · rename_i heq
      simp only [Prod.mk.injEq, SetItem.char.injEq] at heq
      obtain ⟨rfl, rfl⟩ := heq
      rename_i d tail
      by_cases hd : d = ']'
      · rw [if_pos hd]
        rfl
      · exact absurd ⟨d, tail, rfl, hd⟩ hdash
    · rename_i heq
      rw [← heq]
      rfl
  | @range first last _ upper _ hfirst hlast =>
    obtain ⟨d, tail, rfl, hd⟩ := hlast.uncons
    have hle : ¬last < first := Char.not_lt.2 hitem
    simp [Pattern.readSetItem, hfirst.readSetAtom, hd, readRangeEnd, hlast.readSetAtom, hle, bind,
      Except.bind, pure, Except.pure]
  | shorthand kind => cases kind <;> rfl
  | complement kind => cases kind <;> rfl

theorem readSetItems_cons {opening text rest : List Char} {c : Char} {item : SetItem}
    (hc : c ≠ ']') (hitem : readSetItem (c :: text) = .ok (item, rest)) :
    readSetItems opening (c :: text) = (do
      let (items, rest) ← readSetItems opening rest
      return (item :: items, rest)) := by
  rw [readSetItems]
  · split
    · simp_all
    · simp_all
  · simpa using hc

theorem ItemsSpell.readSetItems {items : List SetItem} {text rest : List Char}
    (h : ItemsSpell items text rest) (hitems : ∀ item ∈ items, item.Normal)
    (opening : List Char) : readSetItems opening text = .ok (items, rest) := by
  induction h with
  | nil rest => rw [Pattern.readSetItems]
  | cons hitem _ ih =>
    obtain ⟨hnormal, hitems⟩ := List.forall_mem_cons.1 hitems
    have hread := hitem.readSetItem hnormal
    obtain ⟨d, tail, rfl, hd⟩ := hitem.uncons
    rw [readSetItems_cons hd hread, ih hitems]
    rfl

theorem FirstItemsSpell.readFirstItems {items : List SetItem} {text rest : List Char}
    (h : FirstItemsSpell items text rest) (hitems : ∀ item ∈ items, item.Normal)
    (opening : List Char) : readFirstItems opening text = .ok (items, rest) := by
  cases h with
  | ordinary hne h =>
    have hread := h.readSetItems hitems opening
    cases h with
    | nil => exact absurd rfl hne
    | cons hitem =>
      obtain ⟨d, tail, rfl, hd⟩ := hitem.uncons
      simpa [Pattern.readFirstItems, hd] using hread
  | bracket h =>
    have hread := h.readSetItems (fun item hitem => hitems item (List.mem_cons_of_mem _ hitem))
      opening
    simp [Pattern.readFirstItems, hread, bind, Except.bind, pure, Except.pure]

/-! ## Leaves -/

/-- A text starts with no quantifier if its first character is not special and no counted
quantifier starts with it. -/
theorem bounds?_cons {c : Char} {rest : List Char} (hc : c ∉ specialChars)
    (hbrace : c = '{' → ¬StartsCounted rest) : bounds? (c :: rest) = .ok none := by
  simp only [specialChars, List.mem_cons, List.not_mem_nil, or_false, not_or] at hc
  by_cases h : c = '{'
  · subst h
    simp [bounds?, counted?, readShape_eq_none_iff.2 (hbrace rfl)]
  · simp [bounds?, counted?, hc, h]

/-- A leaf is read as it was written. It starts with no bar and no parenthesis. -/
theorem Leaf.Spells.readLeaf {l : Leaf} {text rest : List Char} (h : l.Spells text rest)
    (hl : l.Normal) :
    ∃ c tail, text = c :: tail ∧ c ≠ '|' ∧ c ≠ '(' ∧ c ≠ ')' ∧
      readLeaf c tail = .ok (l, rest) := by
  have hself (c : Char) (tail : List Char) (hc : c ≠ '|' ∧ c ≠ '(' ∧ c ≠ ')')
      (hread : Pattern.readLeaf c tail = .ok (l, rest)) :
      ∃ d tail', c :: tail = d :: tail' ∧ d ≠ '|' ∧ d ≠ '(' ∧ d ≠ ')' ∧
        Pattern.readLeaf d tail' = .ok (l, rest) :=
    ⟨c, tail, rfl, hc.1, hc.2.1, hc.2.2, hread⟩
  cases h with
  | @char c _ _ h =>
    cases h with
    | plain hc hbrace =>
      have hbounds := bounds?_cons hc hbrace
      simp only [specialChars, List.mem_cons, List.not_mem_nil, or_false, not_or] at hc
      refine hself c _ ⟨by simp [hc], by simp [hc], by simp [hc]⟩ ?_
      simp [Pattern.readLeaf, hc, hbounds, bind, Except.bind, pure, Except.pure]
    | escaped h => exact hself '\\' _ (by decide) (h.readEscape _)
  | dot => exact hself '.' _ (by decide) rfl
  | @set items text _ h hcaret =>
    refine hself '[' _ (by decide) ?_
    have hread := h.readFirstItems hl.2 ('[' :: text)
    simp only [Pattern.readLeaf]
    unfold readSet
    split
    · exact absurd rfl (hcaret _)
    · simp [hread, bind, Except.bind, pure, Except.pure]
  | @outside items text _ h =>
    refine hself '[' _ (by decide) ?_
    have hread := h.readFirstItems hl.2 ('[' :: '^' :: text)
    simp [Pattern.readLeaf, readSet, hread, bind, Except.bind, pure, Except.pure]
  | shorthand kind => exact hself '\\' _ (by decide) (by cases kind <;> rfl)
  | complement kind => exact hself '\\' _ (by decide) (by cases kind <;> rfl)
  | caret => exact hself '^' _ (by decide) rfl
  | dollar => exact hself '$' _ (by decide) rfl
  | textStart | wordBoundary | notWordBoundary => exact hself '\\' _ (by decide) rfl
  | textEnd _ h =>
    refine hself '\\' _ (by decide) ?_
    rcases h with rfl | rfl <;> rfl

/-- A leaf starts with no quantifier. -/
theorem Leaf.Spells.bounds?_eq_none {l : Leaf} {text rest : List Char} (h : l.Spells text rest) :
    bounds? text = .ok none := by
  cases h with
  | char h =>
    cases h with
    | plain hc hbrace => exact bounds?_cons hc hbrace
    | escaped => rfl
  | _ => rfl

/-! ## Quantifiers -/

/-- The bounds of a quantifier are read as they were written. -/
theorem BoundsSpell.bounds?_eq {min : Nat} {max : Option Nat} {text rest : List Char}
    (h : BoundsSpell min max text rest) {greedy : Bool}
    (htimes : (⟨min, max, greedy⟩ : Quantifier).Normal) :
    bounds? text = .ok (some ((min, max), rest)) := by
  cases h with
  | star | plus | optional => rfl
  | @counted s hs =>
    have hbounds := s.bounds_eq_ok ('{' :: (s.text ++ rest)) htimes.min_le htimes.max_le
    simp [bounds?, counted?, readShape_text_append hs, hbounds, bind, Except.bind, pure,
      Except.pure]

/-- A quantifier behind a part is read as it was written, if no other one follows. -/
theorem Quantifier.Spells.quantify {times : Quantifier} {text rest : List Char}
    (h : times.Spells text rest) (htimes : times.Normal) (hrest : bounds? rest = .ok none)
    {part : Node} (hpart : part.isAssertion = false) :
    quantify part text = .ok (.repetition part times, rest) := by
  cases h with
  | greedy h =>
    have hmark : isGreedy rest = true ∧ dropLazyMark rest = rest := by
      cases rest with
      | nil => exact ⟨rfl, rfl⟩
      | cons c rest =>
        have hc : c ≠ '?' := by
          rintro rfl
          cases hrest
        simp [isGreedy, dropLazyMark, hc]
    simp [Pattern.quantify, h.bounds?_eq htimes, hpart, hmark, hrest, bind, Except.bind, pure,
      Except.pure]
  | lazy h =>
    simp [Pattern.quantify, h.bounds?_eq htimes, hpart, isGreedy, dropLazyMark, hrest, bind,
      Except.bind, pure, Except.pure]

/-- A part that no quantifier follows stands alone. -/
theorem quantify_of_bounds?_eq_none {rest : List Char} (hrest : bounds? rest = .ok none)
    (part : Node) : quantify part rest = .ok (part, rest) := by
  simp [quantify, hrest, bind, Except.bind, pure, Except.pure]

end DeviceRegex
