import DeviceRegex.Proofs.Pattern.Accepted
import DeviceRegex.Proofs.Pattern.Reading

/-!
# What is read was written

The readers of escapes, sets, leaves and quantifiers accept nothing but what the grammar
allows: whatever one of them finds at the front of a text, the text starts with a way to
write it, and the reader stops behind that.

## Main definitions

* `Quantified` — a part and the quantifier behind it, with no other quantifier behind
  that.
-/
namespace DeviceRegex

open Pattern

/-! ## Characters -/

section
variable {start text rest : List Char}

/-- A code point that is read stands in as many hexadecimal digits as asked for. -/
theorem hexValue?_of_readHex {value count n : Nat}
    (h : readHex start value count text = .ok (n, rest)) :
    ∃ digits, text = digits ++ rest ∧ digits.length = count ∧
      Text.hexValue? value digits = some n := by
  fun_induction readHex start value count text with
  | case1 value text =>
    obtain ⟨rfl, rfl⟩ := Prod.mk.inj (Except.ok.inj h)
    exact ⟨[], rfl, rfl, rfl⟩
  | case2 => cases h
  | case3 value count c tail digit hdigit ih =>
    obtain ⟨digits, rfl, hlength, hvalue⟩ := ih h
    refine ⟨c :: digits, rfl, congrArg (· + 1) hlength, ?_⟩
    simpa [Text.hexValue?, hdigit] using hvalue
  | case4 => cases h

theorem hexValue?_of_readCodePoint {count : Nat} {c : Char}
    (h : readCodePoint start count text = .ok (c, rest)) :
    ∃ digits, text = digits ++ rest ∧ digits.length = count ∧
      Text.hexValue? 0 digits = some c.toNat := by
  obtain ⟨⟨value, rest'⟩, hread, hchar⟩ := bind_eq_ok_iff.1 h
  obtain ⟨digits, rfl, hlength, hvalue⟩ := hexValue?_of_readHex hread
  simp only at hchar
  split at hchar
  · rename_i hvalid
    obtain ⟨rfl, rfl⟩ := Prod.mk.inj (Except.ok.inj hchar)
    have hchar : (Char.ofNat value).toNat = value := by
      rw [Char.ofNat, dif_pos hvalid]
      rfl
    exact ⟨digits, rfl, hlength, by rw [hchar, hvalue]⟩
  · cases hchar

theorem startsOctal_cons_iff {c : Char} :
    StartsOctal (c :: text) ↔ (Text.octalDigit? c).isSome := by
  constructor
  · rintro ⟨d, tail, heq, hd⟩
    cases heq
    exact hd
  · exact fun h => ⟨c, text, rfl, h⟩

theorem not_startsOctal_nil : ¬StartsOctal [] := by
  rintro ⟨c, tail, h, -⟩
  cases h

/-- Up to two octal digits are read behind a zero, as many as there are. -/
theorem escapeSpells_of_readOctal (inSet : Bool) (text : List Char) :
    EscapeSpells inSet (Char.ofNat (readOctal 0 2 text).1) ('0' :: text)
      (readOctal 0 2 text).2 := by
  have hstop {c : Char} {tail : List Char} (hc : Text.octalDigit? c = none) :
      ¬StartsOctal (c :: tail) := by
    simp [startsOctal_cons_iff, hc]
  cases text with
  | nil => exact .zero not_startsOctal_nil
  | cons d text =>
    cases hd : Text.octalDigit? d with
    | none =>
      rw [readOctal_of_not_startsOctal (hstop hd)]
      exact .zero (hstop hd)
    | some high =>
      rw [show readOctal 0 2 (d :: text) = readOctal high 1 text by simp [readOctal, hd]]
      cases text with
      | nil => exact .oneDigit hd not_startsOctal_nil
      | cons e text =>
        cases he : Text.octalDigit? e with
        | none =>
          rw [readOctal_of_not_startsOctal (hstop he)]
          exact .oneDigit hd (hstop he)
        | some low =>
          rw [show readOctal high 1 (e :: text) = (8 * high + low, text) by simp [readOctal, he]]
          exact .twoDigits text hd he

theorem escapeSpells_of_control? {inSet : Bool} {letter c : Char}
    (h : control? inSet letter = some c) (rest : List Char) :
    EscapeSpells inSet c (letter :: rest) rest := by
  unfold control? at h
  split at h
  iterate 7
    · obtain rfl := Option.some.inj h
      exact .control rest (by decide)
  · split at h
    · rename_i hset
      obtain rfl := Option.some.inj h
      exact .backspace rest hset
    · cases h
  · cases h

/-- A character that is read behind a backslash was written there. -/
theorem escapeSpells_of_readEscapedChar {inSet : Bool} {c : Char}
    (h : readEscapedChar inSet start text = .ok (c, rest)) : EscapeSpells inSet c text rest := by
  unfold readEscapedChar at h
  split at h
  · cases h
  · rename_i d tail
    split at h
    · rename_i decoded hcontrol
      obtain ⟨rfl, rfl⟩ := Prod.mk.inj (Except.ok.inj h)
      exact escapeSpells_of_control? hcontrol _
    split at h
    · rename_i hzero
      obtain ⟨rfl, rfl⟩ := Prod.mk.inj (Except.ok.inj h)
      rw [hzero]
      exact escapeSpells_of_readOctal inSet tail
    split at h
    · rename_i hx
      obtain ⟨digits, rfl, hlength, hvalue⟩ := hexValue?_of_readCodePoint h
      exact .codePoint rest (.inl ⟨hx, hlength⟩) hvalue
    split at h
    · rename_i hu
      obtain ⟨digits, rfl, hlength, hvalue⟩ := hexValue?_of_readCodePoint h
      exact .codePoint rest (.inr ⟨hu, hlength⟩) hvalue
    split at h
    · cases h
    · rename_i halphanum
      obtain ⟨rfl, rfl⟩ := Prod.mk.inj (Except.ok.inj h)
      exact .itself _ (by simpa using halphanum)

/-- A letter that names a class is the one by which the class is written. -/
theorem eq_letter_of_shorthand? {c : Char} {kind : Shorthand} {negated : Bool}
    (h : shorthand? c = some (kind, negated)) :
    c = if negated then kind.complementLetter else kind.letter := by
  unfold shorthand? at h
  split at h
  iterate 6
    · obtain ⟨rfl, rfl⟩ := Prod.mk.inj (Option.some.inj h)
      rfl
  · cases h

/-! ## Sets -/

/-- An escape inside a set stands for a character or names a class. -/
theorem spells_of_readSetEscape {item : SetItem}
    (h : readSetEscape start text = .ok (item, rest)) :
    (∃ c, item = .char c ∧ MemberSpells c ('\\' :: text) rest) ∨
      (∀ c, item ≠ .char c) ∧ item.Spells ('\\' :: text) rest := by
  unfold readSetEscape at h
  split at h
  · cases h
  · rename_i c tail
    split at h
    · rename_i kind negated hshorthand
      obtain ⟨rfl, rfl⟩ := Prod.mk.inj (Except.ok.inj h)
      rw [eq_letter_of_shorthand? hshorthand]
      cases negated with
      | false => exact .inr ⟨fun c h => SetItem.noConfusion h, .shorthand kind _⟩
      | true => exact .inr ⟨fun c h => SetItem.noConfusion h, .complement kind _⟩
    · split at h
      · cases h
      · obtain ⟨⟨decoded, rest'⟩, hread, h⟩ := bind_eq_ok_iff.1 h
        obtain ⟨rfl, rfl⟩ := Prod.mk.inj (Except.ok.inj h)
        exact .inl ⟨decoded, rfl, .escaped (escapeSpells_of_readEscapedChar hread)⟩

theorem spells_of_readSetAtom {c : Char} {item : SetItem} (hc : c ≠ ']')
    (h : readSetAtom (c :: text) = .ok (item, rest)) :
    (∃ d, item = .char d ∧ MemberSpells d (c :: text) rest) ∨
      (∀ d, item ≠ .char d) ∧ item.Spells (c :: text) rest := by
  unfold readSetAtom at h
  split at h
  · rename_i heq
    cases heq
  · rename_i tail heq
    obtain ⟨rfl, rfl⟩ := List.cons.inj heq
    exact spells_of_readSetEscape h
  · rename_i d tail hbackslash heq
    obtain ⟨rfl, rfl⟩ := List.cons.inj heq
    obtain ⟨rfl, rfl⟩ := Prod.mk.inj (Except.ok.inj h)
    exact .inl ⟨_, rfl, .plain _ hc fun hc => hbackslash hc⟩

/-- A range whose start is read ends as the grammar says. -/
theorem spells_of_readRangeEnd {first c : Char} {item : SetItem} {before : List Char}
    (hc : c ≠ ']') (hfirst : MemberSpells first before ('-' :: c :: text))
    (h : readRangeEnd first (c :: text) = .ok (item, rest)) : item.Spells before rest := by
  obtain ⟨⟨upper, rest'⟩, hread, h⟩ := bind_eq_ok_iff.1 h
  rcases spells_of_readSetAtom hc hread with ⟨last, rfl, hlast⟩ | ⟨hne, -⟩
  · simp only at h
    split at h
    · cases h
    · obtain ⟨rfl, rfl⟩ := Prod.mk.inj (Except.ok.inj h)
      exact .range hfirst hlast
  · split at h
    · rename_i heq
      exact absurd (Prod.mk.inj heq).1 (hne _)
    · cases h

/-- An item of a set that is read was written there. -/
theorem spells_of_readSetItem {c : Char} {item : SetItem} (hc : c ≠ ']')
    (h : readSetItem (c :: text) = .ok (item, rest)) : item.Spells (c :: text) rest := by
  obtain ⟨⟨atom, rest'⟩, hread, h⟩ := bind_eq_ok_iff.1 h
  rcases spells_of_readSetAtom hc hread with ⟨first, rfl, hfirst⟩ | ⟨hne, hatom⟩
  · split at h
    · rename_i heq
      cases heq
      split at h
      · rename_i hbracket
        cases h
        refine .char hfirst ?_
        rintro ⟨d, tail, hdash, hd⟩
        cases hdash
        exact hd hbracket
      · rename_i hbracket
        exact spells_of_readRangeEnd hbracket hfirst h
    · rename_i hdash heq
      obtain ⟨rfl, rfl⟩ := Prod.mk.inj (Except.ok.inj h)
      obtain ⟨rfl, rfl⟩ := Prod.mk.inj heq
      refine .char hfirst ?_
      rintro ⟨d, tail, rfl, -⟩
      exact hdash first d tail rfl rfl
  · split at h
    · rename_i heq
      exact absurd (Prod.mk.inj heq).1 (hne _)
    · rename_i heq
      obtain ⟨rfl, rfl⟩ := Prod.mk.inj (Except.ok.inj h)
      obtain ⟨rfl, rfl⟩ := Prod.mk.inj heq
      exact hatom

theorem itemsSpell_of_readSetItems {items : List SetItem}
    (h : readSetItems start text = .ok (items, rest)) : ItemsSpell items text rest := by
  fun_induction readSetItems start text generalizing items rest with
  | case1 => cases h
  | case2 tail =>
    obtain ⟨rfl, rfl⟩ := Prod.mk.inj (Except.ok.inj h)
    exact .nil _
  | case3 => cases h
  | case4 c tail hc item mid hitem ih =>
    obtain ⟨⟨items', rest'⟩, hitems, h⟩ := bind_eq_ok_iff.1 h
    obtain ⟨rfl, rfl⟩ := Prod.mk.inj (Except.ok.inj h)
    exact .cons (spells_of_readSetItem (fun hbracket => hc hbracket) hitem) (ih hitems)

theorem firstItemsSpell_of_readFirstItems {items : List SetItem}
    (h : readFirstItems start text = .ok (items, rest)) : FirstItemsSpell items text rest := by
  have hne := (normal_of_readFirstItems h).1
  unfold readFirstItems at h
  split at h
  · obtain ⟨⟨items', rest'⟩, hitems, h⟩ := bind_eq_ok_iff.1 h
    obtain ⟨rfl, rfl⟩ := Prod.mk.inj (Except.ok.inj h)
    exact .bracket (itemsSpell_of_readSetItems hitems)
  · exact .ordinary hne (itemsSpell_of_readSetItems h)

/-! ## Leaves -/

theorem spells_of_readSet {leaf : Leaf} (h : readSet start text = .ok (leaf, rest)) :
    leaf.Spells ('[' :: text) rest := by
  unfold readSet at h
  split at h
  · obtain ⟨⟨items, rest'⟩, hitems, h⟩ := bind_eq_ok_iff.1 h
    obtain ⟨rfl, rfl⟩ := Prod.mk.inj (Except.ok.inj h)
    exact .outside (firstItemsSpell_of_readFirstItems hitems)
  · rename_i hcaret
    obtain ⟨⟨items, rest'⟩, hitems, h⟩ := bind_eq_ok_iff.1 h
    obtain ⟨rfl, rfl⟩ := Prod.mk.inj (Except.ok.inj h)
    exact .set (firstItemsSpell_of_readFirstItems hitems) fun tail htext => hcaret tail htext

theorem spells_of_assertion? {letter : Char} {test : Assertion}
    (h : assertion? letter = some test) (rest : List Char) :
    (Leaf.assertion test).Spells ('\\' :: letter :: rest) rest := by
  unfold assertion? at h
  split at h
  · obtain rfl := Option.some.inj h
    exact .wordBoundary rest
  · obtain rfl := Option.some.inj h
    exact .notWordBoundary rest
  · obtain rfl := Option.some.inj h
    exact .textStart rest
  · obtain rfl := Option.some.inj h
    exact .textEnd rest (.inl rfl)
  · obtain rfl := Option.some.inj h
    exact .textEnd rest (.inr rfl)
  · cases h

theorem spells_of_readEscape {leaf : Leaf} (h : readEscape start text = .ok (leaf, rest)) :
    leaf.Spells ('\\' :: text) rest := by
  unfold readEscape at h
  split at h
  · cases h
  · rename_i c tail
    split at h
    · rename_i kind negated hshorthand
      obtain ⟨rfl, rfl⟩ := Prod.mk.inj (Except.ok.inj h)
      rw [eq_letter_of_shorthand? hshorthand]
      cases negated with
      | false => exact .shorthand kind _
      | true => exact .complement kind _
    · rename_i test _ hassertion
      obtain ⟨rfl, rfl⟩ := Prod.mk.inj (Except.ok.inj h)
      exact spells_of_assertion? hassertion _
    · split at h
      · cases h
      · obtain ⟨⟨decoded, rest'⟩, hread, h⟩ := bind_eq_ok_iff.1 h
        obtain ⟨rfl, rfl⟩ := Prod.mk.inj (Except.ok.inj h)
        exact .char (.escaped (escapeSpells_of_readEscapedChar hread))

end

/-! ## Quantifiers -/

section
variable {start text rest : List Char}

/-- No quantifier stands in front of a text exactly if none of the three marks does and a
brace starts no counted one. -/
theorem bounds?_cons_eq_none_iff {c : Char} :
    bounds? (c :: text) = .ok none ↔
      c ∉ ['*', '+', '?'] ∧ (c = '{' → ¬StartsCounted text) := by
  unfold bounds?
  split
  iterate 3
    · rename_i heq
      cases heq
      simp
  · rename_i hstar hplus hquestion
    have hmark : c ∉ ['*', '+', '?'] := by
      simp only [List.mem_cons, List.not_mem_nil, or_false]
      rintro (rfl | rfl | rfl)
      · exact hstar text rfl
      · exact hplus text rfl
      · exact hquestion text rfl
    rw [and_iff_right hmark]
    unfold counted?
    split
    · rename_i afterBrace heq
      obtain ⟨rfl, rfl⟩ := List.cons.inj heq
      cases hshape : readShape text with
      | none => simpa using readShape_eq_none_iff.1 hshape
      | some found =>
        obtain ⟨shape, rest⟩ := found
        have hcounted : StartsCounted text := by
          by_contra h
          rw [readShape_eq_none_iff.2 h] at hshape
          cases hshape
        refine iff_of_false (fun h => ?_) (fun h => h rfl hcounted)
        obtain ⟨bounds, -, h⟩ := bind_eq_ok_iff.1 h
        cases h
    · rename_i hbrace
      refine iff_of_true rfl ?_
      rintro rfl
      exact absurd rfl (hbrace text)

/-- A count that is read is the number its digits write. -/
theorem eq_of_readCount {digits : List Char} {count : Nat}
    (h : readCount start digits = .ok count) : Nat.ofDigitChars 10 digits 0 = count := by
  have hlimit : Engine.maxRepeat < maxCount := by decide
  have hle := le_of_readCount h
  unfold readCount at h
  split at h
  · cases h
  · rw [← Except.ok.inj h, countValue_eq] at hle ⊢
    omega

/-- The bounds that are read are the counts as written. -/
theorem Pattern.CountedShape.eq_of_bounds {s : CountedShape} {min : Nat} {max : Option Nat}
    (h : s.bounds start = .ok (min, max)) : min = s.minCount ∧ max = s.maxCount? := by
  obtain ⟨min', hmin, h⟩ := bind_eq_ok_iff.1 h
  obtain ⟨max', hmax, h⟩ := bind_eq_ok_iff.1 h
  have hbounds : min' = min ∧ max' = max := by
    split at h
    · split at h
      · cases h
      · exact Prod.mk.inj (Except.ok.inj h)
    · exact Prod.mk.inj (Except.ok.inj h)
  obtain ⟨rfl, rfl⟩ := hbounds
  have hminCount : min' = s.minCount := by
    unfold CountedShape.readMin at hmin
    split at hmin
    · rename_i hnil
      rw [← Except.ok.inj hmin, CountedShape.minCount, hnil]
      rfl
    · exact (eq_of_readCount hmin).symm
  refine ⟨hminCount, ?_⟩
  unfold CountedShape.readMax at hmax
  unfold CountedShape.maxCount?
  split at hmax
  · rename_i hcomma
    rw [if_pos hcomma, ← Except.ok.inj hmax, hminCount]
  · rename_i hcomma
    rw [if_neg hcomma]
    split at hmax
    · rename_i hnil
      rw [if_pos hnil, ← Except.ok.inj hmax]
    · rename_i hnil
      rw [if_neg hnil]
      cases hcount : readCount start s.maxDigits with
      | error e =>
        rw [hcount] at hmax
        cases hmax
      | ok count =>
        rw [hcount] at hmax
        rw [← Except.ok.inj hmax, eq_of_readCount hcount]

/-- The bounds that are read were written. -/
theorem boundsSpell_of_bounds? {min : Nat} {max : Option Nat}
    (h : bounds? text = .ok (some ((min, max), rest))) : BoundsSpell min max text rest := by
  unfold bounds? at h
  split at h
  · cases h
    exact .star _
  · cases h
    exact .plus _
  · cases h
    exact .optional _
  · unfold counted? at h
    split at h
    · rename_i afterBrace _ _ _
      split at h
      · cases h
      · rename_i shape rest' hshape
        obtain ⟨⟨min', max'⟩, hbounds, h⟩ := bind_eq_ok_iff.1 h
        cases h
        obtain ⟨hvalid, rfl⟩ := readShape_eq_some_iff.1 hshape
        obtain ⟨rfl, rfl⟩ := CountedShape.eq_of_bounds hbounds
        exact .counted hvalid _
    · cases h

end

/-- A part, alone or with the quantifier behind it, and no quantifier behind that. -/
inductive Quantified (part : Node) : Node → List Char → List Char → Prop where
  | alone {rest : List Char} (hrest : bounds? rest = .ok none) : Quantified part part rest rest
  | repeated {times : Quantifier} {text rest : List Char} (htimes : times.Normal)
      (hpart : part.isAssertion = false) (hspells : times.Spells text rest)
      (hrest : bounds? rest = .ok none) : Quantified part (.repetition part times) text rest

/-- The question mark of a lazy quantifier is passed over, and there is none behind a
greedy one. -/
theorem spells_of_boundsSpell {min : Nat} {max : Option Nat} {text rest : List Char}
    (h : BoundsSpell min max text rest) :
    (⟨min, max, isGreedy rest⟩ : Quantifier).Spells text (dropLazyMark rest) := by
  unfold isGreedy dropLazyMark
  split
  · exact .lazy h
  · exact .greedy h

/-- **Quantifiers are recognized exactly.** -/
theorem quantify_eq_ok_iff {part node : Node} {text rest : List Char} :
    quantify part text = .ok (node, rest) ↔ Quantified part node text rest := by
  constructor
  · intro h
    obtain ⟨bounds, hbounds, h⟩ := bind_eq_ok_iff.1 h
    split at h
    · cases h
      exact .alone hbounds
    · split at h
      · cases h
      · rename_i min max tail hassertion
        obtain ⟨again, hagain, h⟩ := bind_eq_ok_iff.1 h
        split at h
        · cases h
        · cases h
          exact .repeated (normal_of_bounds? hbounds _) (by simpa using hassertion)
            (spells_of_boundsSpell (boundsSpell_of_bounds? hbounds)) hagain
  · intro h
    cases h with
    | alone hrest => exact quantify_of_bounds?_eq_none hrest part
    | repeated htimes hpart hspells hrest => exact hspells.quantify htimes hrest hpart

/-! ## Leaves of a sequence -/

/-- A leaf that is read was written there. -/
theorem spells_of_readLeaf {c : Char} {leaf : Leaf} {text rest : List Char}
    (hbar : c ≠ '|') (hopen : c ≠ '(') (hclose : c ≠ ')')
    (h : readLeaf c text = .ok (leaf, rest)) : leaf.Spells (c :: text) rest := by
  unfold readLeaf at h
  split at h
  · exact spells_of_readSet h
  · cases h
    exact .dot _
  · cases h
    exact .caret _
  · cases h
    exact .dollar _
  · exact spells_of_readEscape h
  · rename_i hbracket hdot hcaret hdollar hbackslash
    obtain ⟨bounds, hbounds, h⟩ := bind_eq_ok_iff.1 h
    split at h
    · cases h
    · cases h
      obtain ⟨hmark, hbrace⟩ := bounds?_cons_eq_none_iff.1 hbounds
      refine .char (.plain ?_ hbrace)
      simp_all [specialChars]

end DeviceRegex
