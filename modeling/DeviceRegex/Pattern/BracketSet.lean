import DeviceRegex.Pattern.EscapeSequence

/-!
# Sets in patterns

A set stands in brackets: single characters, escapes, and ranges with a dash between
their ends. A caret after the opening bracket asks for the characters outside the
set. A closing bracket in first position is an ordinary character that starts no
range, and a dash before the closing bracket is an ordinary character.
-/
namespace DeviceRegex.Pattern

/-- Read one character or escape of a set. -/
def readSetAtom : Reader SetItem
  | [] => faultAt [] .missingBracket
  | '\\' :: rest => readSetEscape ('\\' :: rest) rest
  | c :: rest => .ok (.char c, rest)

/-- Complete a range of which `first` is read, from the text after its dash. Faults of
the range as a whole lie at the dash. -/
def readRangeEnd (first : Char) (afterDash : List Char) :
    Except SyntaxError (SetItem × List Char) := do
  match ← readSetAtom afterDash with
  | (.char last, rest) =>
    if last < first then faultAt ('-' :: afterDash) (.rangeReversed first last)
    else return (.range first last, rest)
  | _ => faultAt ('-' :: afterDash) .rangeToClass

/-- Read one item of a set: a range, or a single character or class. -/
def readSetItem : Reader SetItem := fun text => do
  match ← readSetAtom text with
  | (.char first, '-' :: c :: rest) =>
    if c = ']' then return (.char first, '-' :: c :: rest) else readRangeEnd first (c :: rest)
  | (item, rest) => return (item, rest)

theorem readSetAtom_length_lt {text rest : List Char} {item : SetItem}
    (h : readSetAtom text = .ok (item, rest)) : rest.length < text.length := by
  unfold readSetAtom at h
  split at h
  · simp at h
  · have := readSetEscape_length_lt h
    simp; omega
  · simp_all

theorem readRangeEnd_length_lt {first : Char} {text rest : List Char} {item : SetItem}
    (h : readRangeEnd first text = .ok (item, rest)) : rest.length < text.length := by
  obtain ⟨⟨item', rest'⟩, hr, h⟩ := bind_eq_ok_iff.1 h
  have := readSetAtom_length_lt hr
  split at h
  · split at h
    · simp at h
    · simp_all [pure, Except.pure]
  · simp at h

theorem readSetItem_length_lt {text rest : List Char} {item : SetItem}
    (h : readSetItem text = .ok (item, rest)) : rest.length < text.length := by
  obtain ⟨⟨item', rest'⟩, hr, h⟩ := bind_eq_ok_iff.1 h
  have := readSetAtom_length_lt hr
  split at h
  · split at h
    · simp_all [pure, Except.pure]
    · have := readRangeEnd_length_lt h
      simp_all
      omega
  · simp_all [pure, Except.pure]

/-- Read the items of a set up to its closing bracket. `opening` is the text from the
bracket that opens the set. -/
def readSetItems (opening text : List Char) : Except SyntaxError (List SetItem × List Char) :=
  match text with
  | [] => faultAt opening .missingBracket
  | ']' :: rest => .ok ([], rest)
  | c :: rest =>
    match _h : readSetItem (c :: rest) with
    | .error e => .error e
    | .ok (item, rest) => do
      let (items, rest) ← readSetItems opening rest
      return (item :: items, rest)
termination_by text.length
decreasing_by exact readSetItem_length_lt _h

/-- Read the items of a set whose opening is read. A closing bracket that comes first
is an ordinary character. -/
def readFirstItems (opening : List Char) : Reader (List SetItem)
  | ']' :: rest => do
    let (items, rest) ← readSetItems opening rest
    return (.char ']' :: items, rest)
  | text => readSetItems opening text

/-- Read a set from the text after its opening bracket. -/
def readSet (opening : List Char) : Reader Leaf
  | '^' :: rest => do
    let (items, rest) ← readFirstItems opening rest
    return (.set items true, rest)
  | text => do
    let (items, rest) ← readFirstItems opening text
    return (.set items false, rest)

theorem readSetItems_length_lt {opening text rest : List Char} {items : List SetItem}
    (h : readSetItems opening text = .ok (items, rest)) : rest.length < text.length := by
  fun_induction readSetItems opening text generalizing items with
  | case1 => simp at h
  | case2 => simp_all
  | case3 => simp at h
  | case4 c tail _ item rest' hr ih =>
    obtain ⟨⟨items', rest''⟩, hi, h⟩ := bind_eq_ok_iff.1 h
    simp only [pure, Except.pure, Except.ok.injEq, Prod.mk.injEq] at h
    have := ih (by rw [hi, h.2])
    have := readSetItem_length_lt hr
    omega

theorem readFirstItems_length_lt {opening text rest : List Char} {items : List SetItem}
    (h : readFirstItems opening text = .ok (items, rest)) : rest.length < text.length := by
  unfold readFirstItems at h
  split at h
  · obtain ⟨⟨items', rest'⟩, hr, h⟩ := bind_eq_ok_iff.1 h
    have := readSetItems_length_lt hr
    simp_all [pure, Except.pure]
    omega
  · exact readSetItems_length_lt h

theorem readSet_length_lt {opening text rest : List Char} {leaf : Leaf}
    (h : readSet opening text = .ok (leaf, rest)) : rest.length < text.length := by
  unfold readSet at h
  split at h <;>
  · obtain ⟨⟨items, rest'⟩, hr, h⟩ := bind_eq_ok_iff.1 h
    have := readFirstItems_length_lt hr
    simp_all [pure, Except.pure] <;> omega

end DeviceRegex.Pattern
