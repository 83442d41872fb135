import DeviceRegex.Charset.Basic
import DeviceRegex.Pattern.EscapeSequence
import DeviceRegex.Proofs.Text.Unescape

/-!
# Sets in listings

The items of a set stand side by side in a listing. Characters and classes are read back
one after the other, but a range looks like its ends with a dash between them. So the text
of a set tells its items up to ranges that are written out, and it tells the items
themselves where no item starts at a dash.

## Main definitions

* `SetItem.sideBySide` — the texts of items without a separator.
* `SetItem.writtenOut`, `Charset.writtenOut` — the items with every range written out as
  three characters.
* `SetItem.readListed?` — the item whose text stands at the front of a listing.
* `Charset.NoDashStart` — no item of the set starts at a dash.
-/
namespace DeviceRegex

namespace SetItem

/-- The item has a first and a last character. -/
def isRange : SetItem → Bool
  | range .. => true
  | char _ | shorthand _ | complement _ => false

/-- The item is a dash, or a range from the dash on. -/
def startsAtDash : SetItem → Bool
  | char c => c == '-'
  | range first _ => first == '-'
  | shorthand _ | complement _ => false

/-- The texts of items, one behind the other. -/
def sideBySide (items : List SetItem) : List Char := items.flatMap fun item => item.text.toList

@[simp] theorem sideBySide_nil : sideBySide [] = [] := rfl

@[simp] theorem sideBySide_cons (item : SetItem) (items : List SetItem) :
    sideBySide (item :: items) = item.text.toList ++ sideBySide items := List.flatMap_cons

@[simp] theorem sideBySide_append (items items' : List SetItem) :
    sideBySide (items ++ items') = sideBySide items ++ sideBySide items' := List.flatMap_append

/-! ## Ranges written out -/

/-- What an item looks like in a listing: a range looks like three characters, the one in
the middle a dash. -/
def writtenOut : SetItem → List SetItem
  | range first last => [char first, char '-', char last]
  | item => [item]

theorem isRange_of_mem_writtenOut {item part : SetItem} (h : part ∈ item.writtenOut) :
    part.isRange = false := by
  cases item with
  | range first last =>
    simp only [writtenOut, List.mem_cons, List.not_mem_nil, or_false] at h
    rcases h with rfl | rfl | rfl <;> rfl
  | char c | shorthand kind | complement kind =>
    obtain rfl := List.mem_singleton.1 h
    rfl

theorem sideBySide_writtenOut (item : SetItem) :
    sideBySide item.writtenOut = item.text.toList := by
  cases item with
  | range first last =>
    have hdash : Text.escape '-' = "-" := by decide +kernel
    simp [writtenOut, text, hdash]
  | char c | shorthand kind | complement kind => simp [writtenOut]

theorem sideBySide_flatMap_writtenOut (items : List SetItem) :
    sideBySide (items.flatMap writtenOut) = sideBySide items := by
  induction items with
  | nil => rfl
  | cons item items ih =>
    rw [List.flatMap_cons, sideBySide_append, sideBySide_writtenOut, ih, sideBySide_cons]

theorem flatMap_writtenOut_ne_dash {items : List SetItem}
    (h : ∀ item ∈ items, item.startsAtDash = false) (rest : List SetItem) :
    items.flatMap writtenOut ≠ char '-' :: rest := by
  cases items with
  | nil => simp
  | cons item items =>
    have hitem := h item List.mem_cons_self
    cases item with
    | char c | range c last =>
      have hc : c ≠ '-' := by simpa [startsAtDash] using hitem
      simp [writtenOut, hc]
    | shorthand kind | complement kind => simp [writtenOut]

/-- Where no item starts at a dash, a dash behind a character belongs to a range. -/
theorem eq_of_flatMap_writtenOut_eq {items items' : List SetItem}
    (h : ∀ item ∈ items, item.startsAtDash = false)
    (h' : ∀ item ∈ items', item.startsAtDash = false)
    (heq : items.flatMap writtenOut = items'.flatMap writtenOut) : items = items' := by
  induction items generalizing items' with
  | nil =>
    cases items' with
    | nil => rfl
    | cons item' items' => cases item' <;> cases heq
  | cons item items ih =>
    rw [List.forall_mem_cons] at h
    cases items' with
    | nil => cases item <;> cases heq
    | cons item' items' =>
      rw [List.forall_mem_cons] at h'
      have hnot := flatMap_writtenOut_ne_dash h.2
      have hnot' := flatMap_writtenOut_ne_dash h'.2
      cases item <;> cases item' <;> simp [writtenOut] at heq
      case char.char | shorthand.shorthand | complement.complement =>
        obtain ⟨rfl, heq⟩ := heq
        rw [ih h.2 h'.2 heq]
      case char.range => exact absurd heq.2 (hnot _)
      case range.char => exact absurd heq.2.symm (hnot' _)
      case range.range =>
        obtain ⟨rfl, rfl, heq⟩ := heq
        rw [ih h.2 h'.2 heq]

/-! ## Reading a listing -/

/-- The item, other than a range, whose text stands at the front of a listing, and what
stands behind it. -/
def readListed? (listing : List Char) : Option (SetItem × List Char) :=
  match Text.unescape? listing, listing with
  | some (c, rest), _ => some (char c, rest)
  | none, '\\' :: letter :: rest => do
    let (kind, negated) ← Pattern.shorthand? letter
    return (if negated then complement kind else shorthand kind, rest)
  | none, _ => none

theorem readListed?_text_append {item : SetItem} (h : item.isRange = false) (rest : List Char) :
    readListed? (item.text.toList ++ rest) = some (item, rest) := by
  cases item with
  | char c => simp [readListed?, text, Text.unescape?_escape_append]
  | range first last => cases h
  | shorthand kind => cases kind <;> rfl
  | complement kind => cases kind <;> rfl

/-- Items other than ranges are told apart where they stand side by side. -/
theorem eq_of_sideBySide_eq {items items' : List SetItem}
    (h : ∀ item ∈ items, item.isRange = false) (h' : ∀ item ∈ items', item.isRange = false)
    (heq : sideBySide items = sideBySide items') : items = items' := by
  induction items generalizing items' with
  | nil =>
    cases items' with
    | nil => rfl
    | cons item' items' =>
      have hread := readListed?_text_append (h' item' List.mem_cons_self) (sideBySide items')
      rw [← sideBySide_cons, ← heq] at hread
      cases hread
  | cons item items ih =>
    have hread := readListed?_text_append (h item List.mem_cons_self) (sideBySide items)
    rw [← sideBySide_cons, heq] at hread
    cases items' with
    | nil => cases hread
    | cons item' items' =>
      rw [sideBySide_cons, readListed?_text_append (h' item' List.mem_cons_self)] at hread
      obtain ⟨rfl, hrest⟩ := Prod.mk.inj (Option.some.inj hread)
      rw [ih (fun i hi => h i (List.mem_cons_of_mem _ hi))
        (fun i hi => h' i (List.mem_cons_of_mem _ hi)) hrest.symm]

end SetItem

namespace Charset

/-- The items of a set with every range written out. -/
def writtenOut (s : Charset) : List SetItem := s.items.flatMap SetItem.writtenOut

/-- No item of the set starts at a dash. -/
def NoDashStart (s : Charset) : Prop := ∀ item ∈ s.items, item.startsAtDash = false

theorem isRange_of_mem_writtenOut {s : Charset} {part : SetItem} (h : part ∈ s.writtenOut) :
    part.isRange = false := by
  obtain ⟨item, -, hpart⟩ := List.mem_flatMap.1 h
  exact SetItem.isRange_of_mem_writtenOut hpart

theorem toList_text (s : Charset) :
    s.text.toList = '[' :: (SetItem.sideBySide s.items ++ [']']) := by
  simp [text, SetItem.sideBySide, List.flatMap, Function.comp_def]

/-- **Sets look alike up to ranges that are written out.** Two sets have the same text
exactly if their items are the same once every range is written out. -/
theorem text_eq_iff {s t : Charset} : s.text = t.text ↔ s.writtenOut = t.writtenOut := by
  have hshow (u : Charset) : SetItem.sideBySide u.writtenOut = SetItem.sideBySide u.items :=
    SetItem.sideBySide_flatMap_writtenOut u.items
  constructor
  · intro h
    have hlist := congrArg String.toList h
    rw [toList_text, toList_text, List.cons.injEq, List.append_left_inj, ← hshow, ← hshow] at hlist
    exact SetItem.eq_of_sideBySide_eq (fun _ => isRange_of_mem_writtenOut)
      (fun _ => isRange_of_mem_writtenOut) hlist.2
  · intro h
    rw [← String.toList_inj, toList_text, toList_text, ← hshow, ← hshow, h]

end Charset
end DeviceRegex
