import DeviceRegex.Pattern.Parse
import DeviceRegex.Proofs.Pattern.CountedQuantifier

/-!
# Where faults lie

Every reader leaves an end of its text to be read, or finds a fault inside the text from
where its item starts. No reader tells of an unpaired parenthesis: only the step that reads
a closing one without a group to close does.

## Main definitions

* `SyntaxFault.isUnpaired` — the faults of unpaired parentheses.
* `Confined start post x` — `x` answers what `post` says, or has a fault inside `start`.
* `Leaves text` — what a reader leaves is an end of the text.
-/
namespace DeviceRegex

/-- The fault is a parenthesis without its partner. -/
def SyntaxFault.isUnpaired : SyntaxFault → Bool
  | unmatchedClose | missingClose => true
  | nestedTooDeeply | unsupportedGroup _ | nothingToRepeat | multipleRepeat | repeatTooLarge _
  | repeatBoundsReversed | trailingBackslash | backreference | badEscape _ | incompleteHex
  | invalidCodePoint | missingBracket | rangeToClass | rangeReversed .. => false

namespace Pattern

/-- The answer is as `post` says, or a fault lies inside `start` and is none of unpaired
parentheses. -/
def Confined {α : Type} (start : List Char) (post : α → Prop) : Except SyntaxError α → Prop
  | .ok a => post a
  | .error e => e.rest <:+ start ∧ e.fault.isUnpaired = false

/-- What a reader leaves is an end of the text. -/
def Leaves {α : Type} (text : List Char) (found : α × List Char) : Prop := found.2 <:+ text

namespace Confined
variable {α β : Type} {start start' : List Char} {post post' : α → Prop}
  {x : Except SyntaxError α}

theorem bind {post' : β → Prop} {f : α → Except SyntaxError β} (h : Confined start post x)
    (hf : ∀ a, post a → Confined start post' (f a)) : Confined start post' (x >>= f) := by
  cases x with
  | error e => exact h
  | ok a => exact hf a h

/-- A fault lies inside every text that goes further back. -/
theorem mono (h : Confined start post x) (hstart : start <:+ start')
    (hpost : ∀ a, post a → post' a) : Confined start' post' x := by
  cases x with
  | error e => exact ⟨h.1.trans hstart, h.2⟩
  | ok a => exact hpost a h

theorem fault {rest : List Char} {fault : SyntaxFault} (hrest : rest <:+ start)
    (hpaired : fault.isUnpaired = false) : Confined start post (faultAt rest fault) :=
  ⟨hrest, hpaired⟩

end Confined

/-! ## Escapes -/

section
variable {start text : List Char}

theorem confined_readHex (start : List Char) (value count : Nat) (text : List Char) :
    Confined start (Leaves text) (readHex start value count text) := by
  fun_induction readHex start value count text with
  | case1 => exact List.suffix_refl _
  | case2 => exact .fault (List.suffix_refl _) rfl
  | case3 _ _ c _ _ _ ih =>
    exact ih.mono (List.suffix_refl _) fun _ h => h.trans (List.suffix_cons c _)
  | case4 => exact .fault (List.suffix_refl _) rfl

theorem readOctal_suffix (value count : Nat) (text : List Char) :
    (readOctal value count text).2 <:+ text := by
  fun_induction readOctal value count text with
  | case1 | case2 | case4 => exact List.suffix_refl _
  | case3 _ _ c _ _ _ ih => exact ih.trans (List.suffix_cons c _)

theorem confined_readCodePoint (start : List Char) (count : Nat) (text : List Char) :
    Confined start (Leaves text) (readCodePoint start count text) := by
  refine (confined_readHex start 0 count text).bind ?_
  rintro ⟨value, rest⟩ hrest
  simp only
  split
  · exact hrest
  · exact .fault (List.suffix_refl _) rfl

theorem confined_readEscapedChar (inSet : Bool) (start text : List Char) :
    Confined start (Leaves text) (readEscapedChar inSet start text) := by
  unfold readEscapedChar
  split
  · exact .fault (List.suffix_refl _) rfl
  · rename_i c tail
    have htail : tail <:+ c :: tail := List.suffix_cons c tail
    split
    · exact htail
    split
    · exact (readOctal_suffix 0 2 tail).trans htail
    split
    · exact (confined_readCodePoint start 2 tail).mono (List.suffix_refl _) fun _ h => h.trans htail
    split
    · exact (confined_readCodePoint start 4 tail).mono (List.suffix_refl _) fun _ h => h.trans htail
    split
    · exact .fault (List.suffix_refl _) rfl
    · exact htail

theorem confined_readEscape (start text : List Char) :
    Confined start (Leaves text) (readEscape start text) := by
  unfold readEscape
  split
  · exact .fault (List.suffix_refl _) rfl
  · rename_i c tail
    split
    · exact List.suffix_cons c tail
    · exact List.suffix_cons c tail
    · split
      · exact .fault (List.suffix_refl _) rfl
      · exact (confined_readEscapedChar false start (c :: tail)).bind fun _ h => h

theorem confined_readSetEscape (start text : List Char) :
    Confined start (Leaves text) (readSetEscape start text) := by
  unfold readSetEscape
  split
  · exact .fault (List.suffix_refl _) rfl
  · rename_i c tail
    split
    · exact List.suffix_cons c tail
    · split
      · exact .fault (List.suffix_refl _) rfl
      · exact (confined_readEscapedChar true start (c :: tail)).bind fun _ h => h

/-! ## Sets -/

theorem confined_readSetAtom (text : List Char) :
    Confined text (Leaves text) (readSetAtom text) := by
  unfold readSetAtom
  split
  · exact .fault (List.suffix_refl _) rfl
  · rename_i tail
    exact (confined_readSetEscape _ tail).mono (List.suffix_refl _) fun _ h =>
      h.trans (List.suffix_cons _ tail)
  · exact List.suffix_cons _ _

theorem confined_readRangeEnd (first : Char) (afterDash : List Char) :
    Confined ('-' :: afterDash) (Leaves afterDash) (readRangeEnd first afterDash) := by
  have hatom : Confined ('-' :: afterDash) (Leaves afterDash) (readSetAtom afterDash) :=
    (confined_readSetAtom afterDash).mono (List.suffix_cons _ _) fun _ h => h
  refine hatom.bind ?_
  rintro ⟨item, rest⟩ hrest
  split
  · rename_i heq
    cases heq
    split
    · exact .fault (List.suffix_refl _) rfl
    · exact hrest
  · exact .fault (List.suffix_refl _) rfl

theorem confined_readSetItem (text : List Char) :
    Confined text (Leaves text) (readSetItem text) := by
  refine (confined_readSetAtom text).bind ?_
  rintro ⟨item, rest⟩ hrest
  split
  · rename_i first c tail heq
    cases heq
    split
    · exact hrest
    · exact (confined_readRangeEnd first (c :: tail)).mono hrest fun _ h =>
        h.trans ((List.suffix_cons _ _).trans hrest)
  · rename_i heq
    cases heq
    exact hrest

theorem confined_readSetItems (htext : text <:+ start) :
    Confined start (Leaves text) (readSetItems start text) := by
  fun_induction readSetItems start text with
  | case1 => exact .fault (List.suffix_refl _) rfl
  | case2 tail => exact List.suffix_cons _ _
  | case3 c tail _ e hitem =>
    have h := confined_readSetItem (c :: tail)
    rw [hitem] at h
    exact ⟨h.1.trans htext, h.2⟩
  | case4 c tail _ item rest hitem ih =>
    have h := confined_readSetItem (c :: tail)
    rw [hitem] at h
    have hrest : rest <:+ c :: tail := h
    exact (ih (hrest.trans htext)).bind fun _ h => h.trans hrest

theorem confined_readFirstItems (htext : text <:+ start) :
    Confined start (Leaves text) (readFirstItems start text) := by
  unfold readFirstItems
  split
  · rename_i tail
    have htail : tail <:+ ']' :: tail := List.suffix_cons _ tail
    exact (confined_readSetItems (htail.trans htext)).bind fun _ h => h.trans htail
  · exact confined_readSetItems htext

theorem confined_readSet (htext : text <:+ start) :
    Confined start (Leaves text) (readSet start text) := by
  unfold readSet
  split
  · rename_i tail
    have htail : tail <:+ '^' :: tail := List.suffix_cons _ tail
    exact (confined_readFirstItems (htail.trans htext)).bind fun _ h => h.trans htail
  · exact (confined_readFirstItems htext).bind fun _ h => h

/-! ## Quantifiers -/

theorem confined_readCount (start digits : List Char) :
    Confined start (fun _ => True) (readCount start digits) := by
  unfold readCount
  split
  · exact .fault (List.suffix_refl _) rfl
  · trivial

theorem CountedShape.confined_bounds (start : List Char) (s : CountedShape) :
    Confined start (fun _ => True) (s.bounds start) := by
  have hmin : Confined start (fun _ => True) (s.readMin start) := by
    unfold readMin
    split
    · trivial
    · exact confined_readCount start _
  have hmax (min : Nat) : Confined start (fun _ => True) (s.readMax start min) := by
    unfold readMax
    split
    · trivial
    split
    · trivial
    · exact (confined_readCount start s.maxDigits).bind fun _ _ => trivial
  refine hmin.bind fun min _ => (hmax min).bind fun max _ => ?_
  split
  · split
    · exact .fault (List.suffix_refl _) rfl
    · trivial
  · trivial

/-- What is left behind the bounds of a quantifier, where there is one. -/
theorem confined_bounds? (text : List Char) :
    Confined text (fun found => ∀ bounds rest, found = some (bounds, rest) → rest <:+ text)
      (bounds? text) := by
  unfold bounds?
  split
  iterate 3
    · rintro bounds rest ⟨⟩
      exact List.suffix_cons _ _
  · unfold counted?
    split
    · rename_i afterBrace _ _ _
      split
      · intro bounds rest h
        cases h
      · rename_i shape tail hshape
        obtain ⟨-, rfl⟩ := readShape_eq_some_iff.1 hshape
        refine (CountedShape.confined_bounds _ shape).bind fun _ _ => ?_
        rintro bounds rest ⟨⟩
        exact (List.suffix_append shape.text tail).trans (List.suffix_cons _ _)
    · intro bounds rest h
      cases h

theorem dropLazyMark_suffix (text : List Char) : dropLazyMark text <:+ text := by
  unfold dropLazyMark
  split
  · exact List.suffix_cons _ _
  · exact List.suffix_refl _

theorem confined_quantify (part : Node) (text : List Char) :
    Confined text (Leaves text) (quantify part text) := by
  refine (confined_bounds? text).bind ?_
  intro found hfound
  split
  · exact List.suffix_refl _
  · rename_i min max rest
    have hrest : dropLazyMark rest <:+ text :=
      (dropLazyMark_suffix rest).trans (hfound _ _ rfl)
    split
    · exact .fault (List.suffix_refl _) rfl
    · refine ((confined_bounds? (dropLazyMark rest)).mono hrest fun _ h => h).bind ?_
      intro again _
      split
      · exact .fault hrest rfl
      · exact hrest

/-! ## Elements -/

theorem confined_readLeaf (c : Char) (text : List Char) :
    Confined (c :: text) (Leaves text) (readLeaf c text) := by
  have htext : text <:+ c :: text := List.suffix_cons c text
  unfold readLeaf
  split
  · exact confined_readSet htext
  · exact List.suffix_refl _
  · exact List.suffix_refl _
  · exact List.suffix_refl _
  · exact confined_readEscape _ text
  · refine (confined_bounds? (c :: text)).bind fun found _ => ?_
    split
    · exact .fault (List.suffix_refl _) rfl
    · exact List.suffix_refl _

namespace State
variable {mode : CaptureMode} {st : State} {c : Char}

theorem confined_openGroup (mode : CaptureMode) (st : State) (text : List Char) :
    Confined ('(' :: text) (Leaves text) (st.openGroup mode text) := by
  simp only [openGroup]
  split
  · exact .fault (List.suffix_refl _) rfl
  · split
    · exact (List.suffix_cons _ _).trans (List.suffix_cons _ _)
    · exact .fault (List.suffix_refl _) rfl
    · cases mode <;> exact List.suffix_refl _

theorem confined_readPart (st : State) (c : Char) (text : List Char) :
    Confined (c :: text) (Leaves text) (st.readPart c text) := by
  refine (confined_readLeaf c text).bind ?_
  rintro ⟨leaf, mid⟩ hmid
  have hstart : mid <:+ c :: text := hmid.trans (List.suffix_cons c text)
  exact ((confined_quantify (.leaf leaf) mid).mono hstart fun _ h => h).bind fun _ h => h.trans hmid

theorem confined_closeGroup {group : OpenGroup} {stack : List OpenGroup}
    (hstack : st.stack = group :: stack) (text : List Char) :
    Confined (')' :: text) (Leaves text) (st.closeGroup text) := by
  unfold closeGroup
  rw [hstack]
  have hquantify : Confined (')' :: text) (Leaves text)
      (quantify (.group group.index st.current.close) text) :=
    (confined_quantify _ text).mono (List.suffix_cons _ text) fun _ h => h
  exact hquantify.bind fun _ h => h

/-- A step that fails finds a closing parenthesis without a group to close, or another
fault inside the text. -/
theorem step_eq_error {e : SyntaxError} (h : st.step mode c text = .error e) :
    (c = ')' ∧ st.stack = [] ∧ e = ⟨.unmatchedClose, c :: text⟩) ∨
      (e.rest <:+ c :: text ∧ e.fault.isUnpaired = false) := by
  unfold step at h
  split at h
  · cases h
  · have hopen := confined_openGroup mode st text
    rw [h] at hopen
    exact .inr hopen
  · cases hstack : st.stack with
    | nil =>
      unfold closeGroup at h
      rw [hstack] at h
      exact .inl ⟨rfl, rfl, (Except.error.inj h).symm⟩
    | cons group stack =>
      have hclose := confined_closeGroup hstack text
      rw [h] at hclose
      exact .inr hclose
  · have hpart := confined_readPart st c text
    rw [h] at hpart
    exact .inr hpart

end State

end
end Pattern
end DeviceRegex
