import DeviceRegex.Proofs.Pattern.Written

/-!
# How far reading looks ahead

Where an element of a pattern ends may depend on the text behind it: octal digits, a
counted quantifier and the end of a range are looked for there. None of them reaches past
the end of a branch: what is written in front of a bar, of a closing parenthesis or of the
end of the pattern is written there as well if the text goes on in another of these ways.

## Main definitions

* `EndsBranch`, `EndsSet` — the text behind a branch, and behind the items of a set.
* `Alike stops text text'` — the texts agree up to a place where both of them stop.
* `Stable stops R text rest` — the front of the text is related to what is behind it, and
  would be if that were another text alike.
-/
namespace DeviceRegex

open Pattern

/-- Nothing follows, or a bar or a closing parenthesis. -/
def EndsBranch (text : List Char) : Prop := ∀ c tail, text = c :: tail → c = '|' ∨ c = ')'

/-- A closing bracket follows. -/
def EndsSet (text : List Char) : Prop := ∃ tail, text = ']' :: tail

theorem EndsBranch.nil : EndsBranch [] := by
  intro c tail h
  cases h

theorem EndsBranch.bar (tail : List Char) : EndsBranch ('|' :: tail) := by
  rintro c _ ⟨⟩
  exact .inl rfl

theorem EndsBranch.close (tail : List Char) : EndsBranch (')' :: tail) := by
  rintro c _ ⟨⟩
  exact .inr rfl

/-- The texts agree up to a place where both of them stop. -/
inductive Alike (stops : List Char → Prop) : List Char → List Char → Prop where
  | stop {text text' : List Char} (h : stops text) (h' : stops text') : Alike stops text text'
  | cons (c : Char) {text text' : List Char} (h : Alike stops text text') :
      Alike stops (c :: text) (c :: text')

theorem Alike.append {stops : List Char → Prop} {text text' : List Char}
    (h : Alike stops text text') (front : List Char) :
    Alike stops (front ++ text) (front ++ text') := by
  induction front with
  | nil => exact h
  | cons c front ih => exact .cons c ih

/-- `R` relates the text to its part behind a front, and does so with any other text
behind that front that is alike. -/
def Stable (stops : List Char → Prop) (R : List Char → List Char → Prop)
    (text rest : List Char) : Prop :=
  ∃ front, text = front ++ rest ∧ ∀ rest', Alike stops rest rest' → R (front ++ rest') rest'

namespace Stable
variable {stops : List Char → Prop} {R R' R'' : List Char → List Char → Prop}
  {text mid rest : List Char}

/-- What does not depend on the text behind at all is stable. -/
theorem of_front (front : List Char) (h : ∀ rest', R (front ++ rest') rest') :
    Stable stops R (front ++ rest) rest := ⟨front, rfl, fun rest' _ => h rest'⟩

theorem imp (h : Stable stops R text rest) (himp : ∀ {text rest}, R text rest → R' text rest) :
    Stable stops R' text rest := by
  obtain ⟨front, rfl, h⟩ := h
  exact ⟨front, rfl, fun rest' halike => himp (h rest' halike)⟩

theorem trans (h : Stable stops R text mid) (h' : Stable stops R' mid rest)
    (hcomp : ∀ {text mid rest}, R text mid → R' mid rest → R'' text rest) :
    Stable stops R'' text rest := by
  obtain ⟨front, rfl, h⟩ := h
  obtain ⟨front', rfl, h'⟩ := h'
  refine ⟨front ++ front', (List.append_assoc ..).symm, fun rest' halike => ?_⟩
  rw [List.append_assoc]
  exact hcomp (h _ (halike.append front')) (h' rest' halike)

/-- A character in front belongs to the front. -/
theorem cons (c : Char) (h : Stable stops R text rest)
    (hcons : ∀ {text rest}, R text rest → R' (c :: text) rest) :
    Stable stops R' (c :: text) rest := by
  obtain ⟨front, rfl, h⟩ := h
  exact ⟨c :: front, rfl, fun rest' halike => hcons (h rest' halike)⟩

/-- A character behind the front may be added to it. -/
theorem pass {c : Char} (h : Stable stops R text (c :: rest))
    (hpass : ∀ {text rest}, R text (c :: rest) → R' text rest) : Stable stops R' text rest := by
  obtain ⟨front, rfl, h⟩ := h
  refine ⟨front ++ [c], by simp, fun rest' halike => ?_⟩
  rw [List.append_assoc]
  exact hpass (h _ (.cons c halike))

end Stable

/-! ## What is looked for -/

section
variable {stops : List Char → Prop} {text text' : List Char}

theorem EndsBranch.not_startsOctal (h : EndsBranch text) : ¬StartsOctal text := by
  rintro ⟨c, tail, heq, hc⟩
  rcases h c tail heq with rfl | rfl <;> exact absurd hc (by decide)

theorem EndsSet.not_startsOctal (h : EndsSet text) : ¬StartsOctal text := by
  obtain ⟨tail, rfl⟩ := h
  exact fun hoctal => absurd (startsOctal_cons_iff.1 hoctal) (by decide)

theorem Alike.not_startsOctal (h : Alike stops text text')
    (hstops : ∀ {text}, stops text → ¬StartsOctal text) (hnot : ¬StartsOctal text) :
    ¬StartsOctal text' := by
  cases h with
  | stop _ h' => exact hstops h'
  | cons c =>
    rw [startsOctal_cons_iff] at hnot ⊢
    exact hnot

/-- A counted quantifier has neither a bar nor a parenthesis in it. -/
theorem Pattern.CountedShape.ne_of_mem_text {s : CountedShape} (hs : s.Valid) {c : Char}
    (hc : c ∈ s.text) : c ≠ '|' ∧ c ≠ ')' := by
  have hdigit (h : c.isDigit) : c ≠ '|' ∧ c ≠ ')' := by
    constructor <;> rintro rfl <;> exact absurd h (by decide)
  have hmax (h : c ∈ s.maxDigits) := hdigit (hs.max_digits c h)
  simp only [CountedShape.text, List.mem_append, List.mem_singleton] at hc
  rcases hc with (hc | hc) | rfl
  · exact hdigit (hs.min_digits c hc)
  · split at hc
    · rcases List.mem_cons.1 hc with rfl | hc
      · decide
      · exact hmax hc
    · cases hc
  · decide

/-- What stands in front and has no end of a branch in it stands in front of a text
alike. -/
theorem Alike.startsWith {front : List Char} (h : Alike EndsBranch text text')
    (hfront : ∀ c ∈ front, c ≠ '|' ∧ c ≠ ')') (hstarts : front <+: text) : front <+: text' := by
  induction h generalizing front with
  | stop h =>
    cases front with
    | nil => exact List.nil_prefix
    | cons c front =>
      obtain ⟨tail, rfl⟩ := hstarts
      obtain ⟨hbar, hclose⟩ := hfront c List.mem_cons_self
      rcases h c (front ++ tail) rfl with rfl | rfl
      · exact absurd rfl hbar
      · exact absurd rfl hclose
  | cons c _ ih =>
    cases front with
    | nil => exact List.nil_prefix
    | cons d front =>
      rw [List.cons_prefix_cons] at hstarts ⊢
      exact ⟨hstarts.1, ih (fun c hc => hfront c (List.mem_cons_of_mem _ hc)) hstarts.2⟩

theorem Alike.symm (h : Alike stops text text') : Alike stops text' text := by
  induction h with
  | stop h h' => exact .stop h' h
  | cons c _ ih => exact .cons c ih

theorem Alike.not_startsCounted (h : Alike EndsBranch text text') (hnot : ¬StartsCounted text) :
    ¬StartsCounted text' := by
  rintro ⟨s, hs, hstarts⟩
  exact hnot ⟨s, hs, h.symm.startsWith (fun c hc => s.ne_of_mem_text hs hc) hstarts⟩

theorem EndsBranch.bounds?_eq_none (h : EndsBranch text) : bounds? text = .ok none := by
  cases text with
  | nil => rfl
  | cons c tail => rcases h c tail rfl with rfl | rfl <;> rfl

theorem Alike.bounds?_eq_none (h : Alike EndsBranch text text') (hnone : bounds? text = .ok none) :
    bounds? text' = .ok none := by
  cases h with
  | stop _ h' => exact h'.bounds?_eq_none
  | cons c h =>
    rw [bounds?_cons_eq_none_iff] at hnone ⊢
    exact ⟨hnone.1, fun hc => h.not_startsCounted (hnone.2 hc)⟩

/-- Inside a set, a dash is followed by the end of a range or not as before. -/
theorem Alike.not_startsRangeEnd (h : Alike EndsSet text text') (hnot : ¬StartsRangeEnd text) :
    ¬StartsRangeEnd text' := by
  rintro ⟨c, tail, rfl, hc⟩
  cases h with
  | stop _ h' =>
    obtain ⟨_, heq⟩ := h'
    cases heq
  | cons _ h =>
    cases h with
    | stop _ h' =>
      obtain ⟨_, heq⟩ := h'
      cases heq
      exact hc rfl
    | cons => exact hnot ⟨c, _, rfl, hc⟩

end

/-! ## Characters -/

section
variable {stops : List Char → Prop} {c : Char} {text rest : List Char}

theorem EscapeSpells.stable {inSet : Bool} (h : EscapeSpells inSet c text rest)
    (hstops : ∀ {text}, stops text → ¬StartsOctal text) :
    Stable stops (EscapeSpells inSet c) text rest := by
  cases h with
  | @control letter _ _ h => exact .of_front [letter] fun rest' => .control rest' h
  | backspace _ h => exact .of_front ['b'] fun rest' => .backspace rest' h
  | zero h =>
    exact ⟨['0'], rfl, fun rest' halike => .zero (halike.not_startsOctal hstops h)⟩
  | @oneDigit d _ _ hd h =>
    exact ⟨['0', d], rfl, fun rest' halike => .oneDigit hd (halike.not_startsOctal hstops h)⟩
  | @twoDigits d e _ _ _ hd he =>
    exact .of_front ['0', d, e] fun rest' => .twoDigits rest' hd he
  | @codePoint _ mark digits _ hmark hvalue =>
    exact .of_front (mark :: digits) fun rest' => .codePoint rest' hmark hvalue
  | itself _ h => exact .of_front [c] fun rest' => .itself rest' h

theorem CharSpells.stable (h : CharSpells c text rest) :
    Stable EndsBranch (CharSpells c) text rest := by
  cases h with
  | plain hc hbrace =>
    refine ⟨[c], rfl, fun rest' halike => .plain hc fun hc => ?_⟩
    exact halike.not_startsCounted (hbrace hc)
  | escaped h => exact (h.stable EndsBranch.not_startsOctal).cons '\\' .escaped

theorem MemberSpells.stable (h : MemberSpells c text rest) :
    Stable EndsSet (MemberSpells c) text rest := by
  cases h with
  | plain _ hbracket hbackslash =>
    exact .of_front [c] fun rest' => .plain rest' hbracket hbackslash
  | escaped h => exact (h.stable EndsSet.not_startsOctal).cons '\\' .escaped

end

/-! ## Sets -/

section
variable {item : SetItem} {items : List SetItem} {text rest : List Char}

theorem SetItem.Spells.stable (h : item.Spells text rest) :
    Stable EndsSet item.Spells text rest := by
  cases h with
  | char hmember hdash =>
    obtain ⟨front, rfl, hfront⟩ := hmember.stable
    exact ⟨front, rfl, fun rest' halike =>
      .char (hfront rest' halike) (halike.not_startsRangeEnd hdash)⟩
  | @range first last _ upper _ hfirst hlast =>
    have hdash : Stable EndsSet (fun text rest => MemberSpells first text ('-' :: rest)) text
        upper := hfirst.stable.pass id
    exact hdash.trans hlast.stable .range
  | shorthand kind => exact .of_front ['\\', kind.letter] fun rest' => .shorthand kind rest'
  | complement kind =>
    exact .of_front ['\\', kind.complementLetter] fun rest' => .complement kind rest'

/-- The closing bracket ends a set, whatever stands behind it. -/
theorem ItemsSpell.stable (h : ItemsSpell items text rest) :
    ∃ front, text = front ++ ']' :: rest ∧
      ∀ rest', ItemsSpell items (front ++ ']' :: rest') rest' := by
  induction h with
  | nil rest => exact ⟨[], rfl, .nil⟩
  | @cons item items text mid rest hitem _ ih =>
    obtain ⟨front, rfl, hfront⟩ := hitem.stable
    obtain ⟨front', rfl, hitems⟩ := ih
    refine ⟨front ++ front', (List.append_assoc ..).symm, fun rest' => ?_⟩
    rw [List.append_assoc]
    exact .cons (hfront _ (.append (.stop ⟨rest, rfl⟩ ⟨rest', rfl⟩) front')) (hitems rest')

theorem FirstItemsSpell.stable (h : FirstItemsSpell items text rest) :
    ∃ front, text = front ++ ']' :: rest ∧
      ∀ rest', FirstItemsSpell items (front ++ ']' :: rest') rest' := by
  cases h with
  | ordinary hne hitems =>
    obtain ⟨front, rfl, hfront⟩ := hitems.stable
    exact ⟨front, rfl, fun rest' => .ordinary hne (hfront rest')⟩
  | bracket hitems =>
    obtain ⟨front, rfl, hfront⟩ := hitems.stable
    exact ⟨']' :: front, rfl, fun rest' => .bracket (hfront rest')⟩

end

/-! ## Leaves, quantifiers and groups -/

section
variable {text rest : List Char}

theorem Leaf.Spells.stable {l : Leaf} (h : l.Spells text rest) :
    Stable EndsBranch l.Spells text rest := by
  cases h with
  | char h => exact h.stable.imp .char
  | dot => exact .of_front ['.'] .dot
  | set hitems hcaret =>
    obtain ⟨front, rfl, hfront⟩ := hitems.stable
    refine ⟨'[' :: (front ++ [']']), by simp, fun rest' _ => ?_⟩
    have hbracket : front ++ [']'] ++ rest' = front ++ ']' :: rest' := by simp
    rw [List.cons_append, hbracket]
    refine .set (hfront rest') fun tail htail => ?_
    -- the first character is in front of the closing bracket, or is that bracket
    cases front with
    | nil => cases htail
    | cons c front =>
      obtain ⟨rfl, -⟩ := List.cons.inj htail
      exact hcaret _ rfl
  | outside hitems =>
    obtain ⟨front, rfl, hfront⟩ := hitems.stable
    refine ⟨'[' :: '^' :: (front ++ [']']), by simp, fun rest' _ => ?_⟩
    simpa using Leaf.Spells.outside (hfront rest')
  | shorthand kind => exact .of_front ['\\', kind.letter] (.shorthand kind)
  | complement kind => exact .of_front ['\\', kind.complementLetter] (.complement kind)
  | caret => exact .of_front ['^'] .caret
  | dollar => exact .of_front ['$'] .dollar
  | textStart => exact .of_front ['\\', 'A'] .textStart
  | @textEnd letter _ h => exact .of_front ['\\', letter] (.textEnd · h)
  | wordBoundary => exact .of_front ['\\', 'b'] .wordBoundary
  | notWordBoundary => exact .of_front ['\\', 'B'] .notWordBoundary

theorem BoundsSpell.stable {stops : List Char → Prop} {min : Nat} {max : Option Nat}
    (h : BoundsSpell min max text rest) : Stable stops (BoundsSpell min max) text rest := by
  cases h with
  | star => exact .of_front ['*'] .star
  | plus => exact .of_front ['+'] .plus
  | optional => exact .of_front ['?'] .optional
  | @counted s hs => exact .of_front ('{' :: s.text) (.counted hs)

theorem Quantifier.Spells.stable {stops : List Char → Prop} {times : Quantifier}
    (h : times.Spells text rest) : Stable stops times.Spells text rest := by
  cases h with
  | greedy h => exact h.stable.imp .greedy
  | lazy h => exact h.stable.pass .lazy

theorem Quantified.stable {part node : Node} (h : Quantified part node text rest) :
    Stable EndsBranch (Quantified part node) text rest := by
  cases h with
  | alone hrest => exact ⟨[], rfl, fun rest' halike => .alone (halike.bounds?_eq_none hrest)⟩
  | @repeated times _ _ htimes hpart hspells hrest =>
    have hstable : Stable EndsBranch times.Spells text rest := hspells.stable
    obtain ⟨front, rfl, hfront⟩ := hstable
    exact ⟨front, rfl, fun rest' halike =>
      .repeated htimes hpart (hfront rest' halike) (halike.bounds?_eq_none hrest)⟩

theorem GroupOpens.stable {stops : List Char → Prop} {mode : CaptureMode} {index : Option Nat}
    (h : GroupOpens mode index text rest) : Stable stops (GroupOpens mode index) text rest := by
  cases h with
  | numbered _ index => exact .of_front ['('] (.numbered mode index)
  | plain => exact .of_front ['(', '?', ':'] (.plain mode)
  | dropped => exact .of_front ['('] .dropped

end

/-! ## Trees -/

mutual
/-- A tree that is written in front of the end of a branch is written there whatever ends
the branch. -/
theorem Node.Spells.stable {mode : CaptureMode} : (node : Node) → ∀ {text rest},
    node.Spells mode text rest → Stable EndsBranch (node.Spells mode) text rest
  | .empty, text, rest, h => by
    obtain rfl : text = rest := h
    exact .of_front [] fun _ => rfl
  | .leaf l, _, _, h => Leaf.Spells.stable h
  | .group index body, _, _, ⟨inner, hopens, hbody⟩ =>
    hopens.stable.trans ((Node.Spells.stable body hbody).pass id) fun hopens hbody =>
      ⟨_, hopens, hbody⟩
  | .concat parts, _, _, h => Node.SpellAll.stable parts h
  | .alternate branches, _, _, h => Node.SpellBranches.stable branches h
  | .repetition body times, _, _, ⟨marks, hbody, htimes⟩ =>
    (Node.Spells.stable body hbody).trans htimes.stable fun hbody htimes => ⟨_, hbody, htimes⟩

theorem Node.SpellAll.stable {mode : CaptureMode} : (nodes : List Node) → ∀ {text rest},
    Node.SpellAll mode nodes text rest → Stable EndsBranch (Node.SpellAll mode nodes) text rest
  | [], text, rest, h => by
    obtain rfl : text = rest := h
    exact .of_front [] fun _ => rfl
  | node :: nodes, _, _, ⟨mid, hnode, hnodes⟩ =>
    (Node.Spells.stable node hnode).trans (Node.SpellAll.stable nodes hnodes) fun hnode hnodes =>
      ⟨_, hnode, hnodes⟩

theorem Node.SpellBranches.stable {mode : CaptureMode} : (nodes : List Node) → ∀ {text rest},
    Node.SpellBranches mode nodes text rest →
    Stable EndsBranch (Node.SpellBranches mode nodes) text rest
  | [], text, rest, h => by
    obtain rfl : text = rest := h
    exact .of_front [] fun _ => rfl
  | [node], _, _, h => Node.Spells.stable node h
  | node :: next :: nodes, _, _, ⟨mid, hnode, hnodes⟩ =>
    ((Node.Spells.stable node hnode).pass id).trans
      (Node.SpellBranches.stable (next :: nodes) hnodes) fun hnode hnodes => ⟨_, hnode, hnodes⟩
end

end DeviceRegex
