import DeviceRegex.Proofs.Pattern.Grammar

/-!
# Counting parentheses

The groups of a pattern can be counted without reading it. A flat scan that knows escapes
and sets, and nothing else of the grammar, meets an opening parenthesis outside sets
exactly where a group is opened, and sees from the next two characters whether the range of
the group can be kept.

## Main definitions

* `openings`, `openingsInSet` — the opening parentheses that the scan meets from a place
  outside or inside a set.
* `Node.groupCount` — the number of groups of a tree, numbered or not.
* `CaptureMode.kept` — how many of the groups that were opened have numbers.
-/
namespace DeviceRegex

open Pattern

/-! ## The scan -/

mutual
/-- The opening parentheses outside sets, and whether each one is free of the mark `?:`. A
backslash takes the next character along. A bracket enters a set, and takes a caret and
then a closing bracket along. -/
def openings : List Char → List Bool
  | [] => []
  | '\\' :: _ :: rest => openings rest
  | '[' :: '^' :: ']' :: rest => openingsInSet rest
  | '[' :: '^' :: rest => openingsInSet rest
  | '[' :: ']' :: rest => openingsInSet rest
  | '[' :: rest => openingsInSet rest
  | '(' :: rest => (!List.isPrefixOf ['?', ':'] rest) :: openings rest
  | _ :: rest => openings rest

/-- The opening parentheses behind the set in which the text starts. A backslash takes the
next character along, and a closing bracket leaves the set. -/
def openingsInSet : List Char → List Bool
  | [] => []
  | '\\' :: _ :: rest => openingsInSet rest
  | ']' :: rest => openings rest
  | _ :: rest => openingsInSet rest
end

mutual
/-- The number of groups of a tree, numbered or not. -/
def Node.groupCount : Node → Nat
  | .empty | .leaf _ => 0
  | .group _ body => body.groupCount + 1
  | .concat parts => Node.groupCounts parts
  | .alternate branches => Node.groupCounts branches
  | .repetition body _ => body.groupCount

/-- The number of groups of all trees of a list. -/
def Node.groupCounts : List Node → Nat
  | [] => 0
  | node :: nodes => node.groupCount + Node.groupCounts nodes
end

/-- How many of the groups that were opened have numbers: those without a mark, where groups
are kept. -/
def CaptureMode.kept (mode : CaptureMode) (opened : List Bool) : Nat :=
  match mode with
  | .extract => opened.count true
  | .nonCapture => 0

theorem CaptureMode.kept_append (mode : CaptureMode) (opened opened' : List Bool) :
    mode.kept (opened ++ opened') = mode.kept opened + mode.kept opened' := by
  cases mode with
  | extract => exact List.count_append
  | nonCapture => rfl

/-! ## What the scan passes over -/

theorem openings_cons {c : Char} (h : c ∉ ['\\', '[', '(']) (rest : List Char) :
    openings (c :: rest) = openings rest := by
  simp only [List.mem_cons, List.not_mem_nil, or_false, not_or] at h
  rw [openings] <;> simp [h]

theorem openingsInSet_cons {c : Char} (hbackslash : c ≠ '\\') (hbracket : c ≠ ']')
    (rest : List Char) : openingsInSet (c :: rest) = openingsInSet rest := by
  rw [openingsInSet] <;> simp [hbackslash, hbracket]

/-- The characters with a meaning for the scan, outside or inside a set. -/
def scanMarks : List Char := ['\\', '[', '(', ']']

theorem mem_scanMarks_iff {c : Char} :
    c ∈ scanMarks ↔ c = '\\' ∨ c = '[' ∨ c = '(' ∨ c = ']' := by
  simp only [scanMarks, List.mem_cons, List.not_mem_nil, or_false]

/-- The scan comes from the text to what is behind it without an opening parenthesis, and
stays outside or inside the set in which it starts. -/
structure ScanPasses (text rest : List Char) : Prop where
  outside : openings text = openings rest
  inside : openingsInSet text = openingsInSet rest

namespace ScanPasses
variable {text mid rest : List Char}

theorem trans (h : ScanPasses text mid) (h' : ScanPasses mid rest) : ScanPasses text rest :=
  ⟨h.outside.trans h'.outside, h.inside.trans h'.inside⟩

theorem refl (text : List Char) : ScanPasses text text := ⟨rfl, rfl⟩

/-- A character without a meaning for the scan is passed over. -/
theorem cons {c : Char} (hc : c ∉ scanMarks) (rest : List Char) :
    ScanPasses (c :: rest) rest := by
  rw [mem_scanMarks_iff] at hc
  simp only [not_or] at hc
  exact ⟨openings_cons (by simp [hc]) rest, openingsInSet_cons hc.1 hc.2.2.2 rest⟩

theorem append {front : List Char} (hfront : ∀ c ∈ front, c ∉ scanMarks)
    (rest : List Char) : ScanPasses (front ++ rest) rest := by
  induction front with
  | nil => exact .refl rest
  | cons c front ih =>
    obtain ⟨hc, hfront⟩ := List.forall_mem_cons.1 hfront
    exact (cons hc _).trans (ih hfront)

/-- A backslash takes any character along. -/
theorem escape (c : Char) (rest : List Char) : ScanPasses ('\\' :: c :: rest) rest :=
  ⟨by rw [openings], by rw [openingsInSet]⟩

end ScanPasses

section
variable {text rest : List Char}

theorem not_mem_of_octalDigit? {c : Char} {digit : Nat} (h : Text.octalDigit? c = some digit) :
    c ∉ scanMarks := by
  intro hc
  rcases mem_scanMarks_iff.1 hc with rfl | rfl | rfl | rfl <;> cases h

theorem not_mem_of_hexValue? {digits : List Char} {value n : Nat}
    (h : Text.hexValue? value digits = some n) : ∀ c ∈ digits, c ∉ scanMarks := by
  induction digits generalizing value with
  | nil => exact List.forall_mem_nil _
  | cons c digits ih =>
    obtain ⟨digit, hdigit, h⟩ := Option.bind_eq_some_iff.1 h
    refine List.forall_mem_cons.2 ⟨fun hc => ?_, ih h⟩
    rcases mem_scanMarks_iff.1 hc with rfl | rfl | rfl | rfl <;> cases hdigit

theorem not_mem_of_isDigit {c : Char} (h : c.isDigit) : c ∉ scanMarks := by
  intro hc
  rcases mem_scanMarks_iff.1 hc with rfl | rfl | rfl | rfl <;> cases h

/-- An escape is passed over, digits included. -/
theorem EscapeSpells.scanPasses {inSet : Bool} {c : Char} (h : EscapeSpells inSet c text rest) :
    ScanPasses ('\\' :: text) rest := by
  cases h with
  | control | backspace | zero | itself => exact .escape _ _
  | oneDigit hd =>
    exact (ScanPasses.escape _ _).trans (.cons (not_mem_of_octalDigit? hd) _)
  | twoDigits _ hd he =>
    exact (ScanPasses.escape _ _).trans
      ((ScanPasses.cons (not_mem_of_octalDigit? hd) _).trans
        (.cons (not_mem_of_octalDigit? he) _))
  | codePoint _ _ hvalue =>
    exact (ScanPasses.escape _ _).trans (.append (not_mem_of_hexValue? hvalue) _)

/-! ## Sets and leaves -/

theorem MemberSpells.openingsInSet_eq {c : Char} (h : MemberSpells c text rest) :
    openingsInSet text = openingsInSet rest := by
  cases h with
  | plain _ hbracket hbackslash => exact openingsInSet_cons hbackslash hbracket rest
  | escaped h => exact h.scanPasses.inside

theorem SetItem.Spells.openingsInSet_eq {item : SetItem} (h : item.Spells text rest) :
    openingsInSet text = openingsInSet rest := by
  cases h with
  | char h => exact h.openingsInSet_eq
  | range hfirst hlast =>
    rw [hfirst.openingsInSet_eq, openingsInSet_cons (by decide) (by decide),
      hlast.openingsInSet_eq]
  | shorthand | complement => exact (ScanPasses.escape _ _).inside

/-- The scan leaves a set where its items end. -/
theorem ItemsSpell.openingsInSet_eq {items : List SetItem} (h : ItemsSpell items text rest) :
    openingsInSet text = openings rest := by
  induction h with
  | nil rest => rw [openingsInSet]
  | cons hitem _ ih => rw [hitem.openingsInSet_eq, ih]

/-- A closing bracket in front of the items does not end the set. -/
theorem FirstItemsSpell.openings_eq {items : List SetItem} (h : FirstItemsSpell items text rest) :
    openings ('[' :: '^' :: text) = openings rest ∧
      ((∀ tail, text ≠ '^' :: tail) → openings ('[' :: text) = openings rest) := by
  cases h with
  | bracket h =>
    refine ⟨?_, fun _ => ?_⟩
    · rw [openings, h.openingsInSet_eq]
    · rw [openings, h.openingsInSet_eq]
  | ordinary hne h =>
    have hitems := h.openingsInSet_eq
    cases h with
    | nil => exact absurd rfl hne
    | cons hitem =>
      obtain ⟨d, tail, rfl, hd⟩ := hitem.uncons
      refine ⟨?_, fun hcaret => ?_⟩
      · rw [openings, hitems]
        simpa using hd
      · rw [openings, hitems] <;> simp_all

/-- A leaf has no parenthesis that the scan meets. -/
theorem Leaf.Spells.openings_eq {l : Leaf} (h : l.Spells text rest) :
    openings text = openings rest := by
  cases h with
  | char h =>
    cases h with
    | plain hc =>
      simp only [specialChars, List.mem_cons, List.not_mem_nil, or_false, not_or] at hc
      exact openings_cons (by simp [hc]) rest
    | escaped h => exact h.scanPasses.outside
  | set h hcaret => exact h.openings_eq.2 hcaret
  | outside h => exact h.openings_eq.1
  | dot | caret | dollar => exact openings_cons (by decide) rest
  | shorthand | complement | textStart | textEnd | wordBoundary | notWordBoundary =>
    exact (ScanPasses.escape _ _).outside

/-! ## Quantifiers -/

theorem BoundsSpell.openings_eq {min : Nat} {max : Option Nat}
    (h : BoundsSpell min max text rest) : openings text = openings rest := by
  cases h with
  | star | plus | optional => exact openings_cons (by decide) rest
  | @counted s hs =>
    have hshape : ∀ c ∈ s.text, c ∉ scanMarks := by
      intro c hc
      simp only [CountedShape.text, List.mem_append, List.mem_singleton] at hc
      rcases hc with (hc | hc) | rfl
      · exact not_mem_of_isDigit (hs.min_digits c hc)
      · split at hc
        · rcases List.mem_cons.1 hc with rfl | hc
          · decide
          · exact not_mem_of_isDigit (hs.max_digits c hc)
        · cases hc
      · decide
    rw [openings_cons (by decide)]
    exact (ScanPasses.append hshape rest).outside

theorem Quantifier.Spells.openings_eq {times : Quantifier} (h : times.Spells text rest) :
    openings text = openings rest := by
  cases h with
  | greedy h => exact h.openings_eq
  | lazy h => exact h.openings_eq.trans (openings_cons (by decide) rest)

/-- A quantifier has no parenthesis, and repeating a part does not copy its groups. -/
theorem Quantified.openings_eq {part node : Node} (h : Quantified part node text rest) :
    openings text = openings rest ∧ node.groupCount = part.groupCount := by
  cases h with
  | alone => exact ⟨rfl, rfl⟩
  | repeated _ _ hspells => exact ⟨hspells.openings_eq, rfl⟩

end

/-! ## The groups met so far -/

namespace Node

theorem groupCounts_append (nodes nodes' : List Node) :
    groupCounts (nodes ++ nodes') = groupCounts nodes + groupCounts nodes' := by
  induction nodes with
  | nil => exact (Nat.zero_add _).symm
  | cons node nodes ih => simp only [List.cons_append, groupCounts, ih, Nat.add_assoc]

theorem groupCounts_reverse (nodes : List Node) : groupCounts nodes.reverse = groupCounts nodes := by
  induction nodes with
  | nil => rfl
  | cons node nodes ih =>
    rw [List.reverse_cons, groupCounts_append, ih, groupCounts, groupCounts, groupCounts]
    omega

theorem groupCount_ofParts (parts : List Node) :
    (ofParts parts).groupCount = groupCounts parts := by
  cases parts with
  | nil => rfl
  | cons part parts => cases parts <;> simp [ofParts, groupCount, groupCounts]

theorem groupCount_ofBranches (branches : List Node) :
    (ofBranches branches).groupCount = groupCounts branches := by
  cases branches with
  | nil => rfl
  | cons branch branches => cases branches <;> simp [ofBranches, groupCount, groupCounts]

end Node

namespace Pattern

/-- The number of groups of an alternation of which a part is read. -/
def OpenAlternation.groupCount (o : OpenAlternation) : Nat :=
  Node.groupCounts o.branches + Node.groupCounts o.parts

namespace OpenAlternation

@[simp] theorem groupCount_empty : empty.groupCount = 0 := rfl

@[simp] theorem groupCount_push (o : OpenAlternation) (part : Node) :
    (o.push part).groupCount = o.groupCount + part.groupCount := by
  simp only [groupCount, push, Node.groupCounts]
  omega

@[simp] theorem groupCount_bar (o : OpenAlternation) : o.bar.groupCount = o.groupCount := by
  simp only [groupCount, bar, Node.groupCounts, Node.groupCount_ofParts, Node.groupCounts_reverse]
  omega

@[simp] theorem groupCount_close (o : OpenAlternation) : o.close.groupCount = o.groupCount := by
  rw [close, Node.groupCount_ofBranches, Node.groupCounts_reverse, ← groupCount_bar]
  rfl

end OpenAlternation

/-- The scan meets the parenthesis of a group, and sees whether the group takes a number. -/
theorem Opens.openings_eq {mode : CaptureMode} {next : Nat} {index : Option Nat}
    {text rest : List Char} (h : Opens mode next index text rest) :
    ∃ unmarked, openings text = unmarked :: openings rest ∧
      index.toList.length = mode.kept [unmarked] := by
  have hunmarked (hmark : ∀ tail, rest ≠ '?' :: tail) :
      openings ('(' :: rest) = true :: openings rest := by
    cases rest with
    | nil => rfl
    | cons c rest =>
      have hc : '?' ≠ c := by
        rintro rfl
        exact hmark rest rfl
      simp [openings, List.isPrefixOf, hc]
  cases h with
  | plain =>
    refine ⟨false, ?_, by cases mode <;> rfl⟩
    rw [openings, openings_cons (by decide), openings_cons (by decide)]
    rfl
  | numbered hmode hmark =>
    subst hmode
    exact ⟨true, hunmarked hmark, rfl⟩
  | dropped hmode hmark =>
    subst hmode
    exact ⟨true, hunmarked hmark, rfl⟩

namespace State

/-- The number of groups met so far: those that are open, and those that are complete. -/
def groupCount (st : State) : Nat :=
  st.stack.foldr (fun group count => group.outer.groupCount + 1 + count) 0 +
    st.current.groupCount

variable {mode : CaptureMode} {st st' : State} {text rest : List Char}

/-- The parentheses that the scan meets in a piece of the text are those of the groups that
reading opens there. -/
structure Opened (mode : CaptureMode) (st st' : State) (opened : List Bool) : Prop where
  groupCount_eq : st'.groupCount = st.groupCount + opened.length
  groups_eq : st'.groups = st.groups + mode.kept opened

theorem Opened.trans {st'' : State} {opened opened' : List Bool} (h : Opened mode st st' opened)
    (h' : Opened mode st' st'' opened') : Opened mode st st'' (opened ++ opened') where
  groupCount_eq := by
    rw [h'.groupCount_eq, h.groupCount_eq, List.length_append, Nat.add_assoc]
  groups_eq := by rw [h'.groups_eq, h.groups_eq, mode.kept_append, Nat.add_assoc]

/-- An element that leaves the groups as they are opens none. -/
theorem Opened.nil (hcount : st'.groupCount = st.groupCount) (hgroups : st'.groups = st.groups) :
    Opened mode st st' [] where
  groupCount_eq := hcount
  groups_eq := by cases mode <;> exact hgroups

/-- In every element, the scan meets the parentheses of the groups that reading opens. -/
theorem Consumes.openings_eq (h : Consumes mode st text st' rest) :
    ∃ opened, openings text = opened ++ openings rest ∧ Opened mode st st' opened := by
  cases h with
  | bar => exact ⟨[], openings_cons (by decide) rest, .nil (by simp [groupCount]) rfl⟩
  | openGroup hdepth hopens =>
    obtain ⟨unmarked, htext, hindex⟩ := hopens.openings_eq
    refine ⟨[unmarked], htext, ?_, congrArg (st.groups + ·) hindex⟩
    simp only [groupCount, List.foldr_cons, OpenAlternation.groupCount_empty,
      List.length_singleton]
    omega
  | closeGroup hstack hpart =>
    obtain ⟨htext, hcount⟩ := hpart.openings_eq
    refine ⟨[], (openings_cons (by decide) _).trans htext, .nil ?_ rfl⟩
    simp only [groupCount, hstack, List.foldr_cons, OpenAlternation.groupCount_push,
      hcount, Node.groupCount, OpenAlternation.groupCount_close]
    omega
  | leaf hleaf hl hpart =>
    obtain ⟨htext, hcount⟩ := hpart.openings_eq
    refine ⟨[], hleaf.openings_eq.trans htext, .nil ?_ rfl⟩
    simp only [groupCount, OpenAlternation.groupCount_push, hcount, Node.groupCount, Nat.add_zero]

/-- Up to every place that reading comes to, the scan has met the parentheses of the groups
met so far. -/
theorem Reached.openings_eq (h : Reached mode text st rest) :
    ∃ opened, openings text = opened ++ openings rest ∧ Opened mode .initial st opened := by
  induction h with
  | start => exact ⟨[], rfl, .nil rfl rfl⟩
  | next _ hstep ih =>
    obtain ⟨opened, htext, hopened⟩ := ih
    obtain ⟨opened', hmid, hopened'⟩ := hstep.openings_eq
    exact ⟨opened ++ opened', by rw [htext, hmid, List.append_assoc], hopened.trans hopened'⟩

end State

/-- **Groups are counted by their parentheses.** Of a pattern that is read, the tree has as
many groups as a flat scan meets opening parentheses outside sets. Where groups are kept,
the numbered ones are those without the mark `?:`; where they are not, there are none. -/
theorem groups_eq_openings {mode : CaptureMode} {text : List Char} {p : Pattern}
    (h : parse mode text = .ok p) :
    p.groups = mode.kept (openings text) ∧ p.root.groupCount = (openings text).length := by
  obtain ⟨st, hrun, hfinish⟩ := bind_eq_ok_iff.1 h
  obtain ⟨opened, htext, hopened⟩ := (State.Reached.start.of_run_eq_ok hrun).openings_eq
  obtain rfl : openings text = opened := by simpa [openings] using htext
  unfold State.finish at hfinish
  split at hfinish
  · rename_i hstack
    obtain rfl := Except.ok.inj hfinish
    have hcount := hopened.groupCount_eq
    rw [State.groupCount, hstack] at hcount
    have hgroups : st.groups = 0 + mode.kept (openings text) := hopened.groups_eq
    exact ⟨by rw [hgroups, Nat.zero_add], by simpa [State.groupCount, State.initial] using hcount⟩
  · cases hfinish

/-- Parentheses in sets, behind backslashes and behind a bracket in the first place of a set
open no groups. -/
theorem groups_eq_openings_of_escapes :
    ∃ p, parse .extract "([)(]](?:\\(a)[^]()-\\]](b){2})".toList = .ok p ∧
      openings "([)(]](?:\\(a)[^]()-\\]](b){2})".toList = [true, false, true] ∧
      p.groups = CaptureMode.extract.kept (openings "([)(]](?:\\(a)[^]()-\\]](b){2})".toList) ∧
      p.root.groupCount = (openings "([)(]](?:\\(a)[^]()-\\]](b){2})".toList).length := by
  have hread : (parse .extract "([)(]](?:\\(a)[^]()-\\]](b){2})".toList).isOk = true := by
    decide +kernel
  cases hp : parse .extract "([)(]](?:\\(a)[^]()-\\]](b){2})".toList with
  | error e =>
    rw [hp] at hread
    cases hread
  | ok p => exact ⟨p, rfl, by decide +kernel, groups_eq_openings hp⟩

end Pattern

end DeviceRegex
