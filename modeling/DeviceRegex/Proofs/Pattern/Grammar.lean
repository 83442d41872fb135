import DeviceRegex.Proofs.Pattern.NormalForm
import DeviceRegex.Proofs.Pattern.RoundTrip
import DeviceRegex.Proofs.Pattern.Written

/-!
# Patterns are read by the grammar

One step of reading takes one element of the grammar off the text. While a pattern is
read, every open alternation holds what its part of the text was written for; so a text
is read as a pattern exactly if the pattern is normal and the text is a way to write its
tree.

## Main definitions

* `Opens` — the opening of a group where the next number is known.
* `State.Consumes` — one element is taken off a text.
* `State.Reached` — the states of reading a text, each with what is left of it.
* `OpenAlternation.Spells`, `StackSpells` — what the alternations that are open were
  written for.
-/
namespace DeviceRegex

open Pattern

/-! ## Sequences and choices -/

namespace Node
variable {mode : CaptureMode} {text rest : List Char}

theorem spellAll_append {parts parts' : List Node} :
    SpellAll mode (parts ++ parts') text rest ↔
      ∃ mid, SpellAll mode parts text mid ∧ SpellAll mode parts' mid rest := by
  induction parts generalizing text with
  | nil => simp [SpellAll]
  | cons part parts ih =>
    simp only [List.cons_append, SpellAll, ih]
    constructor
    · rintro ⟨next, hpart, mid, hparts, hparts'⟩
      exact ⟨mid, ⟨next, hpart, hparts⟩, hparts'⟩
    · rintro ⟨mid, ⟨next, hpart, hparts⟩, hparts'⟩
      exact ⟨next, hpart, mid, hparts, hparts'⟩

theorem spells_ofParts {parts : List Node} :
    (ofParts parts).Spells mode text rest ↔ SpellAll mode parts text rest := by
  cases parts with
  | nil => rfl
  | cons part parts =>
    cases parts with
    | nil => simp [ofParts, SpellAll]
    | cons next parts => rfl

/-- Branches behind other branches are written behind a bar. -/
theorem spellBranches_append {branches branches' : List Node} (hne : branches ≠ [])
    (hne' : branches' ≠ []) :
    SpellBranches mode (branches ++ branches') text rest ↔
      ∃ mid, SpellBranches mode branches text ('|' :: mid) ∧
        SpellBranches mode branches' mid rest := by
  induction branches generalizing text with
  | nil => exact absurd rfl hne
  | cons branch branches ih =>
    cases branches with
    | nil =>
      obtain ⟨next, branches', rfl⟩ := List.exists_cons_of_ne_nil hne'
      rfl
    | cons next branches =>
      simp only [List.cons_append, SpellBranches] at ih ⊢
      simp only [ih (List.cons_ne_nil _ _)]
      constructor
      · rintro ⟨front, hbranch, mid, hbranches, hbranches'⟩
        exact ⟨mid, ⟨front, hbranch, hbranches⟩, hbranches'⟩
      · rintro ⟨mid, ⟨front, hbranch, hbranches⟩, hbranches'⟩
        exact ⟨front, hbranch, mid, hbranches, hbranches'⟩

theorem spells_ofBranches {branches : List Node} :
    (ofBranches branches).Spells mode text rest ↔ SpellBranches mode branches text rest := by
  cases branches with
  | nil => rfl
  | cons branch branches => cases branches <;> rfl

end Node

/-- A part that is repeated was written with its quantifier behind it. -/
theorem Quantified.spells {mode : CaptureMode} {part node : Node} {text mid rest : List Char}
    (h : Quantified part node mid rest) (hpart : part.Spells mode text mid) :
    node.Spells mode text rest := by
  cases h with
  | alone => exact hpart
  | repeated _ _ hspells => exact ⟨mid, hpart, hspells⟩

namespace Pattern

/-! ## Steps -/

/-- The ways to open a group where the next number is `next`. A question mark behind a
plain parenthesis belongs to the opening. -/
inductive Opens (mode : CaptureMode) (next : Nat) : Option Nat → List Char → List Char → Prop where
  | plain (rest : List Char) : Opens mode next none ('(' :: '?' :: ':' :: rest) rest
  | numbered {rest : List Char} (hmode : mode = .extract) (hmark : ∀ tail, rest ≠ '?' :: tail) :
      Opens mode next (some next) ('(' :: rest) rest
  | dropped {rest : List Char} (hmode : mode = .nonCapture)
      (hmark : ∀ tail, rest ≠ '?' :: tail) : Opens mode next none ('(' :: rest) rest

theorem Opens.groupOpens {mode : CaptureMode} {next : Nat} {index : Option Nat}
    {text rest : List Char} (h : Opens mode next index text rest) :
    GroupOpens mode index text rest := by
  cases h with
  | plain => exact .plain mode rest
  | numbered => exact .numbered mode next rest
  | dropped hmode =>
    subst hmode
    exact .dropped rest

namespace State

/-- One element is taken off the front of a text. -/
inductive Consumes (mode : CaptureMode) (st : State) : List Char → State → List Char → Prop where
  | bar (rest : List Char) :
      Consumes mode st ('|' :: rest) { st with current := st.current.bar } rest
  | openGroup {index : Option Nat} {text rest : List Char}
      (hdepth : st.stack.length < Engine.maxNesting)
      (hopens : Opens mode (st.groups + 1) index text rest) :
      Consumes mode st text
        ⟨st.groups + index.toList.length, ⟨text, index, st.current⟩ :: st.stack, .empty⟩ rest
  | closeGroup {group : OpenGroup} {stack : List OpenGroup} {part : Node} {text rest : List Char}
      (hstack : st.stack = group :: stack)
      (hpart : Quantified (.group group.index st.current.close) part text rest) :
      Consumes mode st (')' :: text) ⟨st.groups, stack, group.outer.push part⟩ rest
  | leaf {l : Leaf} {part : Node} {text mid rest : List Char} (hleaf : l.Spells text mid)
      (hl : l.Normal) (hpart : Quantified (.leaf l) part mid rest) :
      Consumes mode st text { st with current := st.current.push part } rest

variable {mode : CaptureMode} {st st' : State} {text rest : List Char}

theorem consumes_of_openGroup (h : st.openGroup mode text = .ok (st', rest)) :
    Consumes mode st ('(' :: text) st' rest := by
  simp only [State.openGroup] at h
  split at h
  · cases h
  · rename_i hdepth
    have hroom : st.stack.length < Engine.maxNesting := Nat.not_le.1 hdepth
    split at h
    · cases h
      exact .openGroup hroom (.plain _)
    · cases h
    · rename_i hcolon hmark
      cases mode with
      | extract =>
        cases h
        exact .openGroup hroom (.numbered rfl fun tail h => hmark tail h)
      | nonCapture =>
        cases h
        exact .openGroup hroom (.dropped rfl fun tail h => hmark tail h)

theorem consumes_of_closeGroup (h : st.closeGroup text = .ok (st', rest)) :
    Consumes mode st (')' :: text) st' rest := by
  unfold State.closeGroup at h
  split at h
  · cases h
  · rename_i group stack hstack
    obtain ⟨⟨part, rest'⟩, hpart, h⟩ := bind_eq_ok_iff.1 h
    cases h
    exact .closeGroup hstack (quantify_eq_ok_iff.1 hpart)

theorem consumes_of_readPart {c : Char} (hbar : c ≠ '|') (hopen : c ≠ '(') (hclose : c ≠ ')')
    (h : st.readPart c text = .ok (st', rest)) : Consumes mode st (c :: text) st' rest := by
  obtain ⟨⟨leaf, mid⟩, hleaf, h⟩ := bind_eq_ok_iff.1 h
  obtain ⟨⟨part, rest'⟩, hpart, h⟩ := bind_eq_ok_iff.1 h
  cases h
  exact .leaf (spells_of_readLeaf hbar hopen hclose hleaf) (normal_of_readLeaf hleaf)
    (quantify_eq_ok_iff.1 hpart)

theorem consumes_of_step {c : Char} (h : st.step mode c text = .ok (st', rest)) :
    Consumes mode st (c :: text) st' rest := by
  unfold step at h
  split at h
  · cases h
    exact .bar _
  · exact consumes_of_openGroup h
  · exact consumes_of_closeGroup h
  · rename_i hbar hopen hclose
    exact consumes_of_readPart hbar hopen hclose h

/-- Every element is taken off by one step. -/
theorem Consumes.step (h : Consumes mode st text st' rest) :
    ∃ c tail, text = c :: tail ∧ st.step mode c tail = .ok (st', rest) := by
  cases h with
  | bar => exact ⟨'|', rest, rfl, rfl⟩
  | openGroup hdepth hopens =>
    have hlimit : ¬Engine.maxNesting ≤ st.stack.length := Nat.not_le.2 hdepth
    cases hopens with
    | plain =>
      refine ⟨'(', _, rfl, ?_⟩
      simp [State.step, State.openGroup, hlimit, openPlain]
    | numbered hmode hmark =>
      refine ⟨'(', rest, rfl, ?_⟩
      simp [State.step, State.openGroup, hlimit, openNumbered, hmode, hmark]
    | dropped hmode hmark =>
      refine ⟨'(', rest, rfl, ?_⟩
      simp [State.step, State.openGroup, hlimit, openPlain, hmode, hmark]
  | closeGroup hstack hpart =>
    refine ⟨')', _, rfl, ?_⟩
    simp [State.step, State.closeGroup, hstack, quantify_eq_ok_iff.2 hpart, bind, Except.bind, pure,
      Except.pure]
  | leaf hleaf hl hpart =>
    obtain ⟨c, tail, rfl, hbar, hopen, hclose, hread⟩ := hleaf.readLeaf hl
    refine ⟨c, tail, rfl, ?_⟩
    simp [State.step, State.readPart, hread, quantify_eq_ok_iff.2 hpart, bind, Except.bind, pure,
      Except.pure]

/-! ## Runs -/

/-- Reading `text` comes to the state, with `rest` left to be read. -/
inductive Reached (mode : CaptureMode) (text : List Char) : State → List Char → Prop where
  | start : Reached mode text .initial text
  | next {st st' : State} {mid rest : List Char} (h : Reached mode text st mid)
      (hstep : Consumes mode st mid st' rest) : Reached mode text st' rest

theorem Reached.run_eq (h : Reached mode text st rest) :
    State.initial.run mode text = st.run mode rest := by
  induction h with
  | start => rfl
  | next _ hstep ih =>
    obtain ⟨c, tail, rfl, hok⟩ := hstep.step
    rw [ih, State.run_cons hok]

/-- Reading that goes to the end reaches it. -/
theorem Reached.of_run_eq_ok (h : Reached mode text st rest) (hrun : st.run mode rest = .ok st') :
    Reached mode text st' [] := by
  fun_induction State.run mode st rest with
  | case1 st =>
    obtain rfl := Except.ok.inj hrun
    exact h
  | case2 => cases hrun
  | case3 st c tail next rest hstep ih => exact ih (h.next (consumes_of_step hstep)) hrun

/-- Reading that fails comes to a state from which a step fails. -/
theorem Reached.of_run_eq_error (h : Reached mode text st rest) {e : SyntaxError}
    (hrun : st.run mode rest = .error e) :
    ∃ st' c tail, Reached mode text st' (c :: tail) ∧ st'.step mode c tail = .error e := by
  fun_induction State.run mode st rest with
  | case1 => cases hrun
  | case2 st c tail e' hstep =>
    obtain rfl := Except.error.inj hrun
    exact ⟨st, c, tail, h, hstep⟩
  | case3 st c tail next rest hstep ih => exact ih (h.next (consumes_of_step hstep)) hrun

end State

/-! ## What was written -/

/-- The text up to `rest` was written for the branches read so far, the last one of which
may go on. -/
def OpenAlternation.Spells (mode : CaptureMode) (o : OpenAlternation) (text rest : List Char) :
    Prop :=
  Node.SpellBranches mode o.bar.branches.reverse text rest

namespace OpenAlternation
variable {mode : CaptureMode} {o : OpenAlternation} {text mid rest : List Char}

theorem Spells.empty (mode : CaptureMode) (text : List Char) :
    OpenAlternation.empty.Spells mode text text := rfl

theorem Spells.bar (h : o.Spells mode text ('|' :: rest)) : o.bar.Spells mode text rest := by
  have hne : o.bar.branches.reverse ≠ [] := by simp [OpenAlternation.bar]
  have hempty : o.bar.bar.branches.reverse = o.bar.branches.reverse ++ [.empty] := by
    simp [OpenAlternation.bar, Node.ofParts]
  rw [Spells, hempty, Node.spellBranches_append hne (List.cons_ne_nil _ _)]
  exact ⟨rest, h, rfl⟩

theorem Spells.push (h : o.Spells mode text mid) {part : Node}
    (hpart : part.Spells mode mid rest) : (o.push part).Spells mode text rest := by
  -- the last branch goes on, whatever branches stand in front of it
  have hlast {start : List Char}
      (hparts : (Node.ofParts o.parts.reverse).Spells mode start mid) :
      (Node.ofParts (o.push part).parts.reverse).Spells mode start rest := by
    rw [Node.spells_ofParts] at hparts ⊢
    rw [OpenAlternation.push, List.reverse_cons, Node.spellAll_append]
    exact ⟨mid, hparts, rest, hpart, rfl⟩
  simp only [Spells, OpenAlternation.bar, List.reverse_cons] at h ⊢
  by_cases hne : o.branches.reverse = []
  · rw [hne] at h
    rw [show (o.push part).branches.reverse = [] from hne]
    exact hlast h
  · rw [Node.spellBranches_append hne (List.cons_ne_nil _ _)] at h
    obtain ⟨start, hbranches, hparts⟩ := h
    exact (Node.spellBranches_append hne (List.cons_ne_nil _ _)).2
      ⟨start, hbranches, hlast hparts⟩

theorem Spells.close (h : o.Spells mode text rest) : o.close.Spells mode text rest :=
  Node.spells_ofBranches.2 h

end OpenAlternation

/-- The text up to `rest` was written for the open groups and what stands in front of
them. -/
def StackSpells (mode : CaptureMode) (text : List Char) : List OpenGroup → List Char → Prop
  | [], rest => rest = text
  | group :: stack, rest =>
    GroupOpens mode group.index group.opening rest ∧
      ∃ start, StackSpells mode text stack start ∧ group.outer.Spells mode start group.opening

namespace State
variable {mode : CaptureMode} {st st' : State} {text mid rest : List Char}

/-- The text up to `rest` was written for what is known of it. -/
def Spells (mode : CaptureMode) (st : State) (text rest : List Char) : Prop :=
  ∃ start, StackSpells mode text st.stack start ∧ st.current.Spells mode start rest

/-- What a step takes off the text was written for what it adds to the state. -/
theorem Spells.consumes (h : st.Spells mode text mid) (hstep : Consumes mode st mid st' rest) :
    st'.Spells mode text rest := by
  obtain ⟨start, hstack, hcurrent⟩ := h
  cases hstep with
  | bar => exact ⟨start, hstack, hcurrent.bar⟩
  | openGroup hdepth hopens =>
    exact ⟨rest, ⟨hopens.groupOpens, start, hstack, hcurrent⟩, .empty mode rest⟩
  | closeGroup heq hpart =>
    rw [heq] at hstack
    obtain ⟨hopens, outer, hstack, houter⟩ := hstack
    exact ⟨outer, hstack, houter.push (hpart.spells ⟨start, hopens, hcurrent.close⟩)⟩
  | leaf hleaf hl hpart => exact ⟨start, hstack, hcurrent.push (hpart.spells hleaf)⟩

theorem Reached.spells (h : Reached mode text st rest) : st.Spells mode text rest := by
  induction h with
  | start => exact ⟨text, rfl, .empty mode text⟩
  | next _ hstep ih => exact ih.consumes hstep

/-- What is read outside all groups was written from the start of the text on. -/
theorem Reached.spells_close (h : Reached mode text st rest) (hstack : st.stack = []) :
    st.current.close.Spells mode text rest := by
  obtain ⟨start, hstart, hcurrent⟩ := h.spells
  rw [hstack] at hstart
  obtain rfl : start = text := hstart
  exact hcurrent.close

end State

/-- **Patterns are read by the grammar.** A text is read as a pattern exactly if the
pattern is normal and the text is a way to write its tree. -/
theorem parse_eq_ok_iff {mode : CaptureMode} {text : List Char} {p : Pattern} :
    parse mode text = .ok p ↔ p.Normal mode ∧ p.root.Spells mode text [] := by
  constructor
  · intro h
    obtain ⟨st, hrun, hfinish⟩ := bind_eq_ok_iff.1 h
    refine ⟨(State.Sound.of_run hrun).finish hfinish, ?_⟩
    have hreached := State.Reached.start.of_run_eq_ok hrun
    unfold State.finish at hfinish
    split at hfinish
    · rename_i hstack
      obtain rfl := Except.ok.inj hfinish
      exact hreached.spells_close hstack
    · cases hfinish
  · rintro ⟨hp, hspells⟩
    exact parse_eq_of_spells hp hspells

end Pattern
end DeviceRegex
