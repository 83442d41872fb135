import DeviceRegex.Proofs.Pattern.FaultPlaces
import DeviceRegex.Proofs.Pattern.Grammar
import DeviceRegex.Proofs.Pattern.Lookahead
import Mathlib.Data.List.Forall2

/-!
# Unpaired parentheses

A syntax error tells a place of the pattern. If a closing parenthesis has no group to
close, the pattern in front of it is complete; if groups are left open, the pattern is
mended by as many closing parentheses as groups are open, and by no other number of them.

## Main definitions

* `State.Resembles` — two states of reading differ at most in the places where their
  groups were opened.
-/
namespace DeviceRegex

/-! ## Places and words -/

/-- The excerpt is what stands at the position. -/
theorem SyntaxError.drop_position {e : SyntaxError} {text : List Char} (h : e.rest <:+ text) :
    text.drop (e.position text) = e.rest := (List.suffix_iff_eq_drop.1 h).symm

/-- No other fault is told in the words of unpaired parentheses. -/
theorem SyntaxFault.eq_of_text_eq {fault paired : SyntaxFault}
    (hpaired : paired = .unmatchedClose ∨ paired = .missingClose)
    (h : fault.text = paired.text) : fault = paired := by
  rcases hpaired with rfl | rfl
  · cases fault with
    | unmatchedClose => rfl
    | unsupportedGroup | repeatTooLarge | badEscape | rangeReversed =>
      unfold text at h
      simpa using congrArg String.toList h
    | _ => exact absurd h (by decide)
  · cases fault with
    | missingClose => rfl
    | unsupportedGroup | repeatTooLarge | badEscape | rangeReversed =>
      unfold text at h
      simpa using congrArg String.toList h
    | _ => exact absurd h (by decide)

namespace Pattern

/-! ## Reading a text that ends in another way -/

theorem Opens.stable {mode : CaptureMode} {next : Nat} {index : Option Nat}
    {text rest : List Char} (h : Opens mode next index text rest) :
    Stable EndsBranch (Opens mode next index) text rest := by
  have hmark {rest rest' : List Char} (halike : Alike EndsBranch rest rest')
      (hmark : ∀ tail, rest ≠ '?' :: tail) : ∀ tail, rest' ≠ '?' :: tail := by
    rintro tail rfl
    cases halike with
    | stop _ hstop => rcases hstop _ _ rfl with h | h <;> exact absurd h (by decide)
    | cons => exact hmark _ rfl
  cases h with
  | plain => exact .of_front ['(', '?', ':'] .plain
  | numbered hmode hfirst =>
    exact ⟨['('], rfl, fun rest' halike => .numbered hmode (hmark halike hfirst)⟩
  | dropped hmode hfirst =>
    exact ⟨['('], rfl, fun rest' halike => .dropped hmode (hmark halike hfirst)⟩

namespace State

/-- The states differ at most in the places where their groups were opened. -/
structure Resembles (st st' : State) : Prop where
  groups : st.groups = st'.groups
  stack : List.Forall₂ (fun group group' => group.index = group'.index ∧
    group.outer = group'.outer) st.stack st'.stack
  current : st.current = st'.current

variable {mode : CaptureMode} {st st' : State} {text mid rest : List Char}

theorem Resembles.refl (st : State) : st.Resembles st :=
  ⟨rfl, List.forall₂_same.2 fun _ _ => ⟨rfl, rfl⟩, rfl⟩

/-- From states that resemble each other, the same element is taken off texts alike. -/
theorem Consumes.stable (h : Consumes mode st mid st' rest) :
    ∃ front, mid = front ++ rest ∧ ∀ rest', Alike EndsBranch rest rest' →
      ∀ st₂, st₂.Resembles st →
        ∃ st₂', st₂'.Resembles st' ∧ Consumes mode st₂ (front ++ rest') st₂' rest' := by
  cases h with
  | bar =>
    refine ⟨['|'], rfl, fun rest' _ st₂ hst => ?_⟩
    exact ⟨{ st₂ with current := st₂.current.bar },
      ⟨hst.groups, hst.stack, congrArg OpenAlternation.bar hst.current⟩, .bar rest'⟩
  | @openGroup index _ _ hdepth hopens =>
    obtain ⟨front, rfl, hfront⟩ := hopens.stable
    refine ⟨front, rfl, fun rest' halike st₂ hst => ?_⟩
    refine ⟨⟨st₂.groups + index.toList.length,
      ⟨front ++ rest', index, st₂.current⟩ :: st₂.stack, .empty⟩,
      ⟨congrArg (· + _) hst.groups, .cons ⟨rfl, hst.current⟩ hst.stack, rfl⟩, .openGroup ?_ ?_⟩
    · rw [hst.stack.length_eq]
      exact hdepth
    · rw [hst.groups]
      exact hfront rest' halike
  | @closeGroup _ _ part _ _ hstack hpart =>
    obtain ⟨front, rfl, hfront⟩ := hpart.stable
    refine ⟨')' :: front, rfl, fun rest' halike st₂ hst => ?_⟩
    have hforall := hst.stack
    rw [hstack, List.forall₂_cons_right_iff] at hforall
    obtain ⟨group₂, stack₂, ⟨hindex, houter⟩, hstack', hstack₂⟩ := hforall
    refine ⟨⟨st₂.groups, stack₂, group₂.outer.push part⟩, ⟨hst.groups, hstack', ?_⟩,
      .closeGroup hstack₂ ?_⟩
    · rw [houter]
    · rw [hindex, hst.current]
      exact hfront rest' halike
  | @leaf _ part _ _ _ hleaf hl hpart =>
    obtain ⟨front, rfl, hfront⟩ := hleaf.stable
    obtain ⟨front', rfl, hfront'⟩ := hpart.stable
    refine ⟨front ++ front', (List.append_assoc ..).symm, fun rest' halike st₂ hst => ?_⟩
    rw [List.append_assoc]
    refine ⟨{ st₂ with current := st₂.current.push part },
      ⟨hst.groups, hst.stack, congrArg (·.push part) hst.current⟩, ?_⟩
    exact .leaf (hfront _ (halike.append front')) hl (hfront' rest' halike)

/-- Reading comes to the same state apart from places, whatever ends the branch that is
being read. -/
theorem Reached.stable (h : Reached mode text st rest) :
    ∃ front, text = front ++ rest ∧ ∀ rest', Alike EndsBranch rest rest' →
      ∃ st₂, st₂.Resembles st ∧ Reached mode (front ++ rest') st₂ rest' := by
  induction h with
  | start => exact ⟨[], rfl, fun rest' _ => ⟨.initial, .refl _, .start⟩⟩
  | next _ hstep ih =>
    obtain ⟨front', rfl, hfront'⟩ := hstep.stable
    obtain ⟨front, rfl, hfront⟩ := ih
    refine ⟨front ++ front', (List.append_assoc ..).symm, fun rest' halike => ?_⟩
    obtain ⟨st₂, hst, hreached⟩ := hfront _ (halike.append front')
    obtain ⟨st₂', hst', hconsumes⟩ := hfront' rest' halike st₂ hst
    rw [List.append_assoc]
    exact ⟨st₂', hst', hreached.next hconsumes⟩

theorem Reached.suffix (h : Reached mode text st rest) : rest <:+ text := by
  obtain ⟨front, rfl, -⟩ := h.stable
  exact List.suffix_append front rest

/-- Every open group was opened by a parenthesis of the text. -/
theorem Reached.opening (h : Reached mode text st rest) :
    ∀ group ∈ st.stack, group.opening <:+ text ∧ ∃ tail, group.opening = '(' :: tail := by
  induction h with
  | start =>
    intro group hgroup
    cases hgroup
  | @next st st' mid rest hreached hstep ih =>
    cases hstep with
    | bar => exact ih
    | openGroup hdepth hopens =>
      refine List.forall_mem_cons.2 ⟨⟨hreached.suffix, ?_⟩, ih⟩
      cases hopens with
      | plain | numbered | dropped => exact ⟨_, rfl⟩
    | closeGroup hstack =>
      rw [hstack] at ih
      exact (List.forall_mem_cons.1 ih).2
    | leaf => exact ih

/-! ## Closing the open groups -/

theorem endsBranch_replicate (k : Nat) : EndsBranch (List.replicate k ')') := by
  cases k with
  | zero => exact .nil
  | succ k => exact .close _

/-- A closing parenthesis in front of others closes the innermost group. -/
theorem step_close {group : OpenGroup} {stack : List OpenGroup} (hstack : st.stack = group :: stack)
    (k : Nat) :
    ∃ st', st.step mode ')' (List.replicate k ')') = .ok (st', List.replicate k ')') ∧
      st'.stack = stack := by
  have hpart := quantify_of_bounds?_eq_none (endsBranch_replicate k).bounds?_eq_none
    (.group group.index st.current.close)
  refine ⟨⟨st.groups, stack, group.outer.push (.group group.index st.current.close)⟩, ?_, rfl⟩
  simp [step, closeGroup, hstack, hpart, bind, Except.bind, pure, Except.pure]

theorem run_cons_eq_error {c : Char} {e : SyntaxError} (h : st.step mode c text = .error e) :
    st.run mode (c :: text) = .error e := by
  rw [State.run]
  split <;> simp_all

/-- As many groups are closed as there are closing parentheses. -/
theorem run_closings (mode : CaptureMode) {k : Nat} (hk : k ≤ st.stack.length) :
    ∃ st', st.run mode (List.replicate k ')') = .ok st' ∧
      st'.stack.length = st.stack.length - k := by
  induction k generalizing st with
  | zero => exact ⟨st, by simp [State.run], rfl⟩
  | succ k ih =>
    cases hstack : st.stack with
    | nil => simp [hstack] at hk
    | cons group stack =>
      obtain ⟨next, hstep, hnext⟩ := step_close hstack k
      have hlength : st.stack.length = next.stack.length + 1 := by
        rw [hnext, hstack]
        rfl
      have hroom : k ≤ next.stack.length := by omega
      obtain ⟨st', hrun, hst'⟩ := ih hroom
      refine ⟨st', ?_, ?_⟩
      · rw [List.replicate_succ, State.run_cons hstep, hrun]
      · rw [← hstack]
        omega

/-- A closing parenthesis too many has no group to close. -/
theorem run_closings_eq_error (mode : CaptureMode) {k : Nat} (hk : st.stack.length < k) :
    ∃ e, st.run mode (List.replicate k ')') = .error e ∧ e.fault = .unmatchedClose := by
  induction k generalizing st with
  | zero => omega
  | succ k ih =>
    rw [List.replicate_succ]
    cases hstack : st.stack with
    | nil =>
      refine ⟨⟨.unmatchedClose, ')' :: List.replicate k ')'⟩, State.run_cons_eq_error ?_, rfl⟩
      simp [step, closeGroup, hstack, faultAt]
    | cons group stack =>
      obtain ⟨next, hstep, hnext⟩ := step_close hstack k
      rw [State.run_cons hstep]
      apply ih
      rw [hnext]
      simp only [hstack, List.length_cons] at hk
      omega

end State

theorem State.finish_of_open {st : State} (h : 0 < st.stack.length) :
    ∃ e, st.finish = .error e ∧ e.fault = .missingClose := by
  unfold State.finish
  split
  · rename_i hstack
    simp [hstack] at h
  · exact ⟨_, rfl, rfl⟩

theorem State.finish_of_closed {st : State} (h : st.stack = []) : ∃ p, st.finish = .ok p := by
  unfold State.finish
  rw [h]
  exact ⟨_, rfl⟩

/-- **Open groups are mended by closing parentheses.** Where groups are left open, fewer
closing parentheses leave some of them open, as many as there are groups close them all,
and of more of them one has no group to close. -/
theorem parse_append_closings {mode : CaptureMode} {text : List Char} {st : State}
    (h : State.Reached mode text st []) (k : Nat) :
    (k < st.stack.length →
        ∃ e, parse mode (text ++ List.replicate k ')') = .error e ∧ e.fault = .missingClose) ∧
      (k = st.stack.length → ∃ p, parse mode (text ++ List.replicate k ')') = .ok p) ∧
      (st.stack.length < k →
        ∃ e, parse mode (text ++ List.replicate k ')') = .error e ∧ e.fault = .unmatchedClose) := by
  obtain ⟨front, hfront, hstable⟩ := h.stable
  obtain rfl : text = front := by simpa using hfront
  obtain ⟨st₂, hst, hreached⟩ := hstable _ (.stop .nil (State.endsBranch_replicate k))
  have hlength : st₂.stack.length = st.stack.length := hst.stack.length_eq
  rw [parse, hreached.run_eq, ← hlength]
  refine ⟨fun hk => ?fewer, fun hk => ?same, fun hk => ?more⟩
  case fewer =>
    obtain ⟨st', hrun, hst'⟩ := State.run_closings mode (Nat.le_of_lt hk)
    rw [hrun]
    exact State.finish_of_open (by omega)
  case same =>
    obtain ⟨st', hrun, hst'⟩ := State.run_closings mode (Nat.le_of_eq hk)
    rw [hrun]
    exact State.finish_of_closed (List.eq_nil_of_length_eq_zero (by omega))
  case more =>
    obtain ⟨e, hrun, hfault⟩ := State.run_closings_eq_error mode hk
    rw [hrun]
    exact ⟨e, rfl, hfault⟩

/-- One number of closing parentheses mends a pattern, and no other. -/
theorem parse_append_closings_iff {mode : CaptureMode} {text : List Char} {st : State}
    (h : State.Reached mode text st []) (k : Nat) :
    (∃ p, parse mode (text ++ List.replicate k ')') = .ok p) ↔ k = st.stack.length := by
  obtain ⟨hfewer, hsame, hmore⟩ := parse_append_closings h k
  refine ⟨?_, hsame⟩
  rintro ⟨p, hp⟩
  rcases Nat.lt_trichotomy k st.stack.length with hk | hk | hk
  · obtain ⟨e, he, -⟩ := hfewer hk
    cases hp.symm.trans he
  · exact hk
  · obtain ⟨e, he, -⟩ := hmore hk
    cases hp.symm.trans he

/-! ## Places -/

/-- A pattern that is not accepted has a closing parenthesis without a group behind a
complete pattern, groups that are left open at the end, or another fault inside it. -/
theorem parse_eq_error {mode : CaptureMode} {text : List Char} {e : SyntaxError}
    (h : parse mode text = .error e) :
    (∃ st tail, State.Reached mode text st (')' :: tail) ∧ st.stack = [] ∧
        e = ⟨.unmatchedClose, ')' :: tail⟩) ∨
      (∃ st group stack, State.Reached mode text st [] ∧ st.stack = group :: stack ∧
        e = ⟨.missingClose, group.opening⟩) ∨
      (e.rest <:+ text ∧ e.fault.isUnpaired = false) := by
  unfold parse at h
  cases hrun : State.initial.run mode text with
  | ok st =>
    rw [hrun] at h
    have hreached := State.Reached.start.of_run_eq_ok hrun
    change st.finish = .error e at h
    unfold State.finish at h
    split at h
    · cases h
    · rename_i group stack hstack
      exact .inr (.inl ⟨st, group, stack, hreached, hstack, (Except.error.inj h).symm⟩)
  | error e' =>
    rw [hrun] at h
    obtain rfl : e' = e := Except.error.inj h
    obtain ⟨st, c, tail, hreached, hstep⟩ := State.Reached.start.of_run_eq_error hrun
    rcases State.step_eq_error hstep with ⟨rfl, hstack, rfl⟩ | ⟨hrest, hfault⟩
    · exact .inl ⟨st, tail, hreached, hstack, rfl⟩
    · exact .inr (.inr ⟨hrest.trans hreached.suffix, hfault⟩)

/-- Every fault lies inside the pattern. -/
theorem rest_suffix_of_parse {mode : CaptureMode} {text : List Char} {e : SyntaxError}
    (h : parse mode text = .error e) : e.rest <:+ text := by
  rcases parse_eq_error h with ⟨st, tail, hreached, -, rfl⟩ |
    ⟨st, group, stack, hreached, hstack, rfl⟩ | ⟨hrest, -⟩
  · exact hreached.suffix
  · exact (hreached.opening group (hstack ▸ List.mem_cons_self)).1
  · exact hrest

/-- What is in front of a closing parenthesis without a group is a pattern. -/
theorem parse_take_of_unmatchedClose {mode : CaptureMode} {text tail : List Char} {st : State}
    (h : State.Reached mode text st (')' :: tail)) (hstack : st.stack = []) :
    ∃ p, parse mode (text.take (text.length - (tail.length + 1))) = .ok p := by
  obtain ⟨front, rfl, hstable⟩ := h.stable
  obtain ⟨st₂, hst, hreached⟩ := hstable [] (.stop (.close tail) .nil)
  have hempty : st₂.stack = [] := by
    apply List.eq_nil_of_length_eq_zero
    rw [hst.stack.length_eq, hstack]
    rfl
  have hfront : (front ++ ')' :: tail).take
      ((front ++ ')' :: tail).length - (tail.length + 1)) = front := by
    simp
  rw [hfront, parse]
  rw [List.append_nil] at hreached
  rw [hreached.run_eq, State.run]
  exact State.finish_of_closed hempty

/-- **Syntax errors are truthful.** The message tells a place of the pattern and quotes
what stands there. An unmatched parenthesis stands behind a complete pattern, and the
pattern with missing parentheses is mended by one number of closing parentheses and no
other. -/
theorem syntaxError_truthful {mode : CaptureMode} {text : List Char} {e : SyntaxError}
    (h : parse mode text = .error e) :
    e.position text ≤ text.length ∧
      e.message text = e.fault.text ++ " at position " ++ Text.decimal (e.position text) ++
        " near '" ++ String.ofList ((text.drop (e.position text)).take 8) ++ "'" ∧
      (e.fault.text = "unmatched ')'" →
        text[e.position text]? = some ')' ∧
          ∃ p, parse mode (text.take (e.position text)) = .ok p) ∧
      (e.fault.text = "missing ')'" →
        text[e.position text]? = some '(' ∧
          ∃ d, 1 ≤ d ∧ ∀ k,
            ((∃ p, parse mode (text ++ List.replicate k ')') = .ok p) ↔ k = d) ∧
            (k < d → ∃ e', parse mode (text ++ List.replicate k ')') = .error e' ∧
              e'.fault.text = "missing ')'") ∧
            (d < k → ∃ e', parse mode (text ++ List.replicate k ')') = .error e' ∧
              e'.fault.text = "unmatched ')'")) := by
  have hdrop := SyntaxError.drop_position (rest_suffix_of_parse h)
  refine ⟨Nat.sub_le _ _, ?message, fun htext => ?unmatched, fun htext => ?missing⟩
  case message =>
    rw [hdrop]
    rfl
  case unmatched =>
    have hfault := SyntaxFault.eq_of_text_eq (.inl rfl) htext
    rcases parse_eq_error h with ⟨st, tail, hreached, hstack, rfl⟩ |
      ⟨st, group, stack, -, -, rfl⟩ | ⟨-, hother⟩
    · refine ⟨?_, parse_take_of_unmatchedClose hreached hstack⟩
      rw [← List.head?_drop, hdrop]
      rfl
    · cases hfault
    · rw [hfault] at hother
      cases hother
  case missing =>
    have hfault := SyntaxFault.eq_of_text_eq (.inr rfl) htext
    rcases parse_eq_error h with ⟨st, tail, -, -, rfl⟩ |
      ⟨st, group, stack, hreached, hstack, rfl⟩ | ⟨-, hother⟩
    · cases hfault
    · obtain ⟨-, tail, hopening⟩ := hreached.opening group (hstack ▸ List.mem_cons_self)
      refine ⟨?_, st.stack.length, by simp [hstack], fun k => ?_⟩
      · rw [← List.head?_drop, hdrop, hopening]
        rfl
      · obtain ⟨hfewer, -, hmore⟩ := parse_append_closings hreached k
        refine ⟨parse_append_closings_iff hreached k, fun hk => ?_, fun hk => ?_⟩
        · obtain ⟨e', he', hfault'⟩ := hfewer hk
          exact ⟨e', he', by rw [hfault']; rfl⟩
        · obtain ⟨e', he', hfault'⟩ := hmore hk
          exact ⟨e', he', by rw [hfault']; rfl⟩
    · rw [hfault] at hother
      cases hother

/-- Two groups are left open behind a brace that starts no counted quantifier. -/
theorem syntaxError_truthful_of_open_groups :
    parse .extract ['x', '(', '(', '?', ':', 'y', '{', '1'] =
        .error ⟨.missingClose, ['(', '?', ':', 'y', '{', '1']⟩ ∧
      (SyntaxError.mk .missingClose ['(', '?', ':', 'y', '{', '1']).message
          ['x', '(', '(', '?', ':', 'y', '{', '1'] = "missing ')' at position 2 near '(?:y\x7b1'" ∧
      ∃ d, 1 ≤ d ∧ ∀ k,
        ((∃ p, parse .extract (['x', '(', '(', '?', ':', 'y', '{', '1'] ++ List.replicate k ')') =
          .ok p) ↔ k = d) := by
  have hread : parse .extract ['x', '(', '(', '?', ':', 'y', '{', '1'] =
      .error ⟨.missingClose, ['(', '?', ':', 'y', '{', '1']⟩ := by cbv
  obtain ⟨-, hmessage, -, hmissing⟩ := syntaxError_truthful hread
  obtain ⟨-, d, hd, hmended⟩ := hmissing rfl
  exact ⟨hread, by rw [hmessage]; rfl, d, hd, fun k => (hmended k).1⟩

end Pattern
end DeviceRegex
