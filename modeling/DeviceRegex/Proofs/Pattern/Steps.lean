import DeviceRegex.Pattern.Parse

/-!
# The steps of reading

All that one step of reading can do to what is known of a pattern, and what follows for
whole patterns: what every step keeps holds of every pattern that is read.

## Main definitions

* `Pattern.State.Takes mode st st'` — one element takes the state `st` to `st'`.
-/
namespace DeviceRegex.Pattern.State

/-- What one element does to the state. -/
inductive Takes (mode : CaptureMode) (st : State) : State → Prop where
  /-- A bar completes a branch. -/
  | bar : Takes mode st { st with current := st.current.bar }
  /-- A parenthesis opens a group, with the next number if groups are kept. -/
  | openGroup {index : Option Nat} (opening : List Char)
      (hdepth : st.stack.length < Engine.maxNesting)
      (hindex : index = none ∨ mode = .extract ∧ index = some (st.groups + 1)) :
      Takes mode st
        ⟨st.groups + index.toList.length, ⟨opening, index, st.current⟩ :: st.stack, .empty⟩
  /-- A parenthesis closes a group, with the quantifier behind it. -/
  | closeGroup {group : OpenGroup} {stack : List OpenGroup} {part : Node}
      {text rest : List Char} (hstack : st.stack = group :: stack)
      (hpart : quantify (.group group.index st.current.close) text = .ok (part, rest)) :
      Takes mode st ⟨st.groups, stack, group.outer.push part⟩
  /-- A leaf is read, with the quantifier behind it. -/
  | leaf {c : Char} {leaf : Leaf} {part : Node} {text mid rest : List Char}
      (hleaf : readLeaf c text = .ok (leaf, mid))
      (hpart : quantify (.leaf leaf) mid = .ok (part, rest)) :
      Takes mode st { st with current := st.current.push part }

variable {mode : CaptureMode} {st st' : State} {text rest : List Char}

theorem takes_of_openGroup (h : st.openGroup mode text = .ok (st', rest)) :
    Takes mode st st' := by
  simp only [openGroup] at h
  split at h
  · cases h
  · rename_i hdepth
    have hroom : st.stack.length < Engine.maxNesting := Nat.not_le.1 hdepth
    split at h
    · obtain ⟨rfl, -⟩ := Prod.mk.inj (Except.ok.inj h)
      exact .openGroup _ hroom (.inl rfl)
    · cases h
    · cases mode with
      | extract =>
        obtain ⟨rfl, -⟩ := Prod.mk.inj (Except.ok.inj h)
        exact .openGroup _ hroom (.inr ⟨rfl, rfl⟩)
      | nonCapture =>
        obtain ⟨rfl, -⟩ := Prod.mk.inj (Except.ok.inj h)
        exact .openGroup _ hroom (.inl rfl)

theorem takes_of_closeGroup (h : st.closeGroup text = .ok (st', rest)) :
    Takes mode st st' := by
  unfold closeGroup at h
  split at h
  · cases h
  · rename_i group stack hstack
    obtain ⟨⟨part, rest'⟩, hpart, h⟩ := bind_eq_ok_iff.1 h
    obtain ⟨rfl, -⟩ := Prod.mk.inj (Except.ok.inj h)
    exact .closeGroup hstack hpart

theorem takes_of_readPart {c : Char} (h : st.readPart c text = .ok (st', rest)) :
    Takes mode st st' := by
  obtain ⟨⟨leaf, mid⟩, hleaf, h⟩ := bind_eq_ok_iff.1 h
  obtain ⟨⟨part, rest'⟩, hpart, h⟩ := bind_eq_ok_iff.1 h
  obtain ⟨rfl, -⟩ := Prod.mk.inj (Except.ok.inj h)
  exact .leaf hleaf hpart

/-- Every step takes one element. -/
theorem takes_of_step {c : Char} (h : st.step mode c text = .ok (st', rest)) :
    Takes mode st st' := by
  unfold step at h
  split at h
  · obtain ⟨rfl, -⟩ := Prod.mk.inj (Except.ok.inj h)
    exact .bar
  · exact takes_of_openGroup h
  · exact takes_of_closeGroup h
  · exact takes_of_readPart h

/-- What every step keeps is there after a text if it was there before. -/
theorem run_induction {P : State → Prop} (hstep : ∀ {st st'}, Takes mode st st' → P st → P st')
    (h : st.run mode text = .ok st') (hst : P st) : P st' := by
  fun_induction State.run mode st text with
  | case1 st =>
    obtain rfl := Except.ok.inj h
    exact hst
  | case2 => cases h
  | case3 st c text next rest hnext ih => exact ih h (hstep (takes_of_step hnext) hst)

end DeviceRegex.Pattern.State
