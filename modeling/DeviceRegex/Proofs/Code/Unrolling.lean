import DeviceRegex.Proofs.Code.Drafting

/-!
# Counted repetition is its unrolling

The copies that a counted repetition stands for may as well be written in the tree: the
required ones one after the other, and every optional one inside the optional part of the
one before it. The loop over the optional copies, which patches all their splits at the end,
has the layout of optional parts inside each other. So both trees have the same layout, are
written alike behind any code, and where there is no room for one there is none for the other.

## Main definitions

* `Node.optionalCopies greedy body n` — at most `n` copies of a body, one inside the other.
-/
namespace DeviceRegex

/-- At most `n` copies of a body, where every copy stands in the optional part of the one
before it. -/
def Node.optionalCopies (greedy : Bool) (body : Node) : Nat → Node
  | 0 => .empty
  | n + 1 => .repetition (.concat [body, optionalCopies greedy body n]) ⟨0, some 1, greedy⟩

/-! ## Layouts in sequence -/

namespace Layout

@[simp] theorem nothing_append (l : Layout) : append nothing l = l := by
  funext pc table
  simp [append, nothing]

@[simp] theorem append_nothing (l : Layout) : append l nothing = l := by
  funext pc table
  simp [append, nothing]

theorem append_assoc (l l' l'' : Layout) :
    append (append l l') l'' = append l (append l' l'') := by
  funext pc table
  simp [append, Nat.add_assoc]

@[simp] theorem copies_nothing (n : Nat) : copies nothing n = nothing := by
  induction n with
  | zero => rfl
  | succ n ih => rw [copies, ih, nothing_append]

theorem optionals_one (greedy : Bool) (l : Layout) : optionals greedy l 1 = optional greedy l := by
  rw [optionals, optionals, append_nothing]

end Layout

namespace Node
variable (flags : Flags)

theorem layout_concat (parts : List Node) :
    (concat parts).layout flags = layoutAll flags parts := by
  rw [layout]

theorem layoutAll_append (nodes nodes' : List Node) :
    layoutAll flags (nodes ++ nodes') =
      Layout.append (layoutAll flags nodes) (layoutAll flags nodes') := by
  induction nodes with
  | nil => exact (Layout.nothing_append _).symm
  | cons node nodes ih => rw [List.cons_append, layoutAll, ih, layoutAll, Layout.append_assoc]

theorem layoutAll_singleton (node : Node) : layoutAll flags [node] = node.layout flags :=
  Layout.append_nothing _

theorem layoutAll_replicate (node : Node) (n : Nat) :
    layoutAll flags (List.replicate n node) = Layout.copies (node.layout flags) n := by
  induction n with
  | zero => rfl
  | succ n ih => rw [List.replicate_succ, layoutAll, ih, Layout.copies]

end Node

/-! ## Nodes without code -/

/-- A repetition of a body with code has none itself only if it asks for no copy. -/
theorem Layout.repeated_eq_nothing {times : Quantifier} {n : Nat} (hn : n ≠ 0)
    (h : times.codeLength n = 0) (part : Layout) : Layout.repeated times part = .nothing := by
  obtain ⟨min, max, greedy⟩ := times
  cases max with
  | none =>
    simp only [Quantifier.codeLength, if_neg hn] at h
    split at h <;> omega
  | some max =>
    simp only [Quantifier.codeLength, if_neg hn] at h
    obtain ⟨hcopies, hoptionals⟩ := Nat.add_eq_zero_iff.1 h
    have hmin : min = 0 := (Nat.mul_eq_zero.1 hcopies).resolve_right hn
    have hmore : max - min = 0 := (Nat.mul_eq_zero.1 hoptionals).resolve_right (Nat.succ_ne_zero n)
    simp only [repeated]
    rw [hmore, hmin, copies, optionals, nothing_append]

mutual
/-- A node without code leaves the class table as it is. -/
theorem Node.layout_eq_nothing (flags : Flags) : (node : Node) → node.codeLength = 0 →
    node.layout flags = .nothing
  | .empty, _ => rfl
  | .leaf _, h => by simp [codeLength] at h
  | .group (some _) body, h => by
    rw [codeLength] at h
    omega
  | .group none body, h => Node.layout_eq_nothing flags body h
  | .concat parts, h => Node.layoutAll_eq_nothing flags parts h
  | .alternate branches, h => by
    rw [codeLength] at h
    match branches, h with
    | [], _ => rfl
    | [branch], h =>
      have ih := Node.layoutAll_eq_nothing flags [branch] (by omega)
      rwa [layoutAll_singleton] at ih
    | _ :: _ :: _, h =>
      simp only [List.length_cons] at h
      omega
  | .repetition body times, h => by
    simp only [layout, codeSize_eq_zero_iff]
    by_cases hbody : body.codeLength = 0
    · rw [if_pos hbody]
    · rw [if_neg hbody]
      exact Layout.repeated_eq_nothing hbody h _

theorem Node.layoutAll_eq_nothing (flags : Flags) : (nodes : List Node) →
    Node.codeLengths nodes = 0 → Node.layoutAll flags nodes = .nothing
  | [], _ => rfl
  | node :: nodes, h => by
    obtain ⟨hnode, hnodes⟩ := Nat.add_eq_zero_iff.1 h
    have ih := Node.layout_eq_nothing flags node hnode
    have ihs := Node.layoutAll_eq_nothing flags nodes hnodes
    rw [layoutAll, ih, ihs, Layout.nothing_append]
end

/-! ## Repetition -/

namespace Node
variable (flags : Flags) {body : Node}

/-- Optional copies of a body without code have no code either. -/
theorem codeLength_optionalCopies_eq_zero (h : body.codeLength = 0) (greedy : Bool) (n : Nat) :
    (body.optionalCopies greedy n).codeLength = 0 := by
  induction n with
  | zero => rfl
  | succ n ih => simp [optionalCopies, codeLength, codeLengths, h, ih, Quantifier.codeLength]

theorem layout_repetition (h : body.codeLength ≠ 0) (times : Quantifier) :
    (repetition body times).layout flags = Layout.repeated times (body.layout flags) := by
  rw [layout, if_neg (mt body.codeSize_eq_zero_iff.1 h)]

theorem layout_optionalCopies (h : body.codeLength ≠ 0) (greedy : Bool) (n : Nat) :
    (body.optionalCopies greedy n).layout flags =
      Layout.optionals greedy (body.layout flags) n := by
  induction n with
  | zero => rfl
  | succ n ih =>
    have hinner : (concat [body, body.optionalCopies greedy n]).codeLength ≠ 0 := by
      simp [codeLength, codeLengths, h]
    calc (body.optionalCopies greedy (n + 1)).layout flags
        = Layout.optionals greedy ((concat [body, body.optionalCopies greedy n]).layout flags) 1 :=
          layout_repetition flags hinner ⟨0, some 1, greedy⟩
      _ = Layout.optional greedy
            (Layout.append (body.layout flags) ((body.optionalCopies greedy n).layout flags)) := by
          rw [Layout.optionals_one, layout_concat, layoutAll, layoutAll_singleton]
      _ = Layout.optionals greedy (body.layout flags) (n + 1) := by rw [ih, Layout.optionals]

/-- A repetition with a limit is laid out as its copies and optional copies. -/
theorem layout_repetition_some (body : Node) (greedy : Bool) (n m : Nat) :
    (repetition body ⟨n, some m, greedy⟩).layout flags =
      (concat (List.replicate n body ++ [body.optionalCopies greedy (m - n)])).layout flags := by
  rw [layout_concat, layoutAll_append, layoutAll_replicate, layoutAll_singleton]
  by_cases h : body.codeLength = 0
  · have hoptional := codeLength_optionalCopies_eq_zero h greedy (m - n)
    rw [layout_eq_nothing flags body h, layout_eq_nothing flags _ hoptional, Layout.copies_nothing,
      Layout.append_nothing, layout, if_pos (body.codeSize_eq_zero_iff.2 h)]
  · rw [layout_repetition flags h, layout_optionalCopies flags h]
    rfl

/-- A repetition without limit is laid out as copies and a repetition of at least one. -/
theorem layout_repetition_none (body : Node) (greedy : Bool) {n : Nat} (hn : 1 ≤ n) :
    (repetition body ⟨n, none, greedy⟩).layout flags =
      (concat (List.replicate (n - 1) body ++ [repetition body ⟨1, none, greedy⟩])).layout
        flags := by
  rw [layout_concat, layoutAll_append, layoutAll_replicate, layoutAll_singleton]
  by_cases h : body.codeLength = 0
  · have hsize := body.codeSize_eq_zero_iff.2 h
    rw [layout_eq_nothing flags body h, Layout.copies_nothing, Layout.nothing_append, layout,
      layout, if_pos hsize, if_pos hsize]
  · have hmin : n ≠ 0 := Nat.ne_of_gt hn
    rw [layout_repetition flags h, layout_repetition flags h]
    simp [Layout.repeated, hmin, Layout.copies]

/-- Nodes with one and the same layout are written alike, or there is no room for either. -/
theorem emit_eq_of_layout_eq {flags : Flags} {node node' : Node}
    (h : node.layout flags = node'.layout flags) {d : Draft}
    (hd : d.here ≤ Engine.maxInstructions) : node.emit flags d = node'.emit flags d := by
  have hlength : node.codeLength = node'.codeLength := by
    rw [← node.hasLength_layout flags 0 [], h, node'.hasLength_layout flags 0 []]
  by_cases hroom : d.here + node.codeLength ≤ Engine.maxInstructions
  · rw [(node.emit_realizes flags).fits d hroom, h]
    exact ((node'.emit_realizes flags).fits d (hlength ▸ hroom)).symm
  · have hfull : Engine.maxInstructions < d.here + node.codeLength := Nat.not_le.1 hroom
    rw [(node.emit_realizes flags).overflows d hd hfull,
      (node'.emit_realizes flags).overflows d hd (hlength ▸ hfull)]

end Node

/-- **Counted repetition is its unrolling.** Behind any draft, a repetition of `n` to `m`
times is written as `n` copies of its body with nested optional copies behind them, and a
repetition of at least `n` times as `n - 1` copies with one of at least once behind them:
the same instructions and class table come of it, or both are refused. -/
theorem emit_repetition_eq_unrolled (flags : Flags) (body : Node) (greedy : Bool) (d : Draft)
    (hd : d.code.size ≤ 32767) :
    (∀ n m, n ≤ m → (Node.repetition body ⟨n, some m, greedy⟩).emit flags d =
      (Node.concat (List.replicate n body ++ [body.optionalCopies greedy (m - n)])).emit
        flags d) ∧
    ∀ n, 2 ≤ n → (Node.repetition body ⟨n, none, greedy⟩).emit flags d =
      (Node.concat (List.replicate (n - 1) body ++
        [Node.repetition body ⟨1, none, greedy⟩])).emit flags d := by
  constructor
  · intro n m _
    exact Node.emit_eq_of_layout_eq (Node.layout_repetition_some flags body greedy n m) hd
  · intro n hn
    have hlayout := Node.layout_repetition_none flags body greedy (Nat.le_of_succ_le hn)
    exact Node.emit_eq_of_layout_eq hlayout hd

/-- A lazy repetition of one letter from one to three times, and one of at least two times. -/
theorem emit_repetition_of_letter :
    Draft.empty.code.size ≤ 32767 ∧ 1 ≤ 3 ∧ 2 ≤ 2 ∧
      (Node.repetition (.leaf (.char 'a')) ⟨1, some 3, false⟩).emit .none .empty =
        (Node.concat [.leaf (.char 'a'), (Node.leaf (.char 'a')).optionalCopies false 2]).emit
          .none .empty ∧
      ((Node.repetition (.leaf (.char 'a')) ⟨1, some 3, false⟩).emit .none .empty).map
        (fun d => d.code.toList.map Instruction.opcode?) =
          some [some .char, some .split, some .char, some .split, some .char] ∧
      (Node.repetition (.leaf (.char 'a')) ⟨2, none, false⟩).emit .none .empty =
        (Node.concat [.leaf (.char 'a'),
          Node.repetition (.leaf (.char 'a')) ⟨1, none, false⟩]).emit .none .empty := by
  have hempty : Draft.empty.code.size ≤ 32767 := by decide
  have h := emit_repetition_eq_unrolled .none (.leaf (.char 'a')) false .empty hempty
  exact ⟨hempty, by decide, by decide, h.1 1 3 (by decide), by decide +kernel, h.2 2 (by decide)⟩

end DeviceRegex
