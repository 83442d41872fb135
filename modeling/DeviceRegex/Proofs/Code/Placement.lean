import DeviceRegex.Code.Compiled
import DeviceRegex.Proofs.Charset.Interning
import DeviceRegex.Proofs.Code.CodeLength

/-!
# Placed layouts

A layout is placed when its segment stands in a larger piece of code, at the place for
which it was made, and when the entries of its class table are those of the final one.
What stands where is read off the form of the layout once for each combinator.

## Main definitions

* `StandsAt code pc part` — the code has `part` from `pc` on.
* `Layout.Grows` — the class table keeps its entries and gets at most one for each
  instruction.
* `Layout.Placed` — the layout stands in the code and shares its table.
* `Layout.Closed P` — the property `P` of layouts is kept by all ways to put them
  together, and so holds of every node.
-/
namespace DeviceRegex

/-- The code has `part` from `pc` on. -/
def StandsAt (code : List Instruction) (pc : Nat) (part : List Instruction) : Prop :=
  part <+: code.drop pc

section
variable {code part : List Instruction} {pc : Nat}

@[simp] theorem standsAt_nil : StandsAt code pc [] := List.nil_prefix

@[simp] theorem standsAt_cons {i : Instruction} :
    StandsAt code pc (i :: part) ↔ code[pc]? = some i ∧ StandsAt code (pc + 1) part := by
  unfold StandsAt
  constructor
  · rintro ⟨rest, h⟩
    have hhead : code[pc]? = some i := by
      rw [← List.head?_drop, ← h]
      rfl
    have htail : code.drop (pc + 1) = part ++ rest := by
      rw [← List.tail_drop, ← h]
      rfl
    exact ⟨hhead, rest, htail.symm⟩
  · rintro ⟨hhead, rest, h⟩
    refine ⟨rest, ?_⟩
    obtain ⟨hlt, hget⟩ := List.getElem?_eq_some_iff.1 hhead
    rw [List.drop_eq_getElem_cons hlt, hget, ← h]
    rfl

@[simp] theorem standsAt_append {before after : List Instruction} :
    StandsAt code pc (before ++ after) ↔
      StandsAt code pc before ∧ StandsAt code (pc + before.length) after := by
  induction before generalizing pc with
  | nil => simp
  | cons i before ih =>
    simp only [List.cons_append, standsAt_cons, ih, List.length_cons, and_assoc]
    rw [show pc + 1 + before.length = pc + (before.length + 1) by omega]

/-- A segment that stands in the code ends in it. -/
theorem StandsAt.end_le (h : StandsAt code pc part) (hpart : part ≠ []) :
    pc + part.length ≤ code.length := by
  have hlen := List.IsPrefix.length_le h
  have hpos := List.length_pos_iff.2 hpart
  rw [List.length_drop] at hlen
  omega

end

/-! ## Class tables -/

/-- The layout keeps the entries of the class table, and adds at most one for each
instruction. -/
structure Layout.Grows (l : Layout) : Prop where
  keeps : ∀ pc table, table <+: (l pc table).table
  length_le : ∀ pc table, (l pc table).table.length ≤ table.length + (l pc table).code.length

namespace Layout.Grows
variable {first second part : Layout}

theorem nothing : Layout.nothing.Grows where
  keeps _ _ := List.prefix_rfl
  length_le _ _ := Nat.le_refl _

theorem single (i : Instruction) : (Layout.single i).Grows where
  keeps _ _ := List.prefix_rfl
  length_le _ _ := Nat.le_add_right _ _

theorem letter (l : Letter) : Layout.Grows fun _ table => l.segment table where
  keeps _ table := by
    cases l with
    | plain i => exact List.prefix_rfl
    | member s negated => exact ClassTable.prefix_intern table s
  length_le _ table := by
    cases l with
    | plain i => exact Nat.le_add_right _ _
    | member s negated => exact ClassTable.length_intern_le table s

theorem append (hfirst : first.Grows) (hsecond : second.Grows) :
    (Layout.append first second).Grows where
  keeps _ _ := (hfirst.keeps _ _).trans (hsecond.keeps _ _)
  length_le pc table := by
    have h := hfirst.length_le pc table
    have h' := hsecond.length_le (pc + (first pc table).code.length) (first pc table).table
    simp only [Layout.append, List.length_append]
    omega

theorem choice (hfirst : first.Grows) (hsecond : second.Grows) :
    (Layout.choice first second).Grows where
  keeps _ _ := (hfirst.keeps _ _).trans (hsecond.keeps _ _)
  length_le pc table := by
    have h := hfirst.length_le (pc + 1) table
    have h' := hsecond.length_le (pc + 2 + (first (pc + 1) table).code.length)
      (first (pc + 1) table).table
    simp only [Layout.choice, List.length_cons, List.length_append]
    omega

theorem optional (greedy : Bool) (hpart : part.Grows) : (Layout.optional greedy part).Grows where
  keeps _ _ := hpart.keeps _ _
  length_le pc table := by
    have h := hpart.length_le (pc + 1) table
    simp only [Layout.optional, List.length_cons]
    omega

theorem star (greedy : Bool) (hpart : part.Grows) : (Layout.star greedy part).Grows where
  keeps _ _ := hpart.keeps _ _
  length_le pc table := by
    have h := hpart.length_le (pc + 1) table
    simp only [Layout.star, List.length_append, List.length_cons]
    omega

theorem plus (greedy : Bool) (hpart : part.Grows) : (Layout.plus greedy part).Grows where
  keeps _ _ := hpart.keeps _ _
  length_le pc table := by
    have h := hpart.length_le pc table
    simp only [Layout.plus, List.length_append]
    omega

end Layout.Grows

/-! ## Properties of all layouts -/

/-- The property holds of leaves and group markers, and is kept by all ways to put
layouts together. -/
structure Layout.Closed (P : Layout → Prop) : Prop where
  nothing : P .nothing
  letter : ∀ (flags : Flags) (l : Leaf), P fun _ table => (l.letter flags).segment table
  openGroup : ∀ index, P (.single (.make .openGroup index 0))
  closeGroup : ∀ index, P (.single (.make .closeGroup index 0))
  append : ∀ {first second}, P first → P second → P (.append first second)
  choice : ∀ {first second}, P first → P second → P (.choice first second)
  optional : ∀ greedy {part}, P part → P (.optional greedy part)
  star : ∀ greedy {part}, P part → P (.star greedy part)
  plus : ∀ greedy {part}, P part → P (.plus greedy part)

namespace Layout.Closed
variable {P : Layout → Prop} (h : Layout.Closed P) {part : Layout}
include h

theorem copies (hpart : P part) : (n : Nat) → P (Layout.copies part n)
  | 0 => h.nothing
  | n + 1 => h.append hpart (copies hpart n)

theorem optionals (greedy : Bool) (hpart : P part) :
    (n : Nat) → P (Layout.optionals greedy part n)
  | 0 => h.nothing
  | n + 1 => h.optional greedy (h.append hpart (optionals greedy hpart n))

theorem repeated (times : Quantifier) (hpart : P part) : P (Layout.repeated times part) := by
  unfold Layout.repeated
  split
  · split
    · exact h.star times.greedy hpart
    · exact h.append (h.copies hpart _) (h.plus times.greedy hpart)
  · exact h.append (h.copies hpart _) (h.optionals times.greedy hpart _)

end Layout.Closed

mutual
/-- What all ways to put layouts together keep holds of every node. -/
theorem Layout.Closed.node {P : Layout → Prop} (h : Layout.Closed P) (flags : Flags) :
    (node : Node) → P (node.layout flags)
  | .empty => h.nothing
  | .leaf l => h.letter flags l
  | .group (some index) body =>
    h.append (h.openGroup index) (h.append (h.node flags body) (h.closeGroup index))
  | .group none body => h.node flags body
  | .concat parts => h.nodes flags parts
  | .alternate branches => h.branches flags branches
  | .repetition body times => by
    rw [Node.layout]
    split
    · exact h.nothing
    · exact h.repeated times (h.node flags body)

theorem Layout.Closed.nodes {P : Layout → Prop} (h : Layout.Closed P) (flags : Flags) :
    (nodes : List Node) → P (Node.layoutAll flags nodes)
  | [] => h.nothing
  | node :: nodes => h.append (h.node flags node) (h.nodes flags nodes)

theorem Layout.Closed.branches {P : Layout → Prop} (h : Layout.Closed P) (flags : Flags) :
    (nodes : List Node) → P (Node.layoutChoice flags nodes)
  | [] => h.nothing
  | [node] => h.node flags node
  | node :: next :: nodes => h.choice (h.node flags node) (h.branches flags (next :: nodes))
end

theorem Layout.Grows.closed : Layout.Closed Layout.Grows where
  nothing := .nothing
  letter flags l := .letter (l.letter flags)
  openGroup _ := .single _
  closeGroup _ := .single _
  append := .append
  choice := .choice
  optional greedy _ := .optional greedy
  star greedy _ := .star greedy
  plus greedy _ := .plus greedy

/-! ## Where layouts end -/

namespace Layout
variable (first second part : Layout) (greedy : Bool) (pc : Nat) (table : ClassTable)

theorem end_append :
    pc + (append first second pc table).code.length =
      pc + (first pc table).code.length +
        (second (pc + (first pc table).code.length) (first pc table).table).code.length := by
  simp only [append, List.length_append]
  omega

theorem end_choice :
    pc + (choice first second pc table).code.length =
      pc + 2 + (first (pc + 1) table).code.length +
        (second (pc + 2 + (first (pc + 1) table).code.length)
          (first (pc + 1) table).table).code.length := by
  simp only [choice, List.length_cons, List.length_append]
  omega

theorem end_optional :
    pc + (optional greedy part pc table).code.length =
      pc + 1 + (part (pc + 1) table).code.length := by
  simp only [optional, List.length_cons]
  omega

theorem end_star :
    pc + (star greedy part pc table).code.length =
      pc + 2 + (part (pc + 1) table).code.length := by
  simp only [star, List.length_cons, List.length_append, List.length_nil]
  omega

theorem end_plus :
    pc + (plus greedy part pc table).code.length =
      pc + (part pc table).code.length + 1 := by
  simp only [plus, List.length_append, List.length_singleton]
  omega

end Layout

/-! ## Placed layouts -/

/-- The layout stands in the code from `pc` on, and the entries of its class table are
those of the whole. `before` is the table in front of it. -/
structure Layout.Placed (l : Layout) (code : List Instruction) (table : ClassTable) (pc : Nat)
    (before : ClassTable) : Prop where
  stands : StandsAt code pc (l pc before).code
  shares : (l pc before).table <+: table

namespace Layout.Placed
variable {first second part : Layout} {code : List Instruction} {table before : ClassTable}
  {pc : Nat} {greedy : Bool}

theorem append (h : (Layout.append first second).Placed code table pc before)
    (hsecond : second.Grows) :
    first.Placed code table pc before ∧
      second.Placed code table (pc + (first pc before).code.length) (first pc before).table := by
  have hstands := standsAt_append.1 h.stands
  exact ⟨⟨hstands.1, (hsecond.keeps _ _).trans h.shares⟩, ⟨hstands.2, h.shares⟩⟩

theorem choice (h : (Layout.choice first second).Placed code table pc before)
    (hsecond : second.Grows) :
    let s := first (pc + 1) before
    let next := pc + 2 + s.code.length
    code[pc]? = some (.make .split (pc + 1) next) ∧
      first.Placed code table (pc + 1) before ∧
      code[pc + 1 + s.code.length]? =
        some (.make .jump (next + (second next s.table).code.length) 0) ∧
      second.Placed code table next s.table := by
  intro s next
  have hstands := h.stands
  simp only [Layout.choice, List.cons_append, standsAt_cons, standsAt_append] at hstands
  obtain ⟨hsplit, hfirst, hjump, hrest⟩ := hstands
  have hnext : pc + 1 + s.code.length + 1 = next := by omega
  rw [hnext] at hrest
  exact ⟨hsplit, ⟨hfirst, (hsecond.keeps _ _).trans h.shares⟩, hjump, ⟨hrest, h.shares⟩⟩

theorem optional (h : (Layout.optional greedy part).Placed code table pc before) :
    code[pc]? = some (Layout.branch greedy (pc + 1)
        (pc + 1 + (part (pc + 1) before).code.length)) ∧
      part.Placed code table (pc + 1) before := by
  have hstands := standsAt_cons.1 h.stands
  exact ⟨hstands.1, hstands.2, h.shares⟩

theorem star (h : (Layout.star greedy part).Placed code table pc before) :
    let s := part (pc + 1) before
    code[pc]? = some (Layout.branch greedy (pc + 1) (pc + 2 + s.code.length)) ∧
      part.Placed code table (pc + 1) before ∧
      code[pc + 1 + s.code.length]? = some (.make .jump pc 0) := by
  have hstands := h.stands
  simp only [Layout.star, List.cons_append, standsAt_cons, standsAt_append] at hstands
  exact ⟨hstands.1, ⟨hstands.2.1, h.shares⟩, hstands.2.2.1⟩

theorem plus (h : (Layout.plus greedy part).Placed code table pc before) :
    let s := part pc before
    part.Placed code table pc before ∧
      code[pc + s.code.length]? =
        some (Layout.branch greedy pc (pc + s.code.length + 1)) := by
  have hstands := h.stands
  simp only [Layout.plus, standsAt_cons, standsAt_append] at hstands
  exact ⟨⟨hstands.1, h.shares⟩, hstands.2.1⟩

end Layout.Placed

end DeviceRegex
