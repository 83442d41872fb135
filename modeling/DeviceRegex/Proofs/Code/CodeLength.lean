import DeviceRegex.Code.Layout
import Mathlib.Tactic.Ring

/-!
# The length of code

The exact number of instructions of a node is a natural number without a largest
value. The size that the program computes is this number, stopped at the largest size,
and a layout has exactly this many instructions, wherever it stands and whatever the
flags and the class table are.

## Main definitions

* `Node.codeLength` — the exact number of instructions of a node.
* `Layout.HasLength l n` — a layout of `n` instructions at every place.
-/
namespace DeviceRegex

/-- The number of instructions of a repeated body. -/
def Quantifier.codeLength (times : Quantifier) (body : Nat) : Nat :=
  if body = 0 then 0
  else
    match times.max with
    | none => if times.min = 0 then body + 2 else times.min * body + 1
    | some max => times.min * body + (max - times.min) * (body + 1)

mutual
/-- The number of instructions of a node. -/
def Node.codeLength : Node → Nat
  | .empty => 0
  | .leaf _ => 1
  | .group (some _) body => 2 + body.codeLength
  | .group none body => body.codeLength
  | .concat parts => Node.codeLengths parts
  | .alternate branches => 2 * (branches.length - 1) + Node.codeLengths branches
  | .repetition body times => times.codeLength body.codeLength

/-- The number of instructions of all nodes of a list together. -/
def Node.codeLengths : List Node → Nat
  | [] => 0
  | node :: nodes => node.codeLength + Node.codeLengths nodes
end

/-! ## The computed size -/

/-- A product does not change beyond the largest size when a factor is stopped there. -/
theorem min_mul_min_max (m n : Nat) :
    min (min m Size.max * n) Size.max = min (m * n) Size.max := by
  rcases Nat.le_total m Size.max with hm | hm
  · rw [Nat.min_eq_left hm]
  · rw [Nat.min_eq_right hm]
    cases n with
    | zero => simp
    | succ n =>
      have hmul : m ≤ m * (n + 1) := Nat.le_mul_of_pos_right m (Nat.succ_pos n)
      have hmax : Size.max ≤ Size.max * (n + 1) := Nat.le_mul_of_pos_right _ (Nat.succ_pos n)
      rw [Nat.min_eq_right hmax, Nat.min_eq_right (by omega)]

theorem Size.eq_zero_iff {s : Size} {n : Nat} (h : s.toNat = min n Size.max) : s = 0 ↔ n = 0 := by
  rw [← UInt64.toNat_inj, h]
  have hmax : 0 < Size.max := by decide
  change min n Size.max = 0 ↔ n = 0
  omega

/-- The computed size of a repetition is exact as soon as that of its body is. -/
theorem toNat_codeSize_repetition (times : Quantifier) {s : Size} {n : Nat}
    (h : s.toNat = min n Size.max) :
    (times.codeSize s).toNat = min (times.codeLength n) Size.max := by
  unfold Quantifier.codeSize Quantifier.codeLength
  by_cases hn : n = 0
  · rw [if_pos ((Size.eq_zero_iff h).2 hn), if_pos hn]
    rfl
  rw [if_neg (mt (Size.eq_zero_iff h).1 hn), if_neg hn]
  have hcopies : min (s.toNat * times.min) Size.max = min (times.min * n) Size.max := by
    rw [h, min_mul_min_max, Nat.mul_comm]
  cases times.max with
  | none =>
    by_cases hmin : times.min = 0
    · simp only [hmin, if_true, Size.toNat_satAdd, h]
      change min (min n Size.max + 2) Size.max = _
      omega
    · simp only [hmin, if_false, Size.toNat_satAdd, Size.toNat_saturate, hcopies]
      change min (min (times.min * n) Size.max + 1) Size.max = _
      omega
  | some max =>
    have hone : (Size.satAdd s 1).toNat = min (n + 1) Size.max := by
      rw [Size.toNat_satAdd, h]
      change min (min n Size.max + 1) Size.max = _
      omega
    have hoptional : min ((max - times.min) * (Size.satAdd s 1).toNat) Size.max =
        min ((max - times.min) * (n + 1)) Size.max := by
      rw [hone, Nat.mul_comm, min_mul_min_max, Nat.mul_comm]
    rw [Size.toNat_satAdd, Size.toNat_saturate, Size.toNat_saturate, hcopies, hoptional]
    change _ = min (times.min * n + (max - times.min) * (n + 1)) Size.max
    omega

mutual
/-- The computed size of a node is its exact length, stopped at the largest size. -/
theorem Node.toNat_codeSize : (node : Node) →
    node.codeSize.toNat = min node.codeLength Size.max
  | .empty => rfl
  | .leaf _ => rfl
  | .group (some _) body => by
    have ih := Node.toNat_codeSize body
    simp only [Node.codeSize, Node.codeLength, Size.toNat_satAdd, ih]
    change min (min _ Size.max + 2) Size.max = _
    omega
  | .group none body => by
    simpa only [Node.codeSize, Node.codeLength] using Node.toNat_codeSize body
  | .concat parts => by
    simpa only [Node.codeSize, Node.codeLength] using Node.toNat_codeSizes parts
  | .alternate branches => by
    have ih := Node.toNat_codeSizes branches
    simp only [Node.codeSize, Node.codeLength, Size.toNat_satAdd, Size.toNat_saturate, ih]
    omega
  | .repetition body times => by
    simpa only [Node.codeSize, Node.codeLength] using
      toNat_codeSize_repetition times (Node.toNat_codeSize body)

theorem Node.toNat_codeSizes : (nodes : List Node) →
    (Node.codeSizes nodes).toNat = min (Node.codeLengths nodes) Size.max
  | [] => rfl
  | node :: nodes => by
    have hnode := Node.toNat_codeSize node
    have hnodes := Node.toNat_codeSizes nodes
    simp only [Node.codeSizes, Node.codeLengths, Size.toNat_satAdd, hnode, hnodes]
    omega
end

/-- Stopping at the largest size does not hide that a body has code. -/
theorem Node.codeSize_eq_zero_iff (node : Node) : node.codeSize = 0 ↔ node.codeLength = 0 :=
  Size.eq_zero_iff node.toNat_codeSize

/-! ## The length of layouts -/

/-- The layout has `n` instructions at every place. -/
def Layout.HasLength (l : Layout) (n : Nat) : Prop :=
  ∀ pc table, (l pc table).code.length = n

namespace Layout.HasLength
variable {first second part : Layout} {m n : Nat}

theorem nothing : Layout.nothing.HasLength 0 := fun _ _ => rfl

theorem single (i : Instruction) : (Layout.single i).HasLength 1 := fun _ _ => rfl

theorem append (hfirst : first.HasLength m) (hsecond : second.HasLength n) :
    (Layout.append first second).HasLength (m + n) := by
  intro pc table
  simp only [Layout.append, List.length_append, hfirst _ _, hsecond _ _]

theorem choice (hfirst : first.HasLength m) (hsecond : second.HasLength n) :
    (Layout.choice first second).HasLength (m + n + 2) := by
  intro pc table
  simp only [Layout.choice, List.length_cons, List.length_append, hfirst _ _, hsecond _ _]
  omega

theorem optional (greedy : Bool) (hpart : part.HasLength n) :
    (Layout.optional greedy part).HasLength (n + 1) := by
  intro pc table
  simp only [Layout.optional, List.length_cons, hpart _ _]

theorem star (greedy : Bool) (hpart : part.HasLength n) :
    (Layout.star greedy part).HasLength (n + 2) := by
  intro pc table
  simp only [Layout.star, List.length_append, List.length_cons, List.length_nil, hpart _ _]

theorem plus (greedy : Bool) (hpart : part.HasLength n) :
    (Layout.plus greedy part).HasLength (n + 1) := by
  intro pc table
  simp only [Layout.plus, List.length_append, List.length_cons, List.length_nil, hpart _ _]

theorem copies (hpart : part.HasLength n) : (k : Nat) →
    (Layout.copies part k).HasLength (k * n)
  | 0 => by
    rw [Nat.zero_mul]
    exact nothing
  | k + 1 => by
    have h := hpart.append (copies hpart k)
    rwa [show n + k * n = (k + 1) * n by ring] at h

theorem optionals (greedy : Bool) (hpart : part.HasLength n) : (k : Nat) →
    (Layout.optionals greedy part k).HasLength (k * (n + 1))
  | 0 => by
    rw [Nat.zero_mul]
    exact nothing
  | k + 1 => by
    have h := (hpart.append (optionals greedy hpart k)).optional greedy
    rwa [show n + k * (n + 1) + 1 = (k + 1) * (n + 1) by ring] at h

theorem repeated (times : Quantifier) (hpart : part.HasLength n) (hn : n ≠ 0) :
    (Layout.repeated times part).HasLength (times.codeLength n) := by
  unfold Layout.repeated Quantifier.codeLength
  rw [if_neg hn]
  cases times.max with
  | none =>
    by_cases hmin : times.min = 0
    · simp only [hmin, if_true]
      exact hpart.star times.greedy
    · simp only [hmin, if_false]
      obtain ⟨k, hk⟩ := Nat.exists_eq_succ_of_ne_zero hmin
      have h := (hpart.copies k).append (hpart.plus times.greedy)
      rw [hk, Nat.succ_sub_one]
      rwa [show k * n + (n + 1) = k.succ * n + 1 by rw [Nat.succ_mul]; omega] at h
  | some max => exact (hpart.copies times.min).append (hpart.optionals times.greedy _)

end Layout.HasLength

theorem Letter.length_segment (l : Letter) (table : ClassTable) :
    (l.segment table).code.length = 1 := by
  cases l <;> rfl

mutual
/-- A node is laid out in as many instructions as its length says. -/
theorem Node.hasLength_layout (flags : Flags) : (node : Node) →
    (node.layout flags).HasLength node.codeLength
  | .empty => .nothing
  | .leaf l => fun _ table => (l.letter flags).length_segment table
  | .group (some index) body => by
    have ih := Node.hasLength_layout flags body
    have h := Layout.HasLength.append (.single (.make .openGroup index 0))
      (ih.append (.single (.make .closeGroup index 0)))
    simp only [Node.layout, Node.codeLength]
    rwa [show 1 + (body.codeLength + 1) = 2 + body.codeLength by omega] at h
  | .group none body => by
    simpa only [Node.layout, Node.codeLength] using Node.hasLength_layout flags body
  | .concat parts => by
    simpa only [Node.layout, Node.codeLength] using Node.hasLength_layoutAll flags parts
  | .alternate branches => by
    simpa only [Node.layout, Node.codeLength] using Node.hasLength_layoutChoice flags branches
  | .repetition body times => by
    have ih := Node.hasLength_layout flags body
    simp only [Node.layout, Node.codeLength, Node.codeSize_eq_zero_iff]
    by_cases hbody : body.codeLength = 0
    · simpa only [hbody, if_true, Quantifier.codeLength] using Layout.HasLength.nothing
    · simpa only [hbody, if_false] using ih.repeated times hbody

theorem Node.hasLength_layoutAll (flags : Flags) : (nodes : List Node) →
    (Node.layoutAll flags nodes).HasLength (Node.codeLengths nodes)
  | [] => .nothing
  | node :: nodes =>
    (Node.hasLength_layout flags node).append (Node.hasLength_layoutAll flags nodes)

theorem Node.hasLength_layoutChoice (flags : Flags) : (nodes : List Node) →
    (Node.layoutChoice flags nodes).HasLength
      (2 * (nodes.length - 1) + Node.codeLengths nodes)
  | [] => .nothing
  | [node] => by
    simpa [Node.layoutChoice, Node.codeLengths] using Node.hasLength_layout flags node
  | node :: next :: nodes => by
    have h := (Node.hasLength_layout flags node).choice
      (Node.hasLength_layoutChoice flags (next :: nodes))
    simp only [Node.layoutChoice, Node.codeLengths, List.length_cons] at h ⊢
    convert h using 1
    omega
end

end DeviceRegex
