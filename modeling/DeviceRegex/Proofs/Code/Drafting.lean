import DeviceRegex.Code.Compiled
import DeviceRegex.Proofs.Charset.Interning
import DeviceRegex.Proofs.Code.CodeLength
import DeviceRegex.Proofs.Code.PatchLoops

/-!
# Drafts are laid out

Writing a part of the code appends the layout of the part to the draft when there is
room for all of it, and fails otherwise, although room is looked for at every single
instruction and in front of every repetition, and although branches are written before
their targets are known. Nothing written before is touched.

## Main definitions

* `Draft.append` — a draft followed by a segment.
* `Emission.Realizes e l n` — the emission `e` writes the layout `l` of `n`
  instructions.
-/
namespace DeviceRegex

namespace Draft

/-- A draft followed by a segment, with the class table of the segment. -/
def append (d : Draft) (s : Segment) : Draft := ⟨d.code ++ s.code.toArray, .ofTable s.table⟩

@[simp] theorem here_append (d : Draft) (s : Segment) :
    (d.append s).here = d.here + s.code.length := by
  simp [append, here]

@[simp] theorem table_append (d : Draft) (s : Segment) : (d.append s).table = s.table := rfl

@[simp] theorem append_append (d : Draft) (s t : Segment) :
    (d.append s).append t = d.append ⟨s.code ++ t.code, t.table⟩ := by
  simp [append]

theorem append_nil (d : Draft) : d.append ⟨[], d.table⟩ = d := by simp [append, table]

/-- An instruction is written where there is room for it. -/
theorem push?_of_lt {d : Draft} (h : d.here < Engine.maxInstructions) (i : Instruction) :
    d.push? i = some (d.append ⟨[i], d.table⟩) := by
  have hroom : ¬Engine.maxInstructions ≤ d.code.size := Nat.not_le.2 h
  simp [push?, append, table, hroom]

theorem push?_of_le {d : Draft} (h : Engine.maxInstructions ≤ d.here) (i : Instruction) :
    d.push? i = none := if_pos h

/-- A letter that asks for a set refers to the entry of the set. -/
theorem pushLetter?_member (d : Draft) (s : Charset) (negated : Bool) :
    d.pushLetter? (.member s negated) =
      { d with classes := .ofTable (d.table.intern s) }.push?
        (.make (if negated then .notInClass else .inClass) (d.table.index s) 0) := by
  rw [pushLetter?, Interner.intern_eq]
  rfl

/-- Patching an instruction leaves what stands before and after it. -/
theorem modify_append (d : Draft) (before after : List Instruction) (i : Instruction)
    (table : ClassTable) (f : Instruction → Instruction) :
    (d.append ⟨before ++ i :: after, table⟩).code.modify (d.here + before.length) f =
      (d.append ⟨before ++ f i :: after, table⟩).code := by
  apply Array.toList_inj.1
  have h := List.modifyTailIdx_add (List.modifyHead f) 0 (d.code.toList ++ before) (i :: after)
  simpa [append, here, List.modify, List.append_assoc] using h

theorem patchA_append (d : Draft) (before after : List Instruction) (i : Instruction)
    (table : ClassTable) (target : Nat) :
    (d.append ⟨before ++ i :: after, table⟩).patchA (d.here + before.length) target =
      d.append ⟨before ++ i.setA target :: after, table⟩ := by
  rw [patchA, modify_append]
  rfl

theorem patchB_append (d : Draft) (before after : List Instruction) (i : Instruction)
    (table : ClassTable) (target : Nat) :
    (d.append ⟨before ++ i :: after, table⟩).patchB (d.here + before.length) target =
      d.append ⟨before ++ i.setB target :: after, table⟩ := by
  rw [patchB, modify_append]
  rfl

theorem patchSplit_append (d : Draft) (before after : List Instruction) (a b : Nat)
    (table : ClassTable) (first second : Nat) :
    (d.append ⟨before ++ .make .split a b :: after, table⟩).patchSplit
        (d.here + before.length) first second =
      d.append ⟨before ++ .make .split first second :: after, table⟩ := by
  rw [patchSplit, patchA_append, patchB_append, Instruction.setA_make, Instruction.setB_make]

theorem prefer_append (d : Draft) (before after : List Instruction) (a b : Nat)
    (table : ClassTable) (greedy : Bool) (body out : Nat) :
    (d.append ⟨before ++ .make .split a b :: after, table⟩).prefer greedy
        (d.here + before.length) body out =
      d.append ⟨before ++ Layout.branch greedy body out :: after, table⟩ := by
  cases greedy <;> exact d.patchSplit_append before after a b table _ _

/-- The first instruction of a segment stands at the end of the draft before it. -/
theorem patchSplit_append_cons (d : Draft) (after : List Instruction) (a b : Nat)
    (table : ClassTable) (first second : Nat) :
    (d.append ⟨.make .split a b :: after, table⟩).patchSplit d.here first second =
      d.append ⟨.make .split first second :: after, table⟩ :=
  d.patchSplit_append [] after a b table first second

theorem prefer_append_cons (d : Draft) (after : List Instruction) (a b : Nat)
    (table : ClassTable) (greedy : Bool) (body out : Nat) :
    (d.append ⟨.make .split a b :: after, table⟩).prefer greedy d.here body out =
      d.append ⟨Layout.branch greedy body out :: after, table⟩ :=
  d.prefer_append [] after a b table greedy body out

end Draft

/-! ## Emissions and layouts -/

/-- The emission writes the layout of `n` instructions: it appends it if there is room
for all of it, and fails otherwise. -/
structure Emission.Realizes (e : Emission) (l : Layout) (n : Nat) : Prop where
  length : l.HasLength n
  fits : ∀ d : Draft, d.here + n ≤ Engine.maxInstructions → e d = some (d.append (l d.here d.table))
  overflows : ∀ d : Draft, d.here ≤ Engine.maxInstructions →
    Engine.maxInstructions < d.here + n → e d = none

namespace Emission.Realizes
variable {e first second part : Emission} {l lfirst lsecond lpart : Layout} {m n : Nat}

theorem nothing : Realizes some .nothing 0 where
  length := .nothing
  fits _ _ := by rw [Layout.nothing, Draft.append_nil]
  overflows _ h h' := absurd h' (by omega)

theorem push (i : Instruction) : Realizes (·.push? i) (.single i) 1 where
  length := .single i
  fits _ h := Draft.push?_of_lt h i
  overflows _ _ h := Draft.push?_of_le (Nat.le_of_lt_succ h) i

theorem letter (l : Letter) : Realizes (·.pushLetter? l) (fun _ table => l.segment table) 1 where
  length := fun _ table => l.length_segment table
  fits d h := by
    cases l with
    | plain i => exact Draft.push?_of_lt h i
    | member s negated =>
      rw [Draft.pushLetter?_member]
      exact Draft.push?_of_lt (d := ⟨d.code, .ofTable (d.table.intern s)⟩) h _
  overflows d _ h := by
    cases l with
    | plain i => exact Draft.push?_of_le (Nat.le_of_lt_succ h) i
    | member s negated =>
      rw [Draft.pushLetter?_member]
      exact Draft.push?_of_le (d := ⟨d.code, .ofTable (d.table.intern s)⟩)
        (Nat.le_of_lt_succ h) _

/-- One part after the other. If the first part fits and the second one does not, the
second emission finds no room. -/
theorem append (hfirst : first.Realizes lfirst m) (hsecond : second.Realizes lsecond n) :
    Realizes (fun d => first d >>= second) (.append lfirst lsecond) (m + n) where
  length := hfirst.length.append hsecond.length
  fits d h := by
    have hlen := hfirst.length d.here d.table
    rw [hfirst.fits d (by omega), Option.bind_eq_bind, Option.bind_some,
      hsecond.fits _ (by rw [Draft.here_append]; omega)]
    simp [Layout.append]
  overflows d h h' := by
    have hlen := hfirst.length d.here d.table
    by_cases hm : d.here + m ≤ Engine.maxInstructions
    · rw [hfirst.fits d hm, Option.bind_eq_bind, Option.bind_some,
        hsecond.overflows _ (by rw [Draft.here_append]; omega) (by rw [Draft.here_append]; omega)]
    · rw [hfirst.overflows d h (by omega)]
      rfl

/-- An emission that patches what another one has written writes the patched layout.
The patch may depend on the draft at the start, and so may the other emission. -/
theorem of_patch (hlen : l.HasLength n)
    (h : ∀ d : Draft, d.here ≤ Engine.maxInstructions → ∃ skeleton layout patch,
      Realizes skeleton layout n ∧ e d = (skeleton d).map patch ∧
        patch (d.append (layout d.here d.table)) = d.append (l d.here d.table)) :
    Realizes e l n where
  length := hlen
  fits d hd := by
    obtain ⟨skeleton, layout, patch, hs, he, hp⟩ := h d (by omega)
    rw [he, hs.fits d hd, Option.map_some, hp]
  overflows d hd hd' := by
    obtain ⟨skeleton, layout, patch, hs, he, -⟩ := h d hd
    rw [he, hs.overflows d hd hd', Option.map_none]

theorem star (greedy : Bool) (hpart : part.Realizes lpart n) :
    Realizes (.star greedy part) (.star greedy lpart) (n + 2) := by
  refine of_patch (hpart.length.star greedy) fun d _ => ?_
  have hs := (push (.make .split 0 0)).append (hpart.append (push (.make .jump d.here 0)))
  rw [show 1 + (n + 1) = n + 2 by omega] at hs
  refine ⟨_, _, fun d' => d'.prefer greedy d.here (d.here + 1) d'.here, hs, ?_, ?_⟩
  · simp [Emission.star, Draft.pushSplit?, Option.map_eq_bind, Option.bind_assoc]
  · simp only [Layout.append, Layout.single, Layout.star, List.cons_append, List.nil_append,
      List.length_nil, Nat.zero_add, Draft.here_append, List.length_cons, List.length_append,
      Draft.prefer_append_cons]
    congr 4
    omega

theorem plus (greedy : Bool) (hpart : part.Realizes lpart n) :
    Realizes (.plus greedy part) (.plus greedy lpart) (n + 1) := by
  refine of_patch (hpart.length.plus greedy) fun d hd => ?_
  have hlen := hpart.length d.here d.table
  refine ⟨_, _, fun d' => d'.prefer greedy (d.here + n) d.here (d.here + n + 1),
    hpart.append (push (.make .split 0 0)), ?_, ?_⟩
  · by_cases hn : d.here + n ≤ Engine.maxInstructions
    · simp [Emission.plus, Draft.pushSplit?, hpart.fits d hn, hlen, Option.map_eq_bind]
    · simp [Emission.plus, hpart.overflows d hd (by omega)]
  · have hpatch := d.prefer_append (lpart d.here d.table).code [] 0 0
      (lpart d.here d.table).table greedy d.here (d.here + n + 1)
    rw [hlen] at hpatch
    simp only [Layout.append, Layout.single, Layout.plus, hpatch, hlen]

theorem optional (greedy : Bool) (hpart : part.Realizes lpart n) :
    Realizes (.optional greedy part) (.optional greedy lpart) (n + 1) := by
  refine of_patch (hpart.length.optional greedy) fun d _ => ?_
  have hs := (push (.make .split 0 0)).append hpart
  rw [Nat.add_comm] at hs
  refine ⟨_, _, fun d' => d'.prefer greedy d.here (d.here + 1) d'.here, hs, ?_, ?_⟩
  · simp [Emission.optional, Draft.pushSplit?, Option.map_eq_bind, Option.bind_assoc]
  · simp only [Layout.append, Layout.single, Layout.optional, List.cons_append, List.nil_append,
      List.length_nil, Nat.zero_add, Draft.here_append, List.length_cons, Draft.prefer_append_cons]
    congr 4
    omega

/-- The head of a choice: its split, the first part and the jump over the second one. The
jump has no target yet. -/
private def choiceHead (first : Emission) : Emission := fun d => do
  let d' ← first (← d.pushSplit?)
  let d' ← d'.push? (.make .jump 0 0)
  return d'.patchSplit d.here (d.here + 1) d'.here

private def choiceHeadLayout (first : Layout) : Layout := fun pc table =>
  let s := first (pc + 1) table
  ⟨.make .split (pc + 1) (pc + 2 + s.code.length) :: s.code ++ [.make .jump 0 0], s.table⟩

private theorem choiceHead_realizes (hfirst : first.Realizes lfirst m) :
    Realizes (choiceHead first) (choiceHeadLayout lfirst) (m + 2) := by
  refine of_patch (fun pc table => ?_) fun d _ => ?_
  · simp [choiceHeadLayout, hfirst.length _ _]
  have hs := (push (.make .split 0 0)).append (hfirst.append (push (.make .jump 0 0)))
  rw [show 1 + (m + 1) = m + 2 by omega] at hs
  refine ⟨_, _, fun d' => d'.patchSplit d.here (d.here + 1) d'.here, hs, ?_, ?_⟩
  · simp [choiceHead, Draft.pushSplit?, Option.map_eq_bind, Option.bind_assoc]
  · simp only [Layout.append, Layout.single, choiceHeadLayout, List.cons_append, List.nil_append,
      List.length_nil, Nat.zero_add, Draft.here_append, List.length_cons, List.length_append,
      Draft.patchSplit_append_cons]
    congr 4
    omega

theorem choice (hfirst : first.Realizes lfirst m) (hsecond : second.Realizes lsecond n) :
    Realizes (.choice first second) (.choice lfirst lsecond) (m + n + 2) := by
  refine of_patch (hfirst.length.choice hsecond.length) fun d hd => ?_
  have hs := (choiceHead_realizes hfirst).append hsecond
  rw [show m + 2 + n = m + n + 2 by omega] at hs
  have hlen := hfirst.length (d.here + 1) d.table
  refine ⟨_, _, fun d' => d'.patchA (d.here + 1 + m) d'.here, hs, ?_, ?_⟩
  · have hprefix := (push (.make .split 0 0)).append hfirst
    by_cases hm : d.here + (1 + m) ≤ Engine.maxInstructions
    · have hsplit := Draft.push?_of_lt (d := d) (by omega) (.make .split 0 0)
      have hpart := hfirst.fits (d.append ⟨[.make .split 0 0], d.table⟩) (by simp; omega)
      simp [Emission.choice, choiceHead, Draft.pushSplit?, hsplit, hpart, hlen,
        Option.map_eq_bind, Option.bind_assoc, Nat.add_assoc]
      rw [Nat.add_comm m 1]
    · have hnone : d.pushSplit?.bind first = none := hprefix.overflows d hd (by omega)
      simp [Emission.choice, choiceHead, ← Option.bind_assoc, hnone]
  · let s := lfirst (d.here + 1) d.table
    let t := lsecond (d.here + 2 + m) s.table
    let out := d.here + 2 + m + t.code.length
    have hnext : d.here + (m + 1 + 1) = d.here + 2 + m := by omega
    have hexit : d.here + (m + 1) = d.here + 1 + m := by omega
    have hskeleton : (choiceHeadLayout lfirst).append lsecond d.here d.table =
        ⟨.make .split (d.here + 1) (d.here + 2 + m) :: s.code ++ .make .jump 0 0 :: t.code,
          t.table⟩ := by
      simp [Layout.append, choiceHeadLayout, hlen, hnext, s, t]
    have hchoice : Layout.choice lfirst lsecond d.here d.table =
        ⟨.make .split (d.here + 1) (d.here + 2 + m) :: s.code ++ .make .jump out 0 :: t.code,
          t.table⟩ := by
      simp [Layout.choice, hlen, s, t, out]
    have hhere : (d.append ((choiceHeadLayout lfirst).append lsecond d.here d.table)).here =
        out := by
      rw [hskeleton, Draft.here_append]
      simp [s, hlen, out]
      omega
    have hpatch := d.patchA_append (.make .split (d.here + 1) (d.here + 2 + m) :: s.code) t.code
      (.make .jump 0 0) t.table out
    rw [List.length_cons, hlen, hexit, Instruction.setA_make] at hpatch
    simp only [hhere]
    rw [hskeleton, hchoice, hpatch]

theorem copies (hpart : part.Realizes lpart n) : (k : Nat) →
    Realizes (.copies part k) (.copies lpart k) (k * n)
  | 0 => by
    rw [Nat.zero_mul]
    exact nothing
  | k + 1 => by
    have h := hpart.append (copies hpart k)
    rwa [show n + k * n = (k + 1) * n by ring] at h

theorem nestedOptionals (greedy : Bool) (hpart : part.Realizes lpart n) : (k : Nat) →
    Realizes (.nestedOptionals greedy part k) (.optionals greedy lpart k) (k * (n + 1))
  | 0 => by
    rw [Nat.zero_mul]
    exact nothing
  | k + 1 => by
    have h := (hpart.append (nestedOptionals greedy hpart k)).optional greedy
    rwa [show n + k * (n + 1) + 1 = (k + 1) * (n + 1) by ring] at h

theorem optionals (greedy : Bool) (hpart : part.Realizes lpart n) (k : Nat) :
    Realizes (.optionals greedy part k) (.optionals greedy lpart k) (k * (n + 1)) := by
  rw [Emission.optionals_eq_nestedOptionals]
  exact nestedOptionals greedy hpart k

theorem repeated (times : Quantifier) (hpart : part.Realizes lpart n) (hn : n ≠ 0) :
    Realizes (.repeated times part) (.repeated times lpart) (times.codeLength n) := by
  unfold Emission.repeated Layout.repeated Quantifier.codeLength
  rw [if_neg hn]
  cases times.max with
  | none =>
    by_cases hmin : times.min = 0
    · simp only [hmin, if_true]
      exact hpart.star times.greedy
    · simp only [hmin, if_false]
      obtain ⟨k, hk⟩ := Nat.exists_eq_succ_of_ne_zero hmin
      have h := (hpart.copies k).append (hpart.plus times.greedy)
      rw [hk, Nat.succ_sub_one]
      rwa [show k * n + (n + 1) = k.succ * n + 1 by rw [Nat.succ_mul]; omega] at h
  | some max => exact (hpart.copies times.min).append (hpart.optionals times.greedy _)

/-- Refusing at the start what would be refused later changes nothing. -/
theorem checked {s : Size} (h : e.Realizes l n) (hs : s.toNat = min n Size.max) :
    Realizes (fun d =>
      if Engine.maxInstructions < (Size.satAdd (Size.saturate d.here) s).toNat then none
      else e d) l n where
  length := h.length
  fits d hd := by
    have hsum : ¬Engine.maxInstructions < (Size.satAdd (Size.saturate d.here) s).toNat := by
      rw [Size.toNat_satAdd, Size.toNat_saturate, hs]
      omega
    rw [if_neg hsum, h.fits d hd]
  overflows d hd hd' := by
    rw [h.overflows d hd hd', ite_self]

end Emission.Realizes

/-! ## Nodes -/

mutual
/-- The emission of a node writes its layout. -/
theorem Node.emit_realizes (flags : Flags) : (node : Node) →
    Emission.Realizes (node.emit flags) (node.layout flags) node.codeLength
  | .empty => .nothing
  | .leaf l => .letter (l.letter flags)
  | .group (some index) body => by
    have ih := Node.emit_realizes flags body
    have h := Emission.Realizes.append (.push (.make .openGroup index 0))
      (ih.append (.push (.make .closeGroup index 0)))
    simp only [Node.layout, Node.codeLength]
    rwa [show 1 + (body.codeLength + 1) = 2 + body.codeLength by omega] at h
  | .group none body => by
    simpa only [Node.emit, Node.layout, Node.codeLength] using Node.emit_realizes flags body
  | .concat parts => by
    simpa only [Node.emit, Node.layout, Node.codeLength] using Node.sequence_realizes flags parts
  | .alternate branches => by
    rw [Node.emit, Emission.alternatives_eq_nestedChoice]
    simpa only [Node.layout, Node.codeLength] using Node.nestedChoice_realizes flags branches
  | .repetition body times => by
    have ih := Node.emit_realizes flags body
    have hsize := toNat_codeSize_repetition times body.toNat_codeSize
    simp only [Node.emit, Node.layout, Node.codeLength, Node.codeSize_eq_zero_iff]
    by_cases hbody : body.codeLength = 0
    · simpa only [hbody, if_true, Quantifier.codeLength] using Emission.Realizes.nothing
    · simpa only [hbody, if_false] using (ih.repeated times hbody).checked hsize

theorem Node.sequence_realizes (flags : Flags) : (nodes : List Node) →
    Emission.Realizes (.sequence (Node.emitEach flags nodes)) (Node.layoutAll flags nodes)
      (Node.codeLengths nodes)
  | [] => .nothing
  | node :: nodes => (Node.emit_realizes flags node).append (Node.sequence_realizes flags nodes)

theorem Node.nestedChoice_realizes (flags : Flags) : (nodes : List Node) →
    Emission.Realizes (.nestedChoice (Node.emitEach flags nodes)) (Node.layoutChoice flags nodes)
      (2 * (nodes.length - 1) + Node.codeLengths nodes)
  | [] => .nothing
  | [node] => by
    simpa [Node.emitEach, Emission.nestedChoice, Node.layoutChoice, Node.codeLengths] using
      Node.emit_realizes flags node
  | node :: next :: nodes => by
    have h := (Node.emit_realizes flags node).choice
      (Node.nestedChoice_realizes flags (next :: nodes))
    simp only [Node.emitEach, Emission.nestedChoice, Node.layoutChoice, Node.codeLengths,
      List.length_cons] at h ⊢
    convert h using 1
    omega
end

end DeviceRegex
