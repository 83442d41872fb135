import DeviceRegex.Proofs.Code.GroupMarkers

/-!
# Programs that keep no groups

A program that keeps no groups needs no more than the one of the same pattern that keeps
them: it has fewer instructions by at least the number of markers, and its threads need no
room for ranges.

## Main definitions

* `Origin.markers` — the number of group markers among the parts of a tree.
* `Instruction.isMarker` — the instruction opens or closes a group.
-/
namespace DeviceRegex

/-! ## Markers of a tree -/

/-- The number of parts for which the marker of a group is written. -/
def Origin.markers (origins : List Origin) : Nat := origins.countP (·.number?.isSome)

namespace Origin

@[simp] theorem markers_nil : markers [] = 0 := rfl

@[simp] theorem markers_append (origins origins' : List Origin) :
    markers (origins ++ origins') = markers origins + markers origins' := List.countP_append

@[simp] theorem markers_branch_cons (origins : List Origin) :
    markers (branch :: origins) = markers origins := rfl

@[simp] theorem markers_flatten_replicate (n : Nat) (origins : List Origin) :
    markers (List.replicate n origins).flatten = n * markers origins := by
  induction n with
  | zero => exact (Nat.zero_mul _).symm
  | succ n ih =>
    rw [List.replicate_succ, List.flatten_cons, markers_append, ih, Nat.succ_mul, Nat.add_comm]

end Origin

/-- If the markers of a body are paid for when they are left out, so are those of its
copies. -/
theorem Quantifier.codeLength_add_markers_le (times : Quantifier) {m n : Nat}
    {body : List Origin} (hn : n ≠ 0) (h : m + Origin.markers body ≤ n) :
    times.codeLength m + Origin.markers (times.origins body) ≤ times.codeLength n := by
  have hcopies (k : Nat) : k * m + k * Origin.markers body ≤ k * n := by
    rw [← Nat.mul_add]
    exact Nat.mul_le_mul_left k h
  -- a body that has nothing but markers vanishes, and its branches with it
  have hvanish (k : Nat) : k * Origin.markers body ≤ k * n :=
    Nat.mul_le_mul_left k (Nat.le_trans (Nat.le_add_left _ _) h)
  simp only [codeLength, origins, if_neg hn]
  cases times.max with
  | none =>
    by_cases hmin : times.min = 0
    · simp only [hmin, if_true, Origin.markers_append, Origin.markers_branch_cons,
        Origin.markers_nil]
      split <;> omega
    · have hall := hcopies times.min
      have hmarkers := hvanish times.min
      simp only [hmin, if_false, Origin.markers_append, Origin.markers_branch_cons,
        Origin.markers_nil, Origin.markers_flatten_replicate]
      split <;> omega
  | some max =>
    have hall := hcopies times.min
    have hmarkers := hvanish times.min
    have hall' := hcopies (max - times.min)
    have hmarkers' := hvanish (max - times.min)
    simp only [Origin.markers_append, Origin.markers_branch_cons,
      Origin.markers_flatten_replicate, Nat.mul_add, Nat.mul_one]
    split <;> omega

theorem Node.markers_originsChoice (nodes : List Node) :
    Origin.markers (Node.originsChoice nodes) = Origin.markers (Node.originsAll nodes) := by
  induction nodes with
  | nil => rfl
  | cons node nodes ih =>
    cases nodes with
    | nil => simp [Node.originsChoice, Node.originsAll]
    | cons next nodes =>
      simp only [Node.originsChoice, Node.originsAll, List.cons_append,
        Origin.markers_branch_cons, Origin.markers_append] at ih ⊢
      rw [ih]

mutual
/-- **Every marker is paid for.** Without the numbers of its groups a tree has fewer
instructions, at least by the number of markers. -/
theorem Node.codeLength_unnumbered_add_markers_le : (node : Node) →
    node.unnumbered.codeLength + Origin.markers node.origins ≤ node.codeLength
  | .empty => Nat.le_refl _
  | .leaf _ => Nat.le_refl _
  | .group (some index) body => by
    have ih := Node.codeLength_unnumbered_add_markers_le body
    have hends : Origin.markers (.opening index :: body.origins ++ [.closing index]) =
        Origin.markers body.origins + 2 := by
      simp [Origin.markers, Origin.number?]
    simp only [Node.unnumbered, Node.codeLength, Node.origins, hends]
    omega
  | .group none body => Node.codeLength_unnumbered_add_markers_le body
  | .concat parts => Node.codeLengths_unnumberedAll_add_markers_le parts
  | .alternate branches => by
    have ih := Node.codeLengths_unnumberedAll_add_markers_le branches
    simp only [Node.unnumbered, Node.codeLength, Node.origins, Node.length_unnumberedAll,
      Node.markers_originsChoice]
    omega
  | .repetition body times => by
    have ih := Node.codeLength_unnumbered_add_markers_le body
    simp only [Node.unnumbered, Node.codeLength, Node.origins]
    by_cases hbody : body.codeLength = 0
    · have hunnumbered : body.unnumbered.codeLength = 0 := by omega
      simp [hbody, hunnumbered, Quantifier.codeLength]
    · rw [if_neg hbody]
      exact times.codeLength_add_markers_le hbody ih

theorem Node.codeLengths_unnumberedAll_add_markers_le : (nodes : List Node) →
    Node.codeLengths (Node.unnumberedAll nodes) + Origin.markers (Node.originsAll nodes) ≤
      Node.codeLengths nodes
  | [] => Nat.le_refl _
  | node :: nodes => by
    have hnode := Node.codeLength_unnumbered_add_markers_le node
    have hnodes := Node.codeLengths_unnumberedAll_add_markers_le nodes
    simp only [Node.unnumberedAll, Node.codeLengths, Node.originsAll, Origin.markers_append]
    omega
end

mutual
/-- Numbers that are left out are not there to be left out again. -/
@[simp] theorem Node.unnumbered_unnumbered : (node : Node) →
    node.unnumbered.unnumbered = node.unnumbered
  | .empty => rfl
  | .leaf _ => rfl
  | .group _ body => congrArg (Node.group none) (Node.unnumbered_unnumbered body)
  | .concat parts => congrArg Node.concat (Node.unnumberedAll_unnumberedAll parts)
  | .alternate branches => congrArg Node.alternate (Node.unnumberedAll_unnumberedAll branches)
  | .repetition body times =>
    congrArg (Node.repetition · times) (Node.unnumbered_unnumbered body)

theorem Node.unnumberedAll_unnumberedAll : (nodes : List Node) →
    Node.unnumberedAll (Node.unnumberedAll nodes) = Node.unnumberedAll nodes
  | [] => rfl
  | node :: nodes =>
    congrArg₂ List.cons (Node.unnumbered_unnumbered node) (Node.unnumberedAll_unnumberedAll nodes)
end

/-- A tree without numbers has no markers: otherwise it could be made shorter still. -/
theorem Node.markers_unnumbered (node : Node) : Origin.markers node.unnumbered.origins = 0 := by
  have h := node.unnumbered.codeLength_unnumbered_add_markers_le
  rw [Node.unnumbered_unnumbered] at h
  omega

/-! ## Markers in the code -/

/-- The instruction opens or closes a group. -/
def Instruction.isMarker (i : Instruction) : Bool :=
  i.opcode? == some .openGroup || i.opcode? == some .closeGroup

theorem Instruction.isSome_markerOperand? (i : Instruction) :
    i.markerOperand?.isSome = i.isMarker := by
  rw [markerOperand?, isMarker]
  split <;> simp_all

/-- Finished code has as many markers as its tree. -/
theorem Node.countP_isMarker_finishedCode (flags : Flags) {root : Node}
    (hroom : root.codeLength + 1 ≤ Engine.maxInstructions) :
    (root.finishedCode flags).countP Instruction.isMarker = Origin.markers root.origins := by
  have hcode := Origin.Gives.map_markerOperand? (gives_layout flags hroom)
  have haccept : (Instruction.make .accept 0 0).isMarker = false := by
    simp [Instruction.isMarker]
  calc (root.finishedCode flags).countP Instruction.isMarker
      = (root.layout flags 0 []).code.countP Instruction.isMarker := by
        simp [finishedCode, haccept]
    _ = ((root.layout flags 0 []).code.map Instruction.markerOperand?).countP Option.isSome := by
        rw [List.countP_map]
        exact congrArg (List.countP · _) (funext fun i => i.isSome_markerOperand?.symm)
    _ = Origin.markers root.origins := by
        rw [hcode, List.countP_map, List.countP_map, Origin.markers]
        exact congrArg (List.countP · _) (funext fun o => Option.isSome_map)

/-! ## Memory -/

theorem Size.satAdd_mono {a a' b b' : Size} (ha : a ≤ a') (hb : b ≤ b') :
    satAdd a b ≤ satAdd a' b' := by
  rw [UInt64.le_iff_toNat_le] at ha hb ⊢
  rw [toNat_satAdd, toNat_satAdd]
  omega

theorem Size.satMul_mono {a a' b b' : Size} (ha : a ≤ a') (hb : b ≤ b') :
    satMul a b ≤ satMul a' b' := by
  rw [UInt64.le_iff_toNat_le] at ha hb ⊢
  have h := Nat.mul_le_mul ha hb
  rw [toNat_satMul, toNat_satMul]
  omega

theorem Size.saturate_mono {m n : Nat} (h : m ≤ n) : saturate m ≤ saturate n := by
  rw [UInt64.le_iff_toNat_le, toNat_saturate, toNat_saturate]
  omega

/-- A thread needs no more for fewer instructions without room for ranges. -/
theorem Compiled.bytesPerThread_le {c c' : Compiled} (hcapture : c'.capture = .nonCapture)
    (hlength : c'.code.length ≤ c.code.length) : c'.bytesPerThread ≤ c.bytesPerThread := by
  have hcount : Size.saturate c'.code.length ≤ Size.saturate c.code.length :=
    Size.saturate_mono hlength
  have hvisited : Size.saturate ((c'.code.length + 7) / 8) ≤
      Size.saturate ((c.code.length + 7) / 8) := Size.saturate_mono (by omega)
  simp only [bytesPerThread, hcapture]
  apply Size.satMul_mono (Size.satAdd_mono (Size.satMul_mono hcount ?_) hvisited) UInt64.le_rfl
  exact Size.satAdd_mono UInt64.zero_le UInt64.le_rfl

theorem Program.workingMemorySize_le {p p' : Program} {c c' : Compiled}
    (hp : p.compiled? = some c) (hp' : p'.compiled? = some c')
    (hbytes : c'.bytesPerThread ≤ c.bytesPerThread) (threads : Size) :
    p'.workingMemorySize threads ≤ p.workingMemorySize threads := by
  simp only [workingMemorySize, workingMemory, hp, hp', WorkingMemory.total]
  exact Size.satAdd_mono (Size.satMul_mono hbytes UInt64.le_rfl) UInt64.le_rfl

/-! ## Programs -/

/-- What a program without groups saves: it has no group and no marker, at least as many
instructions less as there are markers, and its threads need no more memory. -/
structure Compiled.Saves (c c' : Compiled) : Prop where
  groups_eq : c'.groups = 0
  no_marker : ∀ i ∈ c'.code, i.isMarker = false
  length_add_le : c'.code.length + c.code.countP Instruction.isMarker ≤ c.code.length
  bytesPerThread_le : c'.bytesPerThread ≤ c.bytesPerThread

/-- A pattern that is compiled where groups are kept is compiled where they are not, to a
program that saves their markers and their ranges. -/
theorem Compiled.exists_saves {pattern : List Char} {flags : Flags} {c : Compiled}
    (h : compile pattern flags .extract = .ok c) :
    ∃ c', compile pattern flags .nonCapture = .ok c' ∧ c.Saves c' := by
  obtain ⟨p, hp, hroom, rfl⟩ := eq_of_compile h
  have hparse : Pattern.parse .nonCapture pattern = .ok p.unnumbered := by
    rw [Pattern.parse_nonCapture, hp]
    rfl
  have hshorter := p.root.codeLength_unnumbered_add_markers_le
  have hroom' : p.unnumbered.root.codeLength + 1 ≤ Engine.maxInstructions := by
    change p.root.unnumbered.codeLength + 1 ≤ _
    omega
  have hlength : (p.root.unnumbered.finishedCode flags).length +
      (p.root.finishedCode flags).countP Instruction.isMarker ≤
        (p.root.finishedCode flags).length := by
    rw [Node.length_finishedCode, Node.length_finishedCode,
      Node.countP_isMarker_finishedCode flags hroom]
    omega
  have hnone : (p.root.unnumbered.finishedCode flags).countP Instruction.isMarker = 0 :=
    (Node.countP_isMarker_finishedCode flags hroom').trans p.root.markers_unnumbered
  refine ⟨_, (compile_of_parse flags hparse).trans (if_pos hroom'), ?_⟩
  exact
    { groups_eq := rfl
      no_marker := fun i hi => by simpa using List.countP_eq_zero.1 hnone i hi
      length_add_le := hlength
      bytesPerThread_le :=
        bytesPerThread_le rfl (Nat.le_trans (Nat.le_add_right _ _) hlength) }

/-- **Dropping groups costs nothing.** If a program is made that keeps groups, one is made
that does not. It has no groups and no marker, no more instructions, and fewer ones if the
other has a marker; a thread needs no more memory, nor does any number of threads. -/
theorem Program.dropping_groups_saves {pattern : String} {flags : Flags} {site : CallSite}
    {p : Program} (h : create pattern flags .extract site = .ok p) (site' : CallSite) :
    ∃ p' c c', create pattern flags .nonCapture site' = .ok p' ∧
      p.compiled? = some c ∧ p'.compiled? = some c' ∧
      p'.groups = 0 ∧
      (∀ i ∈ c'.code, i.opcode? ≠ some .openGroup ∧ i.opcode? ≠ some .closeGroup) ∧
      p'.instructions ≤ p.instructions ∧
      ((∃ i ∈ c.code, i.opcode? = some .openGroup ∨ i.opcode? = some .closeGroup) →
        p'.instructions < p.instructions) ∧
      c'.bytesPerThread ≤ c.bytesPerThread ∧
      ∀ threads, p'.workingMemorySize threads ≤ p.workingMemorySize threads := by
  obtain ⟨hflags, hpattern, c, hc, rfl⟩ := create_eq_ok_iff.1 h
  obtain ⟨c', hc', hsaves⟩ := Compiled.exists_saves hc
  have hlength := hsaves.length_add_le
  refine ⟨_, c, c', create_eq_ok_iff.2 ⟨hflags, hpattern, c', hc', rfl⟩, rfl, rfl,
    hsaves.groups_eq, fun i hi => ?_, Nat.le_trans (Nat.le_add_right _ _) hlength, ?_,
    hsaves.bytesPerThread_le, workingMemorySize_le rfl rfl hsaves.bytesPerThread_le⟩
  · simpa [Instruction.isMarker] using hsaves.no_marker i hi
  · rintro ⟨i, hi, hop⟩
    have hmarker : 0 < c.code.countP Instruction.isMarker :=
      List.countP_pos_iff.2 ⟨i, hi, by simpa [Instruction.isMarker] using hop⟩
    change c'.code.length < c.code.length
    omega

/-- A repeated group around nothing, which is code only where groups are kept. -/
theorem Program.dropping_groups_saves_of_empty_group :
    ∃ p, create "a(){3}" .none .extract (.named "@create") = .ok p ∧
      ∃ p' c c', create "a(){3}" .none .nonCapture (.named "@create") = .ok p' ∧
        p.compiled? = some c ∧ p'.compiled? = some c' ∧
        p'.groups = 0 ∧
        (∀ i ∈ c'.code, i.opcode? ≠ some .openGroup ∧ i.opcode? ≠ some .closeGroup) ∧
        p'.instructions ≤ p.instructions ∧
        ((∃ i ∈ c.code, i.opcode? = some .openGroup ∨ i.opcode? = some .closeGroup) →
          p'.instructions < p.instructions) ∧
        c'.bytesPerThread ≤ c.bytesPerThread ∧
        ∀ threads, p'.workingMemorySize threads ≤ p.workingMemorySize threads := by
  have hcompile : Compiled.compile "a(){3}".toList .none .extract =
      .ok ⟨[.make .char 0 97, .make .openGroup 1 0, .make .closeGroup 1 0, .make .openGroup 1 0,
        .make .closeGroup 1 0, .make .openGroup 1 0, .make .closeGroup 1 0, .make .accept 0 0],
        [], 1, .none, .extract⟩ := by
    decide +kernel
  obtain ⟨p, hp⟩ : ∃ p, create "a(){3}" .none .extract (.named "@create") = .ok p :=
    ⟨_, create_eq_ok_iff.2 ⟨by decide, by decide, _, hcompile, rfl⟩⟩
  exact ⟨p, hp, dropping_groups_saves hp _⟩

end DeviceRegex
