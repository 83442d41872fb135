import DeviceRegex.Proofs.Code.CaptureMode
import DeviceRegex.Proofs.Code.Origin
import DeviceRegex.Proofs.Pattern.NormalForm
import DeviceRegex.Proofs.Pattern.RoundTrip
import DeviceRegex.Proofs.Program.Creation

/-!
# The markers of groups

An instruction that opens or closes a group carries the number of that group, as far as it
fits the operand. Groups in a repetition without code take numbers and have no markers, so
the limit on instructions is no limit on the numbers of the groups that do have markers.

## Main definitions

* `Node.numberedGroups` — the numbered groups of a tree, each with its place in the tree.
* `Node.markedGroups` — for every instruction, the group of which it is a marker.
* `Compiled.MarkersKeepGroups` — every marker carries the number of its own group.
-/
namespace DeviceRegex

/-- The place of a node in a tree: which child to go to, from the root on. -/
abbrev Place := List Nat

/-- A numbered group, which stands at a place of a tree. -/
structure NumberedGroup where
  place : Place
  number : Nat
deriving DecidableEq, Repr

/-! ## Groups and markers of a tree -/

mutual
/-- The numbered groups of a node at a place, in the order of their opening parentheses. -/
def Node.numberedGroups (place : Place) : Node → List NumberedGroup
  | .empty | .leaf _ => []
  | .group index body =>
    index.toList.map (⟨place, ·⟩) ++ body.numberedGroups (place ++ [0])
  | .concat parts => Node.numberedGroupsFrom place 0 parts
  | .alternate branches => Node.numberedGroupsFrom place 0 branches
  | .repetition body _ => body.numberedGroups (place ++ [0])

/-- The numbered groups of the children of a node from the child `first` on. -/
def Node.numberedGroupsFrom (place : Place) (first : Nat) : List Node → List NumberedGroup
  | [] => []
  | node :: nodes =>
    node.numberedGroups (place ++ [first]) ++ Node.numberedGroupsFrom place (first + 1) nodes
end

/-- What a repetition consists of, given what one copy of its body and one branch are. -/
def Quantifier.unrolled {α : Type} (times : Quantifier) (branch : α) (body : List α) : List α :=
  match times.max with
  | none =>
    if times.min = 0 then branch :: body ++ [branch]
    else (List.replicate times.min body).flatten ++ [branch]
  | some max =>
    (List.replicate times.min body).flatten ++
      (List.replicate (max - times.min) (branch :: body)).flatten

mutual
/-- The groups of which the instructions of a node are markers, in the order of the code. -/
def Node.markedGroups (place : Place) : Node → List (Option NumberedGroup)
  | .empty => []
  | .leaf _ => [none]
  | .group (some index) body =>
    some ⟨place, index⟩ :: body.markedGroups (place ++ [0]) ++ [some ⟨place, index⟩]
  | .group none body => body.markedGroups (place ++ [0])
  | .concat parts => Node.markedGroupsAll place 0 parts
  | .alternate branches => Node.markedGroupsChoice place 0 branches
  | .repetition body times =>
    if body.codeLength = 0 then [] else times.unrolled none (body.markedGroups (place ++ [0]))

/-- The groups of the markers of the children of a node from the child `first` on. -/
def Node.markedGroupsAll (place : Place) (first : Nat) : List Node → List (Option NumberedGroup)
  | [] => []
  | node :: nodes =>
    node.markedGroups (place ++ [first]) ++ Node.markedGroupsAll place (first + 1) nodes

/-- The groups of the markers of the branches of a choice, with splits and jumps between
them. -/
def Node.markedGroupsChoice (place : Place) (first : Nat) :
    List Node → List (Option NumberedGroup)
  | [] => []
  | [node] => node.markedGroups (place ++ [first])
  | node :: nodes =>
    none :: node.markedGroups (place ++ [first]) ++
      none :: Node.markedGroupsChoice place (first + 1) nodes
end

/-- The group of which the instruction at a place of the code is a marker. -/
def Node.markedGroupAt? (root : Node) (pc : Nat) : Option NumberedGroup :=
  (root.markedGroups [])[pc]?.join

mutual
/-- The listed groups have the numbers of the groups of the tree. -/
theorem Node.map_number_numberedGroups (place : Place) : (node : Node) →
    (node.numberedGroups place).map (·.number) = node.numbers
  | .empty => rfl
  | .leaf _ => rfl
  | .group index body => by
    have ih := Node.map_number_numberedGroups (place ++ [0]) body
    cases index <;> simp [Node.numberedGroups, Node.numbers, ih]
  | .concat parts => Node.map_number_numberedGroupsFrom place 0 parts
  | .alternate branches => Node.map_number_numberedGroupsFrom place 0 branches
  | .repetition body _ => Node.map_number_numberedGroups _ body

theorem Node.map_number_numberedGroupsFrom (place : Place) (first : Nat) : (nodes : List Node) →
    (Node.numberedGroupsFrom place first nodes).map (·.number) = Node.numbersAll nodes
  | [] => rfl
  | node :: nodes => by
    simp [Node.numberedGroupsFrom, Node.numbersAll, Node.map_number_numberedGroups _ node,
      Node.map_number_numberedGroupsFrom place (first + 1) nodes]
end

namespace Quantifier
variable {α β : Type} (times : Quantifier) {branch : α} {body : List α}

theorem map_unrolled (f : α → β) (branch : α) (body : List α) :
    (times.unrolled branch body).map f = times.unrolled (f branch) (body.map f) := by
  simp only [unrolled]
  cases times.max with
  | none => by_cases hmin : times.min = 0 <;> simp [hmin]
  | some max => simp

/-- What a repetition consists of is in its body, or is its branch. -/
theorem mem_of_mem_unrolled {x : α} (h : x ∈ times.unrolled branch body) :
    x = branch ∨ x ∈ body := by
  simp only [unrolled] at h
  cases hmax : times.max with
  | none =>
    by_cases hmin : times.min = 0 <;> simp [hmax, hmin] at h <;> tauto
  | some max =>
    simp [hmax] at h
    tauto

theorem origins_eq_unrolled (body : List Origin) :
    times.origins body = times.unrolled .branch body := rfl

end Quantifier

mutual
/-- Markers are markers of groups of the tree. -/
theorem Node.mem_numberedGroups_of_mem_markedGroups {g : NumberedGroup} {place : Place} :
    (node : Node) → some g ∈ node.markedGroups place → g ∈ node.numberedGroups place
  | .empty, h => nomatch h
  | .leaf _, h => by simp [Node.markedGroups] at h
  | .group (some index) body, h => by
    have ih (hbody : some g ∈ body.markedGroups (place ++ [0])) :
        g ∈ body.numberedGroups (place ++ [0]) :=
      Node.mem_numberedGroups_of_mem_markedGroups body hbody
    simp only [Node.markedGroups, List.mem_append, List.mem_cons, Option.some.injEq,
      List.not_mem_nil, or_false] at h
    simp only [Node.numberedGroups, Option.toList, List.map_cons, List.map_nil, List.mem_append,
      List.mem_singleton]
    tauto
  | .group none body, h => by
    have ih : g ∈ body.numberedGroups (place ++ [0]) :=
      Node.mem_numberedGroups_of_mem_markedGroups body h
    simpa [Node.numberedGroups] using ih
  | .concat parts, h => Node.mem_numberedGroupsFrom_of_mem_markedGroupsAll parts h
  | .alternate branches, h => Node.mem_numberedGroupsFrom_of_mem_markedGroupsChoice branches h
  | .repetition body times, h => by
    simp only [Node.markedGroups] at h
    split at h
    · cases h
    · rcases times.mem_of_mem_unrolled h with h | h
      · cases h
      · exact Node.mem_numberedGroups_of_mem_markedGroups body h

theorem Node.mem_numberedGroupsFrom_of_mem_markedGroupsAll {g : NumberedGroup} {place : Place}
    {first : Nat} : (nodes : List Node) → some g ∈ Node.markedGroupsAll place first nodes →
    g ∈ Node.numberedGroupsFrom place first nodes
  | [], h => nomatch h
  | node :: nodes, h => by
    simp only [Node.markedGroupsAll, List.mem_append] at h
    rw [Node.numberedGroupsFrom, List.mem_append]
    exact h.imp (Node.mem_numberedGroups_of_mem_markedGroups node)
      (Node.mem_numberedGroupsFrom_of_mem_markedGroupsAll nodes)

theorem Node.mem_numberedGroupsFrom_of_mem_markedGroupsChoice {g : NumberedGroup} {place : Place}
    {first : Nat} : (nodes : List Node) → some g ∈ Node.markedGroupsChoice place first nodes →
    g ∈ Node.numberedGroupsFrom place first nodes
  | [], h => nomatch h
  | [node], h => by
    rw [Node.numberedGroupsFrom, List.mem_append]
    exact .inl (Node.mem_numberedGroups_of_mem_markedGroups node h)
  | node :: next :: nodes, h => by
    simp only [Node.markedGroupsChoice, List.mem_append, List.mem_cons, reduceCtorEq,
      false_or] at h
    rw [Node.numberedGroupsFrom, List.mem_append]
    exact h.imp (Node.mem_numberedGroups_of_mem_markedGroups node)
      (Node.mem_numberedGroupsFrom_of_mem_markedGroupsChoice (next :: nodes))
end

/-- The number of the group of which a part is an end. -/
def Origin.number? : Origin → Option Nat
  | opening index | closing index => some index
  | leaf _ | branch => none

mutual
/-- The marked groups have the numbers with which the parts of the tree are written. -/
theorem Node.map_number_markedGroups (place : Place) : (node : Node) →
    (node.markedGroups place).map (Option.map (·.number)) = node.origins.map Origin.number?
  | .empty => rfl
  | .leaf _ => rfl
  | .group (some index) body => by
    simp [Node.markedGroups, Node.origins, Origin.number?, Node.map_number_markedGroups _ body]
  | .group none body => Node.map_number_markedGroups _ body
  | .concat parts => Node.map_number_markedGroupsAll place 0 parts
  | .alternate branches => Node.map_number_markedGroupsChoice place 0 branches
  | .repetition body times => by
    simp only [Node.markedGroups, Node.origins, Quantifier.origins_eq_unrolled]
    split
    · rfl
    · rw [times.map_unrolled, times.map_unrolled, Node.map_number_markedGroups _ body]
      rfl

theorem Node.map_number_markedGroupsAll (place : Place) (first : Nat) : (nodes : List Node) →
    (Node.markedGroupsAll place first nodes).map (Option.map (·.number)) =
      (Node.originsAll nodes).map Origin.number?
  | [] => rfl
  | node :: nodes => by
    simp [Node.markedGroupsAll, Node.originsAll, Node.map_number_markedGroups _ node,
      Node.map_number_markedGroupsAll place (first + 1) nodes]

theorem Node.map_number_markedGroupsChoice (place : Place) (first : Nat) : (nodes : List Node) →
    (Node.markedGroupsChoice place first nodes).map (Option.map (·.number)) =
      (Node.originsChoice nodes).map Origin.number?
  | [] => rfl
  | [node] => Node.map_number_markedGroups _ node
  | node :: next :: nodes => by
    simp [Node.markedGroupsChoice, Node.originsChoice, Origin.number?,
      Node.map_number_markedGroups _ node,
      Node.map_number_markedGroupsChoice place (first + 1) (next :: nodes)]
end

/-! ## Markers in the code -/

/-- The operand of an instruction that opens or closes a group. -/
def Instruction.markerOperand? (i : Instruction) : Option Nat :=
  match i.opcode? with
  | some .openGroup | some .closeGroup => some i.a.toNat
  | _ => none

/-- The part of a number that fits the first operand. -/
def Instruction.truncated (n : Nat) : Nat := n % (maxA + 1)

theorem Instruction.truncated_eq_self_iff {n : Nat} : truncated n = n ↔ n ≤ maxA := by
  rw [truncated, Nat.mod_eq_iff_lt (by decide), Nat.lt_succ_iff]

theorem Instruction.markerOperand?_make {op : Opcode} (hop : op = .openGroup ∨ op = .closeGroup)
    (index b : Nat) : (make op index b).markerOperand? = some (truncated index) := by
  have ha : (make op index b).a.toNat = truncated index := by
    rw [a_make, BitVec.toNat_ofNat]
    rfl
  rcases hop with rfl | rfl <;> simp [markerOperand?, ha]

/-- An instruction of a leaf is no marker. -/
theorem Instruction.markerOperand?_of_letter? {i : Instruction} {table : ClassTable}
    {flags : Flags} {l : Leaf} (h : i.letter? table = some (l.letter flags)) :
    i.markerOperand? = none := by
  by_cases hmarker : i.opcode? = some .openGroup ∨ i.opcode? = some .closeGroup
  · have hplain : l.letter flags = .plain i := by
      rcases hmarker with hop | hop <;> simpa [letter?, hop, eq_comm] using h
    have hleaf := l.isMarker_letter flags
    rcases hmarker with hop | hop <;> simp [hplain, Letter.isMarker, hop] at hleaf
  · rw [markerOperand?]
    split <;> simp_all

/-- An instruction carries the number of the group of which it is a marker, as far as it
fits. -/
theorem Origin.Gives.markerOperand?_eq {flags : Flags} {table : ClassTable} {o : Origin}
    {i : Instruction} (h : o.Gives flags table i) :
    i.markerOperand? = o.number?.map Instruction.truncated := by
  cases h with
  | leaf asks => exact Instruction.markerOperand?_of_letter? asks
  | opening index => exact Instruction.markerOperand?_make (.inl rfl) index 0
  | closing index => exact Instruction.markerOperand?_make (.inr rfl) index 0
  | split a b => simp [Instruction.markerOperand?, Origin.number?]
  | jump a => simp [Instruction.markerOperand?, Origin.number?]

theorem Origin.Gives.map_markerOperand? {flags : Flags} {table : ClassTable}
    {origins : List Origin} {code : List Instruction}
    (h : List.Forall₂ (Origin.Gives flags table) origins code) :
    code.map Instruction.markerOperand? =
      (origins.map Origin.number?).map (Option.map Instruction.truncated) := by
  induction h with
  | nil => rfl
  | cons hfirst _ ih => rw [List.map_cons, hfirst.markerOperand?_eq, ih]; rfl

/-- The markers in finished code are those of the groups of the tree. -/
theorem Node.map_markerOperand?_finishedCode {root : Node} (flags : Flags)
    (hroom : root.codeLength + 1 ≤ Engine.maxInstructions) :
    (root.finishedCode flags).map Instruction.markerOperand? =
      (root.markedGroups []).map (Option.map (Instruction.truncated ·.number)) ++ [none] := by
  have hcode := Origin.Gives.map_markerOperand? (gives_layout flags hroom)
  rw [← root.map_number_markedGroups []] at hcode
  rw [finishedCode, List.map_append, hcode]
  simp [Function.comp_def, Instruction.markerOperand?]

namespace Compiled

/-- The number that the instruction at a place carries, if it is the marker of a group. -/
def markerAt? (c : Compiled) (pc : Nat) : Option Nat := c.code[pc]?.bind Instruction.markerOperand?

/-- The markers of a program keep the groups of a tree: every marker carries the number of
the group it is written for, which is a number of a group of the pattern, and two markers
carry one number only if they are markers of one group. -/
structure MarkersKeepGroups (c : Compiled) (root : Node) : Prop where
  number_eq : ∀ pc n, c.markerAt? pc = some n → ∃ place, root.markedGroupAt? pc = some ⟨place, n⟩
  in_range : ∀ pc n, c.markerAt? pc = some n → 1 ≤ n ∧ n ≤ c.groups
  same_group : ∀ pc pc' n, c.markerAt? pc = some n → c.markerAt? pc' = some n →
    root.markedGroupAt? pc = root.markedGroupAt? pc'

/-- The marker at a place carries the number of its group, as far as it fits. -/
theorem markerAt?_of_compile {pattern : List Char} {flags : Flags} {c : Compiled} {p : Pattern}
    (hc : compile pattern flags .extract = .ok c) (hp : Pattern.parse .extract pattern = .ok p)
    (pc : Nat) :
    c.markerAt? pc = (p.root.markedGroupAt? pc).map (Instruction.truncated ·.number) := by
  obtain ⟨p', hp', hroom, rfl⟩ := eq_of_compile hc
  cases hp.symm.trans hp'
  have hcode : markerAt? ⟨p.root.finishedCode flags, (p.root.layout flags 0 []).table, p.groups,
        flags, .extract⟩ pc =
      ((p.root.finishedCode flags).map Instruction.markerOperand?)[pc]?.join := by
    rw [markerAt?, List.getElem?_map]
    cases (p.root.finishedCode flags)[pc]? <;> rfl
  rw [hcode, Node.map_markerOperand?_finishedCode flags hroom, Node.markedGroupAt?,
    ← Option.join_map_eq_map_join, ← List.getElem?_map, List.getElem?_append]
  split
  · rfl
  · rename_i hpc
    -- the last instruction is no marker, and there is none behind it
    rw [List.getElem?_eq_none (Nat.not_lt.1 hpc)]
    cases pc - (List.map _ (p.root.markedGroups [])).length <;> rfl

end Compiled

/-! ## Programs -/

/-- The groups of a pattern that is read have the numbers from 1 on, each one once. -/
theorem Pattern.numbers_eq_range'_of_parse {text : List Char} {p : Pattern}
    (h : parse .extract text = .ok p) : p.root.numbers = List.range' 1 p.groups := by
  obtain ⟨st, hrun, hfinish⟩ := bind_eq_ok_iff.1 h
  have hsound : st.Sound .extract :=
    State.run_induction (fun htakes hst => State.Sound.takes htakes hst) hrun (.initial .extract)
  have hnormal := hsound.finish hfinish
  rw [hnormal.groups_eq]
  exact hnormal.numbered

section
variable {p : Pattern} {pc : Nat} {g g' : NumberedGroup}

theorem Node.mem_numberedGroups_of_markedGroupAt? {root : Node}
    (hg : root.markedGroupAt? pc = some g) : g ∈ root.numberedGroups [] := by
  rw [markedGroupAt?, Option.join_eq_some_iff] at hg
  exact mem_numberedGroups_of_mem_markedGroups root (List.mem_of_getElem? hg)

/-- A group with a marker has one of the numbers that groups of the pattern have. -/
theorem Pattern.number_mem_range (hnumbers : p.root.numbers = List.range' 1 p.groups)
    (hg : p.root.markedGroupAt? pc = some g) : 1 ≤ g.number ∧ g.number ≤ p.groups := by
  have hmem : g.number ∈ p.root.numbers := by
    rw [← p.root.map_number_numberedGroups []]
    exact List.mem_map_of_mem (Node.mem_numberedGroups_of_markedGroupAt? hg)
  rw [hnumbers, List.mem_range'_1] at hmem
  omega

/-- Groups of one number are one group. -/
theorem Pattern.markedGroup_eq_of_number_eq (hnumbers : p.root.numbers = List.range' 1 p.groups)
    {pc' : Nat} (hg : p.root.markedGroupAt? pc = some g)
    (hg' : p.root.markedGroupAt? pc' = some g') (h : g.number = g'.number) : g = g' := by
  have hnodup : ((p.root.numberedGroups []).map (·.number)).Nodup := by
    rw [p.root.map_number_numberedGroups [], hnumbers]
    exact List.nodup_range'
  exact List.inj_on_of_nodup_map hnodup (Node.mem_numberedGroups_of_markedGroupAt? hg)
    (Node.mem_numberedGroups_of_markedGroupAt? hg') h

/-- Markers keep their groups exactly if the numbers of all groups with markers fit the
operand. -/
theorem Compiled.markersKeepGroups_iff {c : Compiled}
    (hnumbers : p.root.numbers = List.range' 1 p.groups) (hgroups : c.groups = p.groups)
    (hmarkers : ∀ pc,
      c.markerAt? pc = (p.root.markedGroupAt? pc).map (Instruction.truncated ·.number)) :
    c.MarkersKeepGroups p.root ↔
      ∀ pc g, p.root.markedGroupAt? pc = some g → g.number ≤ Instruction.maxA := by
  constructor
  · intro hkeep pc g hg
    have hmarker : c.markerAt? pc = some (Instruction.truncated g.number) := by
      rw [hmarkers, hg, Option.map_some]
    obtain ⟨place, hplace⟩ := hkeep.number_eq pc _ hmarker
    have hnumber : g.number = Instruction.truncated g.number :=
      congrArg NumberedGroup.number (Option.some.inj (hg.symm.trans hplace))
    exact Instruction.truncated_eq_self_iff.1 hnumber.symm
  · intro hfits
    have hgroup {pc n : Nat} (hn : c.markerAt? pc = some n) :
        ∃ g, p.root.markedGroupAt? pc = some g ∧ g.number = n := by
      rw [hmarkers] at hn
      obtain ⟨g, hg, rfl⟩ := Option.map_eq_some_iff.1 hn
      exact ⟨g, hg, (Instruction.truncated_eq_self_iff.2 (hfits pc g hg)).symm⟩
    refine ⟨fun pc n hn => ?_, fun pc n hn => ?_, fun pc pc' n hn hn' => ?_⟩
    · obtain ⟨g, hg, rfl⟩ := hgroup hn
      exact ⟨g.place, hg⟩
    · obtain ⟨g, hg, rfl⟩ := hgroup hn
      rw [hgroups]
      exact Pattern.number_mem_range hnumbers hg
    · obtain ⟨g, hg, hnumber⟩ := hgroup hn
      obtain ⟨g', hg', hnumber'⟩ := hgroup hn'
      rw [hg, hg', Pattern.markedGroup_eq_of_number_eq hnumbers hg hg'
        (hnumber.trans hnumber'.symm)]

end

/-- **Markers keep their groups as far as the numbers fit.** Every marker of a program that
keeps groups carries the number of the group it is written for, without what does not fit
the operand. So the markers keep their groups exactly if no group with a marker has a
larger number than fits, which is always so if the pattern has no more groups than that. -/
theorem Program.groupMarkers_of_create {pattern : String} {flags : Flags} {site : CallSite}
    {program : Program} (h : create pattern flags .extract site = .ok program) :
    ∃ c p, program.compiled? = some c ∧ Pattern.parse .extract pattern.toList = .ok p ∧
      (∀ pc, c.markerAt? pc = (p.root.markedGroupAt? pc).map fun g => g.number % 0x1000000) ∧
      (c.MarkersKeepGroups p.root ↔
        ∀ pc g, p.root.markedGroupAt? pc = some g → g.number < 0x1000000) ∧
      (p.groups < 0x1000000 → c.MarkersKeepGroups p.root) := by
  obtain ⟨-, -, c, hc, rfl⟩ := create_eq_ok_iff.1 h
  obtain ⟨p, hp, -, hfields⟩ := Compiled.eq_of_compile hc
  have hgroups : c.groups = p.groups := by rw [hfields]
  have hnumbers := Pattern.numbers_eq_range'_of_parse hp
  have hmarkers := Compiled.markerAt?_of_compile hc hp
  have hiff := Compiled.markersKeepGroups_iff hnumbers hgroups hmarkers
  simp only [Instruction.maxA, ← Nat.lt_succ_iff] at hiff
  refine ⟨_, p, rfl, hp, hmarkers, hiff, fun hgroups => hiff.2 fun pc g hg => ?_⟩
  exact Nat.lt_of_le_of_lt (Pattern.number_mem_range hnumbers hg).2 hgroups

/-- Two groups, the first of which is repeated. -/
theorem Program.groupMarkers_of_create_repeated :
    ∃ program, create "(a){2}(b)" .none .extract (.named "@create") = .ok program ∧
      ∃ c p, program.compiled? = some c ∧ Pattern.parse .extract "(a){2}(b)".toList = .ok p ∧
        (∀ pc, c.markerAt? pc = (p.root.markedGroupAt? pc).map fun g => g.number % 0x1000000) ∧
        (c.MarkersKeepGroups p.root ↔
          ∀ pc g, p.root.markedGroupAt? pc = some g → g.number < 0x1000000) ∧
        (p.groups < 0x1000000 → c.MarkersKeepGroups p.root) := by
  have hcreate : ∃ program,
      create "(a){2}(b)" .none .extract (.named "@create") = .ok program := by
    simp only [create_eq_ok_iff]
    refine ⟨_, by decide, by decide, ⟨[.make .openGroup 1 0, .make .char 0 97,
      .make .closeGroup 1 0, .make .openGroup 1 0, .make .char 0 97, .make .closeGroup 1 0,
      .make .openGroup 2 0, .make .char 0 98, .make .closeGroup 2 0, .make .accept 0 0], [], 2,
      .none, .extract⟩, ?_, rfl⟩
    decide +kernel
  obtain ⟨program, hprogram⟩ := hcreate
  exact ⟨program, hprogram, groupMarkers_of_create hprogram⟩

/-! ## More groups than numbers that fit -/

/-- So many empty groups, with the numbers from `first` on. -/
def Node.emptyGroups (first n : Nat) : List Node :=
  (List.range' first n).map fun i => .group (some i) .empty

/-- A repetition of groups that is left out, and a group behind it, which has a larger
number than all of them. -/
def Node.afterSkipped (n : Nat) : Node :=
  .concat [
    .repetition (.group none (.concat (emptyGroups 1 n))) ⟨0, some 0, true⟩,
    .group (some (n + 1)) .empty]

/-- The text of the tree: `(?:`, then `()` so many times, then `){0}()`. -/
def Pattern.afterSkipped (n : Nat) : List Char :=
  '(' :: '?' :: ':' ::
    ((List.replicate n ['(', ')']).flatten ++ [')', '{', '0', '}', '(', ')'])

namespace Node
variable {first n : Nat}

theorem eq_of_mem_emptyGroups {node : Node} (h : node ∈ emptyGroups first n) :
    ∃ i, node = .group (some i) .empty := by
  obtain ⟨i, -, rfl⟩ := List.mem_map.1 h
  exact ⟨i, rfl⟩

theorem length_emptyGroups : (emptyGroups first n).length = n := by simp [emptyGroups]

theorem normalAll_emptyGroups : NormalAll (emptyGroups first n) := by
  refine normalAll_iff.2 fun node hnode => ?_
  obtain ⟨i, rfl⟩ := eq_of_mem_emptyGroups hnode
  trivial

theorem depthAll_emptyGroups_le : depthAll (emptyGroups first n) ≤ 1 := by
  refine depthAll_le fun node hnode => ?_
  obtain ⟨i, rfl⟩ := eq_of_mem_emptyGroups hnode
  exact Nat.le_refl 1

theorem numbersAll_emptyGroups : numbersAll (emptyGroups first n) = List.range' first n := by
  induction n generalizing first with
  | zero => rfl
  | succ n ih =>
    simpa [emptyGroups, List.range'_succ, numbersAll, numbers] using @ih (first + 1)

theorem spellAll_emptyGroups (rest : List Char) :
    SpellAll .extract (emptyGroups first n) ((List.replicate n ['(', ')']).flatten ++ rest)
      rest := by
  induction n generalizing first with
  | zero => exact rfl
  | succ n ih => exact ⟨_, ⟨_, .numbered .extract first _, rfl⟩, @ih (first + 1)⟩

theorem normal_afterSkipped (hn : 2 ≤ n) : (afterSkipped n).Normal := by
  have hskipped : (concat (emptyGroups 1 n)).Normal := by
    refine ⟨length_emptyGroups.symm ▸ hn, fun part hpart => ?_, normalAll_emptyGroups⟩
    obtain ⟨i, rfl⟩ := eq_of_mem_emptyGroups hpart
    rfl
  have htimes : (⟨0, some 0, true⟩ : Quantifier).Normal := ⟨Nat.zero_le _, by simp⟩
  exact ⟨Nat.le_refl 2, by simp [isPart], ⟨rfl, htimes, hskipped⟩, trivial, trivial⟩

theorem numbers_afterSkipped : (afterSkipped n).numbers = List.range' 1 (n + 1) := by
  simp [afterSkipped, numbers, numbersAll, numbersAll_emptyGroups, List.range'_concat,
    Nat.add_comm]

theorem depth_afterSkipped_le : (afterSkipped n).depth ≤ Engine.maxNesting := by
  have hgroups : depthAll (emptyGroups 1 n) ≤ 1 := depthAll_emptyGroups_le
  have hlimit : 2 ≤ Engine.maxNesting := by decide
  simp only [afterSkipped, depth, depthAll]
  omega

/-- The only markers are those of the last group, however many groups there are. -/
theorem markedGroups_afterSkipped :
    (afterSkipped n).markedGroups [] = [some ⟨[1], n + 1⟩, some ⟨[1], n + 1⟩] := by
  simp only [afterSkipped, markedGroups, markedGroupsAll]
  split <;> rfl

theorem codeLength_afterSkipped : (afterSkipped n).codeLength = 2 := by
  simp [afterSkipped, codeLength, codeLengths, Quantifier.codeLength]

end Node

/-- The text is read as the tree. -/
theorem Pattern.parse_afterSkipped {n : Nat} (hn : 2 ≤ n) :
    parse .extract (afterSkipped n) = .ok ⟨Node.afterSkipped n, n + 1⟩ := by
  have hnormal : Normal .extract ⟨Node.afterSkipped n, n + 1⟩ :=
    ⟨Node.normal_afterSkipped hn, Node.depth_afterSkipped_le,
      by simp [Numbered, Node.numbers_afterSkipped], by simp [Node.numbers_afterSkipped]⟩
  apply parse_eq_of_spells hnormal
  have hzero : BoundsSpell 0 (some 0) ['{', '0', '}', '(', ')'] ['(', ')'] :=
    .counted (s := ⟨['0'], false, []⟩) ⟨by simp, by simp, .inl (by simp), fun _ => rfl⟩ _
  refine ⟨['(', ')'], ⟨['{', '0', '}', '(', ')'], ⟨_, .plain .extract _, ?_⟩, .greedy hzero⟩, [],
    ⟨[')'], .numbered .extract (n + 1) _, rfl⟩, rfl⟩
  exact Node.spellAll_emptyGroups [')', '{', '0', '}', '(', ')']

/-- The group behind has the number after all the others, and its markers carry what of it
fits. -/
theorem Program.create_afterSkipped {n : Nat} (hn : 2 ≤ n) (site : CallSite) :
    ∃ program c p, create (String.ofList (Pattern.afterSkipped n)) .none .extract site =
        .ok program ∧
      program.compiled? = some c ∧ Pattern.parse .extract (Pattern.afterSkipped n) = .ok p ∧
      p.root.markedGroupAt? 0 = some ⟨[1], n + 1⟩ ∧
      c.markerAt? 0 = some (Instruction.truncated (n + 1)) := by
  have hp := Pattern.parse_afterSkipped hn
  have hroom : (Node.afterSkipped n).codeLength + 1 ≤ Engine.maxInstructions := by
    rw [Node.codeLength_afterSkipped]
    decide
  obtain ⟨c, hc⟩ : ∃ c, Compiled.compile (Pattern.afterSkipped n) .none .extract = .ok c :=
    ⟨_, (Compiled.compile_of_parse .none hp).trans (if_pos hroom)⟩
  have hgroup : (Node.afterSkipped n).markedGroupAt? 0 = some ⟨[1], n + 1⟩ := by
    rw [Node.markedGroupAt?, Node.markedGroups_afterSkipped]
    rfl
  have hmake : Compiled.compile (String.ofList (Pattern.afterSkipped n)).toList .none .extract =
      .ok c := by
    rwa [String.toList_ofList]
  refine ⟨_, _, _, create_eq_ok_iff.2 ⟨by decide, by simp [Pattern.afterSkipped], _, hmake, rfl⟩,
    rfl, hp, hgroup, ?_⟩
  rw [Compiled.markerAt?_of_compile hc hp, hgroup, Option.map_some]

/-- Behind 16,777,215 groups that are left out, a group has markers that carry the number
of no group. -/
theorem Program.groupMarkers_not_kept :
    ∃ program c p,
      create (String.ofList (Pattern.afterSkipped 0xFFFFFF)) .none .extract (.named "@create") =
        .ok program ∧
      program.compiled? = some c ∧
      Pattern.parse .extract (Pattern.afterSkipped 0xFFFFFF) = .ok p ∧
      p.root.markedGroupAt? 0 = some ⟨[1], 0x1000000⟩ ∧ c.markerAt? 0 = some 0 ∧
      ¬c.MarkersKeepGroups p.root := by
  obtain ⟨program, c, p, hcreate, hc, hp, hgroup, hmarker⟩ :=
    create_afterSkipped (n := 0xFFFFFF) (by decide) (.named "@create")
  have hzero : Instruction.truncated (0xFFFFFF + 1) = 0 := by decide
  rw [hzero] at hmarker
  exact ⟨program, c, p, hcreate, hc, hp, hgroup, hmarker,
    fun hkeep => absurd (hkeep.in_range 0 0 hmarker).1 (by decide)⟩

end DeviceRegex
