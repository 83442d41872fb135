import DeviceRegex.Program.Basic
import DeviceRegex.Proofs.Code.Budget
import Mathlib.Data.List.Forall2

/-!
# What flags decide

Flags decide what a leaf of a pattern asks for and nothing else. Two programs of one
pattern have the same branches, markers and lengths, so that the memory they need is the
same too.

## Main definitions

* `Instruction.SameRole i j` — both are written for leaves, or they are one instruction.
* `Layout.SameStructure l l'` — at every place the layouts have code of the same roles.
* `Compiled.SameStructure c c'` — two programs differ in their leaves only.
-/
namespace DeviceRegex

/-- The operation matches a character or tests a position, as leaves of a pattern do. -/
def Opcode.isLeaf : Opcode → Bool
  | char | any | anyNewline | inClass | notInClass => true
  | textStart | textEnd | lineStart | lineEnd | wordBoundary | notWordBoundary => true
  | openGroup | closeGroup | split | jump | accept => false

namespace Instruction

/-- The instruction is one that leaves of a pattern are written as. -/
def isLeaf (i : Instruction) : Bool := i.opcode?.any Opcode.isLeaf

/-- The instruction is a branch, the marker of a group or the report of a match. -/
def isStructural (i : Instruction) : Bool := i.opcode?.any (!·.isLeaf)

/-- Two instructions do the same for the structure of the code: they are one and the same
word, or both are written for leaves. -/
def SameRole (i j : Instruction) : Prop := (i.isStructural ∧ i = j) ∨ (i.isLeaf ∧ j.isLeaf)

theorem sameRole_make {op : Opcode} (hop : op.isLeaf = false) (a b : Nat) :
    (make op a b).SameRole (make op a b) := .inl ⟨by simp [isStructural, hop], rfl⟩

theorem sameRole_branch (greedy : Bool) (body out : Nat) :
    (Layout.branch greedy body out).SameRole (Layout.branch greedy body out) := by
  cases greedy <;> exact sameRole_make rfl _ _

theorem isLeaf_assertion (flags : Flags) (test : Assertion) :
    (test.instruction flags).isLeaf := by
  cases test <;> simp only [Assertion.instruction] <;> (try split) <;> simp [isLeaf, Opcode.isLeaf]

end Instruction

/-- A leaf is written as one leaf instruction, whatever the flags are. -/
theorem Leaf.exists_isLeaf (flags : Flags) (l : Leaf) (table : ClassTable) :
    ∃ i : Instruction, ((l.letter flags).segment table).code = [i] ∧ i.isLeaf := by
  have hmember (negated : Bool) (index : Nat) :
      (Instruction.make (if negated then .notInClass else .inClass) index 0).isLeaf := by
    cases negated <;> simp [Instruction.isLeaf, Opcode.isLeaf]
  cases l with
  | char c =>
    by_cases hcases : flags.has .ignorecase && decide (1 < (letterCases c).length)
    · rw [letter, if_pos hcases]
      exact ⟨_, rfl, hmember false _⟩
    · rw [letter, if_neg hcases]
      exact ⟨_, rfl, by simp [Instruction.isLeaf, Opcode.isLeaf]⟩
  | dot =>
    refine ⟨_, rfl, ?_⟩
    by_cases hdotall : flags.has .dotall <;> simp [hdotall, Instruction.isLeaf, Opcode.isLeaf]
  | set items negated => exact ⟨_, rfl, hmember negated _⟩
  | assertion test => exact ⟨_, rfl, Instruction.isLeaf_assertion flags test⟩

/-! ## Layouts -/

/-- At every place the two layouts have instructions of the same roles, whatever the class
tables are. -/
def Layout.SameStructure (l l' : Layout) : Prop :=
  ∀ pc table table', List.Forall₂ Instruction.SameRole (l pc table).code (l' pc table').code

namespace Layout.SameStructure
variable {first first' second second' part part' : Layout}

theorem nothing : Layout.nothing.SameStructure .nothing := fun _ _ _ => .nil

theorem marker {op : Opcode} (hop : op.isLeaf = false) (index : Nat) :
    (Layout.single (.make op index 0)).SameStructure (.single (.make op index 0)) :=
  fun _ _ _ => .cons (Instruction.sameRole_make hop _ _) .nil

theorem leaf (flags flags' : Flags) (l : Leaf) :
    SameStructure (fun _ table => (l.letter flags).segment table)
      (fun _ table => (l.letter flags').segment table) := by
  intro pc table table'
  obtain ⟨i, hcode, hi⟩ := l.exists_isLeaf flags table
  obtain ⟨j, hcode', hj⟩ := l.exists_isLeaf flags' table'
  simp only [hcode, hcode']
  exact .cons (.inr ⟨hi, hj⟩) .nil

theorem append (hfirst : first.SameStructure first') (hsecond : second.SameStructure second') :
    (Layout.append first second).SameStructure (.append first' second') := by
  intro pc table table'
  have h := hfirst pc table table'
  simp only [Layout.append, h.length_eq]
  exact List.rel_append h (hsecond _ _ _)

-- the targets of the branches below are counted from the lengths of the parts, which agree

theorem choice (hfirst : first.SameStructure first') (hsecond : second.SameStructure second') :
    (Layout.choice first second).SameStructure (.choice first' second') := by
  intro pc table table'
  have h := hfirst (pc + 1) table table'
  have h' := hsecond (pc + 2 + (first' (pc + 1) table').code.length) (first (pc + 1) table).table
    (first' (pc + 1) table').table
  simp only [Layout.choice, h.length_eq, h'.length_eq]
  exact List.rel_append (.cons (Instruction.sameRole_make rfl _ _) h)
    (.cons (Instruction.sameRole_make rfl _ _) h')

theorem optional (greedy : Bool) (hpart : part.SameStructure part') :
    (Layout.optional greedy part).SameStructure (.optional greedy part') := by
  intro pc table table'
  have h := hpart (pc + 1) table table'
  simp only [Layout.optional, h.length_eq]
  exact .cons (Instruction.sameRole_branch _ _ _) h

theorem star (greedy : Bool) (hpart : part.SameStructure part') :
    (Layout.star greedy part).SameStructure (.star greedy part') := by
  intro pc table table'
  have h := hpart (pc + 1) table table'
  simp only [Layout.star, h.length_eq]
  exact List.rel_append (.cons (Instruction.sameRole_branch _ _ _) h)
    (.cons (Instruction.sameRole_make rfl _ _) .nil)

theorem plus (greedy : Bool) (hpart : part.SameStructure part') :
    (Layout.plus greedy part).SameStructure (.plus greedy part') := by
  intro pc table table'
  have h := hpart pc table table'
  simp only [Layout.plus, h.length_eq]
  exact List.rel_append h (.cons (Instruction.sameRole_branch _ _ _) .nil)

theorem copies (hpart : part.SameStructure part') (n : Nat) :
    (Layout.copies part n).SameStructure (.copies part' n) := by
  induction n with
  | zero => exact nothing
  | succ n ih => exact hpart.append ih

theorem optionals (greedy : Bool) (hpart : part.SameStructure part') (n : Nat) :
    (Layout.optionals greedy part n).SameStructure (.optionals greedy part' n) := by
  induction n with
  | zero => exact nothing
  | succ n ih => exact (hpart.append ih).optional greedy

theorem repeated (times : Quantifier) (hpart : part.SameStructure part') :
    (Layout.repeated times part).SameStructure (.repeated times part') := by
  simp only [Layout.repeated]
  cases times.max with
  | none =>
    by_cases hmin : times.min = 0
    · simp only [hmin, if_true]
      exact hpart.star times.greedy
    · simp only [hmin, if_false]
      exact (hpart.copies _).append (hpart.plus times.greedy)
  | some max => exact (hpart.copies times.min).append (hpart.optionals times.greedy _)

end Layout.SameStructure

mutual
/-- Flags do not change the structure of the code of a node. -/
theorem Node.sameStructure (flags flags' : Flags) : (node : Node) →
    (node.layout flags).SameStructure (node.layout flags')
  | .empty => .nothing
  | .leaf l => .leaf flags flags' l
  | .group (some index) body =>
    (Layout.SameStructure.marker rfl index).append
      ((Node.sameStructure flags flags' body).append (.marker rfl index))
  | .group none body => by
    simpa only [Node.layout] using Node.sameStructure flags flags' body
  | .concat parts => by
    simpa only [Node.layout] using Node.sameStructure_all flags flags' parts
  | .alternate branches => by
    simpa only [Node.layout] using Node.sameStructure_choice flags flags' branches
  | .repetition body times => by
    have ih := Node.sameStructure flags flags' body
    simp only [Node.layout]
    by_cases hbody : body.codeSize = 0
    · simpa only [hbody, if_true] using Layout.SameStructure.nothing
    · simpa only [hbody, if_false] using ih.repeated times

theorem Node.sameStructure_all (flags flags' : Flags) : (nodes : List Node) →
    (Node.layoutAll flags nodes).SameStructure (Node.layoutAll flags' nodes)
  | [] => .nothing
  | node :: nodes =>
    (Node.sameStructure flags flags' node).append (Node.sameStructure_all flags flags' nodes)

theorem Node.sameStructure_choice (flags flags' : Flags) : (nodes : List Node) →
    (Node.layoutChoice flags nodes).SameStructure (Node.layoutChoice flags' nodes)
  | [] => .nothing
  | [node] => Node.sameStructure flags flags' node
  | node :: next :: nodes =>
    (Node.sameStructure flags flags' node).choice
      (Node.sameStructure_choice flags flags' (next :: nodes))
end

/-! ## Programs -/

namespace Compiled

/-- Two programs differ in their leaves only: they have as many instructions and groups,
and at every place they have one and the same word that is no leaf, or two leaves. -/
structure SameStructure (c c' : Compiled) : Prop where
  length_eq : c.code.length = c'.code.length
  groups_eq : c.groups = c'.groups
  capture_eq : c.capture = c'.capture
  sameRole : ∀ (pc : Nat) (i j : Instruction),
    c.code[pc]? = some i → c'.code[pc]? = some j → i.SameRole j

variable {c c' : Compiled}

/-- The programs of one pattern have the same structure under all flags. -/
theorem SameStructure.of_compile {pattern : List Char} {flags flags' : Flags}
    {capture : CaptureMode} (h : compile pattern flags capture = .ok c)
    (h' : compile pattern flags' capture = .ok c') : c.SameStructure c' := by
  obtain ⟨p, hp, -, rfl⟩ := eq_of_compile h
  obtain ⟨p', hp', -, rfl⟩ := eq_of_compile h'
  obtain rfl : p = p' := Except.ok.inj (hp.symm.trans hp')
  have hcode : List.Forall₂ Instruction.SameRole (p.root.finishedCode flags)
      (p.root.finishedCode flags') :=
    List.rel_append (p.root.sameStructure flags flags' 0 [] [])
      (.cons (Instruction.sameRole_make rfl 0 0) .nil)
  refine ⟨hcode.length_eq, rfl, rfl, fun pc i j hi hj => ?_⟩
  obtain ⟨hpc, rfl⟩ := List.getElem?_eq_some_iff.1 hi
  obtain ⟨hpc', rfl⟩ := List.getElem?_eq_some_iff.1 hj
  exact (List.forall₂_iff_get.1 hcode).2 pc hpc hpc'

/-- The bytes of a thread depend on the structure alone. -/
theorem SameStructure.bytesPerThread_eq (h : c.SameStructure c') :
    c.bytesPerThread = c'.bytesPerThread := by
  simp only [bytesPerThread, h.length_eq, h.groups_eq, h.capture_eq]

end Compiled

section
variable {p p' : Program} {c c' : Compiled}

/-- Programs of the same structure run in one tier. -/
theorem Program.tier_eq_of_sameStructure (h : c.SameStructure c') (hp : p.compiled? = some c)
    (hp' : p'.compiled? = some c') : p.tier = p'.tier := by
  simp [tier, instructions, hp, hp', h.length_eq]

/-- Programs of the same structure need the same memory. -/
theorem Program.workingMemorySize_eq_of_sameStructure (h : c.SameStructure c')
    (hp : p.compiled? = some c) (hp' : p'.compiled? = some c') (threads : Size) :
    p.workingMemorySize threads = p'.workingMemorySize threads := by
  simp [workingMemorySize, workingMemory, hp, hp', h.bytesPerThread_eq]

end

/-- **Flags select leaves, never structure.** A pattern is refused with an error under some
flags exactly if it is refused with the same error under all others. If it is compiled, all
flags give programs of the same length with the same number of groups, which have the same
branches, markers and end at the same places and leaves everywhere else; so the memory tier
and the working memory for every number of threads are the same. -/
theorem flags_select_leaves (pattern : List Char) (capture : CaptureMode) (flags flags' : Flags) :
    (∀ e, Compiled.compile pattern flags capture = .error e ↔
      Compiled.compile pattern flags' capture = .error e) ∧
    ∀ c, Compiled.compile pattern flags capture = .ok c →
      ∃ c', Compiled.compile pattern flags' capture = .ok c' ∧ c.SameStructure c' ∧
        ∀ p p' : Program, p.compiled? = some c → p'.compiled? = some c' →
          p.tier = p'.tier ∧
            ∀ threads, p.workingMemorySize threads = p'.workingMemorySize threads := by
  have hresult : (∀ e, Compiled.compile pattern flags capture = .error e ↔
      Compiled.compile pattern flags' capture = .error e) ∧
      ∀ c, Compiled.compile pattern flags capture = .ok c →
        ∃ c', Compiled.compile pattern flags' capture = .ok c' := by
    cases hp : Pattern.parse capture pattern with
    | error e => simp [Compiled.compile, hp]
    | ok p =>
      rw [Compiled.compile_of_parse flags hp, Compiled.compile_of_parse flags' hp]
      by_cases hroom : p.root.codeLength + 1 ≤ Engine.maxInstructions <;> simp [hroom]
  refine ⟨hresult.1, fun c hc => ?_⟩
  obtain ⟨c', hc'⟩ := hresult.2 c hc
  have hsame : c.SameStructure c' := .of_compile hc hc'
  refine ⟨c', hc', hsame, fun p p' hp hp' => ⟨?_, fun threads => ?_⟩⟩
  · exact Program.tier_eq_of_sameStructure hsame hp hp'
  · exact Program.workingMemorySize_eq_of_sameStructure hsame hp hp' threads

end DeviceRegex
