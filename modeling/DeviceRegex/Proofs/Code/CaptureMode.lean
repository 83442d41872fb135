import DeviceRegex.Proofs.Code.Meaning
import DeviceRegex.Proofs.Pattern.Unnumbered
import Mathlib.Algebra.Group.Pointwise.Set.BigOperators
import Mathlib.Algebra.FreeMonoid.Basic

/-!
# The capture mode

Whether groups are kept does not change what a pattern asks of the text. The two programs
of a pattern differ in more than the markers of groups: a repetition of groups around
nothing is code where they are kept, and is nothing where they are not. But a run that
makes rounds without a letter asks for nothing, so the letters of the runs are the same.

## Main definitions

* `Compiled.words` — what a program asks of the text along its runs.
* `withoutMarkers` — letters without the markers of groups.
* `Quantifier.words` — the words of a repetition, given those of its body.
-/
open scoped Pointwise

namespace DeviceRegex

/-- The letter says that a group starts or ends. -/
def Letter.isMarker : Letter → Bool
  | .plain i => i.opcode? == some .openGroup || i.opcode? == some .closeGroup
  | .member _ _ => false

/-- The letters without the markers of groups. -/
def withoutMarkers (letters : List Letter) : List Letter := letters.filter (!·.isMarker)

/-- The letters of the runs of a program, without the choices that led to them. -/
def Compiled.words (c : Compiled) : Set (List Letter) := Trace.letters '' c.traces

/-- No leaf is a marker. -/
theorem Leaf.isMarker_letter (flags : Flags) (l : Leaf) : (l.letter flags).isMarker = false := by
  cases l with
  | char c =>
    rw [Leaf.letter]
    split <;> simp [Letter.isMarker]
  | dot =>
    rw [Leaf.letter]
    split <;> simp [Letter.isMarker]
  | set items negated => rfl
  | assertion test =>
    cases test <;> simp only [Leaf.letter, Assertion.instruction] <;> (try split) <;>
      simp [Letter.isMarker]

/-! ## The length of code without markers -/

theorem Quantifier.codeLength_mono (times : Quantifier) {m n : Nat} (h : m ≤ n) :
    times.codeLength m ≤ times.codeLength n := by
  by_cases hm : m = 0
  · rw [hm]
    exact Nat.zero_le _
  · have hn : n ≠ 0 := by omega
    have hcopies := Nat.mul_le_mul_left times.min h
    rw [codeLength, codeLength, if_neg hm, if_neg hn]
    cases times.max with
    | none =>
      by_cases hmin : times.min = 0
      · simpa only [hmin, if_true] using Nat.add_le_add_right h 2
      · simpa only [hmin, if_false] using Nat.add_le_add_right hcopies 1
    | some max =>
      have hoptional := Nat.mul_le_mul_left (max - times.min) (Nat.add_le_add_right h 1)
      exact Nat.add_le_add hcopies hoptional

/-- If a repetition of code is no code, it repeats nothing. -/
theorem Quantifier.traces_of_codeLength_eq_zero {times : Quantifier} {n : Nat} (hn : n ≠ 0)
    (h : times.codeLength n = 0) (body : Set Trace) : times.traces body = 1 := by
  rw [codeLength, if_neg hn] at h
  cases hmax : times.max with
  | none =>
    simp only [hmax] at h
    split at h <;> omega
  | some max =>
    simp only [hmax, Nat.add_eq_zero_iff, Nat.mul_eq_zero] at h
    obtain ⟨hmin, hrest⟩ := h
    have hmin : times.min = 0 := by omega
    have hrest : max - times.min = 0 := by omega
    rw [traces_of_max_eq_some hmax, hrest, hmin, pow_zero, Trace.upTo_zero, one_mul]

mutual
/-- Without the numbers of its groups a tree has no more code. -/
theorem Node.codeLength_unnumbered_le : (node : Node) →
    node.unnumbered.codeLength ≤ node.codeLength
  | .empty => Nat.le_refl _
  | .leaf _ => Nat.le_refl _
  | .group (some _) body => (Node.codeLength_unnumbered_le body).trans (Nat.le_add_left _ _)
  | .group none body => Node.codeLength_unnumbered_le body
  | .concat parts => Node.codeLengths_unnumberedAll_le parts
  | .alternate branches => by
    have h := Node.codeLengths_unnumberedAll_le branches
    simp only [Node.unnumbered, Node.codeLength, Node.length_unnumberedAll]
    omega
  | .repetition body times => times.codeLength_mono (Node.codeLength_unnumbered_le body)

theorem Node.codeLengths_unnumberedAll_le : (nodes : List Node) →
    Node.codeLengths (Node.unnumberedAll nodes) ≤ Node.codeLengths nodes
  | [] => Nat.le_refl _
  | node :: nodes =>
    Nat.add_le_add (Node.codeLength_unnumbered_le node) (Node.codeLengths_unnumberedAll_le nodes)
end

/-- Twice a group around nothing: code where the group is kept, and nothing where it is
not. -/
example :
    let twice := Node.repetition (.group (some 1) .empty) ⟨2, some 2, true⟩
    twice.codeLength = 4 ∧ twice.unnumbered.codeLength = 0 := by
  decide

mutual
/-- A tree without code has one trace, which shows nothing. -/
theorem Node.traces_of_codeLength_eq_zero (flags : Flags) : (node : Node) →
    node.codeLength = 0 → node.traces flags = 1
  | .empty, _ => rfl
  | .leaf _, h => absurd h Nat.one_ne_zero
  | .group (some _) _, h => by
    rw [Node.codeLength] at h
    omega
  | .group none body, h => Node.traces_of_codeLength_eq_zero flags body h
  | .concat parts, h => Node.prod_tracesList_of_codeLengths_eq_zero flags parts h
  | .alternate branches, h => by
    rw [Node.codeLength] at h
    match branches with
    | [] => rfl
    | [node] =>
      rw [Node.codeLengths, Node.codeLengths] at h
      rw [Node.traces, Node.tracesList, Node.tracesList, Trace.ofBranches_singleton]
      exact Node.traces_of_codeLength_eq_zero flags node (by omega)
    | _ :: _ :: _ =>
      simp only [List.length_cons] at h
      omega
  | .repetition body times, h => by
    rw [Node.traces]
    split
    · rfl
    · exact Quantifier.traces_of_codeLength_eq_zero ‹_› h _

theorem Node.prod_tracesList_of_codeLengths_eq_zero (flags : Flags) : (nodes : List Node) →
    Node.codeLengths nodes = 0 → (Node.tracesList flags nodes).prod = 1
  | [], _ => rfl
  | node :: nodes, h => by
    rw [Node.codeLengths, Nat.add_eq_zero_iff] at h
    rw [Node.tracesList, List.prod_cons, Node.traces_of_codeLength_eq_zero flags node h.1,
      Node.prod_tracesList_of_codeLengths_eq_zero flags nodes h.2, one_mul]
end

/-! ## Words -/

/-- The letters of a trace, as a homomorphism. -/
def Trace.word : Trace →* FreeMonoid Letter where
  toFun t := .ofList t.letters
  map_one' := rfl
  map_mul' _ _ := rfl

/-- The letters of a trace without the markers of groups, as a homomorphism. -/
def Trace.wordWithoutMarkers : Trace →* FreeMonoid Letter where
  toFun t := .ofList (withoutMarkers t.letters)
  map_one' := rfl
  map_mul' t u := List.filter_append t.letters u.letters

/-- The words of a repetition whose body has the given words: so many bodies as the
quantifier allows. -/
def Quantifier.words (times : Quantifier) (body : Set (FreeMonoid Letter)) :
    Set (FreeMonoid Letter) :=
  match times.max with
  | some max => ⋃ k ≤ max - times.min, body ^ times.min * body ^ k
  | none => ⋃ k : ℕ, body ^ times.min * body ^ k

/-- Repeating what asks for nothing asks for nothing. -/
theorem Quantifier.words_one (times : Quantifier) : times.words 1 = 1 := by
  rw [words]
  cases times.max with
  | none => simp only [one_pow, one_mul, Set.iUnion_const]
  | some max =>
    simp only [one_pow, one_mul]
    exact Set.biUnion_const (s := {k | k ≤ max - times.min}) ⟨0, Nat.zero_le _⟩ 1

section
variable {f : Trace →* FreeMonoid Letter} (hf : ∀ side, f (.choice side) = 1)
include hf

/-- A homomorphism that does not see choices turns the traces of a repetition into its
words. -/
theorem image_traces (times : Quantifier) (body : Set Trace) :
    f '' times.traces body = times.words (f '' body) := by
  have hround : f '' ({.choice times.goSide} * body) = f '' body := by
    rw [Set.image_mul, Set.image_singleton, hf, Set.singleton_one, one_mul]
  have hstop : f '' {.choice times.stopSide} = 1 := by
    rw [Set.image_singleton, hf, Set.singleton_one]
  have hlast (k n : Nat) : f '' (if k = n then 1 else {.choice times.stopSide}) = 1 := by
    split
    · rw [Set.image_one, map_one, Set.singleton_one]
    · exact hstop
  rw [Quantifier.traces, Quantifier.words]
  cases times.max with
  | none =>
    simp only [Set.image_iUnion, Set.image_mul, Set.image_pow, hround, hstop, mul_one]
  | some max =>
    simp only [Set.image_iUnion, Set.image_mul, Set.image_pow, hround, hlast, mul_one]

theorem image_ofBranches_cons_cons (s s' : Set Trace) (rest : List (Set Trace)) :
    f '' Trace.ofBranches (s :: s' :: rest) = f '' s ∪ f '' Trace.ofBranches (s' :: rest) := by
  rw [Trace.ofBranches_cons_cons, Set.image_union, Set.image_mul, Set.image_mul,
    Set.image_singleton, Set.image_singleton, hf, hf, Set.singleton_one, one_mul, one_mul]

end

namespace Trace

@[simp] theorem word_choice (side : Bool) : word (choice side) = 1 := rfl

@[simp] theorem wordWithoutMarkers_choice (side : Bool) : wordWithoutMarkers (choice side) = 1 :=
  rfl

theorem wordWithoutMarkers_letter_of_leaf (flags : Flags) (l : Leaf) :
    wordWithoutMarkers (letter (l.letter flags)) = word (letter (l.letter flags)) := by
  change withoutMarkers [l.letter flags] = [l.letter flags]
  simp [withoutMarkers, l.isMarker_letter flags]

theorem wordWithoutMarkers_marker {op : Opcode} (hop : op = .openGroup ∨ op = .closeGroup)
    (index : Nat) : wordWithoutMarkers (letter (.plain (.make op index 0))) = 1 := by
  change withoutMarkers [.plain (.make op index 0)] = []
  rcases hop with rfl | rfl <;> simp [withoutMarkers, Letter.isMarker]

end Trace

mutual
/-- A tree without the numbers of its groups has the words of the tree without the
markers. -/
theorem Node.image_word_traces_unnumbered (flags : Flags) : (node : Node) →
    Trace.word '' node.unnumbered.traces flags = Trace.wordWithoutMarkers '' node.traces flags
  | .empty => by
    simp only [Node.unnumbered, Node.traces, Set.image_one, map_one]
  | .leaf l => by
    simp only [Node.unnumbered, Node.traces, Set.image_singleton,
      Trace.wordWithoutMarkers_letter_of_leaf]
  | .group (some index) body => by
    simp only [Node.unnumbered, Node.traces, Set.image_mul, Set.image_singleton,
      Trace.wordWithoutMarkers_marker, or_true, true_or, Set.singleton_one, one_mul, mul_one]
    exact Node.image_word_traces_unnumbered flags body
  | .group none body => Node.image_word_traces_unnumbered flags body
  | .concat parts => Node.image_word_prod_unnumbered flags parts
  | .alternate branches => Node.image_word_ofBranches_unnumbered flags branches
  | .repetition body times => by
    have ih := Node.image_word_traces_unnumbered flags body
    have hlength := body.codeLength_unnumbered_le
    simp only [Node.unnumbered, Node.traces]
    by_cases hbody : body.codeLength = 0
    · rw [if_pos hbody, if_pos (by omega), Set.image_one, Set.image_one, map_one, map_one]
    rw [if_neg hbody, image_traces Trace.wordWithoutMarkers_choice, ← ih]
    by_cases hunnumbered : body.unnumbered.codeLength = 0
    · -- only markers are repeated: the rounds are made in one program and vanish in the other
      rw [if_pos hunnumbered, Node.traces_of_codeLength_eq_zero flags _ hunnumbered, Set.image_one,
        map_one, Set.singleton_one, times.words_one]
    · rw [if_neg hunnumbered, image_traces Trace.word_choice]

theorem Node.image_word_prod_unnumbered (flags : Flags) : (nodes : List Node) →
    Trace.word '' (Node.tracesList flags (Node.unnumberedAll nodes)).prod =
      Trace.wordWithoutMarkers '' (Node.tracesList flags nodes).prod
  | [] => by
    simp only [Node.unnumberedAll, Node.tracesList, List.prod_nil, Set.image_one, map_one]
  | node :: nodes => by
    simp only [Node.unnumberedAll, Node.tracesList, List.prod_cons, Set.image_mul,
      Node.image_word_traces_unnumbered flags node, Node.image_word_prod_unnumbered flags nodes]

theorem Node.image_word_ofBranches_unnumbered (flags : Flags) : (nodes : List Node) →
    Trace.word '' Trace.ofBranches (Node.tracesList flags (Node.unnumberedAll nodes)) =
      Trace.wordWithoutMarkers '' Trace.ofBranches (Node.tracesList flags nodes)
  | [] => by
    simp only [Node.unnumberedAll, Node.tracesList, Trace.ofBranches_nil, Set.image_one, map_one]
  | [node] => by
    simp only [Node.unnumberedAll, Node.tracesList, Trace.ofBranches_singleton]
    exact Node.image_word_traces_unnumbered flags node
  | node :: next :: nodes => by
    have ih := Node.image_word_ofBranches_unnumbered flags (next :: nodes)
    simp only [Node.unnumberedAll, Node.tracesList] at ih ⊢
    rw [image_ofBranches_cons_cons Trace.word_choice,
      image_ofBranches_cons_cons Trace.wordWithoutMarkers_choice,
      Node.image_word_traces_unnumbered flags node, ih]
end

/-! ## Programs -/

/-- **The capture mode does not change what a pattern matches.** A pattern is refused with
an error where groups are kept exactly if it is refused with the same error where they are
not. A pattern that is compiled where groups are kept is compiled where they are not, to a
program whose runs ask for the same letters, apart from the markers of groups. -/
theorem captureMode_keeps_words (pattern : List Char) (flags : Flags) :
    (∀ e, Pattern.parse .extract pattern = .error e ↔
      Pattern.parse .nonCapture pattern = .error e) ∧
    ∀ c, Compiled.compile pattern flags .extract = .ok c →
      ∃ c', Compiled.compile pattern flags .nonCapture = .ok c' ∧
        c'.words = withoutMarkers '' c.words := by
  have hparse := Pattern.parse_nonCapture pattern
  constructor
  · intro e
    rw [hparse]
    cases Pattern.parse .extract pattern <;> simp [Except.map]
  · intro c hc
    obtain ⟨p, hp, hroom, rfl⟩ := Compiled.eq_of_compile hc
    rw [hp] at hparse
    have hlength := p.root.codeLength_unnumbered_le
    have hroom' : p.root.unnumbered.codeLength + 1 ≤ Engine.maxInstructions := by omega
    refine ⟨_, (Compiled.compile_of_parse flags hparse).trans (if_pos hroom'), ?_⟩
    have hwords := Node.image_word_traces_unnumbered flags p.root
    rw [← Node.runs_finishedCode hroom, ← Node.runs_finishedCode hroom'] at hwords
    exact hwords.trans (Set.image_image withoutMarkers Trace.letters _).symm

end DeviceRegex
