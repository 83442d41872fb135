import DeviceRegex.Proofs.Code.CodeLength
import Mathlib.Algebra.Group.Pointwise.Set.Basic
import Mathlib.Algebra.Group.Pointwise.Set.Lattice

/-!
# Traces

A trace says what a run of the engine does: which choices it makes at splits, and what
it asks of the text in between. The traces of a pattern are given by its tree alone,
with the choices in the order of preference, so that a trace with smaller choices comes
first.

## Main definitions

* `Trace` — choices and letters, put together componentwise.
* `Node.traces` — the traces of a tree under the given flags.
-/
open scoped Pointwise

namespace DeviceRegex

/-- What one run shows: its choices, `false` for the preferred side of a split, and its
letters. -/
@[ext] structure Trace where
  choices : List Bool
  letters : List Letter

namespace Trace

/-- One trace after the other. -/
instance : Monoid Trace where
  one := ⟨[], []⟩
  mul t u := ⟨t.choices ++ u.choices, t.letters ++ u.letters⟩
  mul_assoc t u v := Trace.ext (List.append_assoc ..) (List.append_assoc ..)
  one_mul _ := rfl
  mul_one t := Trace.ext (List.append_nil _) (List.append_nil _)

@[simp] theorem choices_mul (t u : Trace) : (t * u).choices = t.choices ++ u.choices := rfl

@[simp] theorem letters_mul (t u : Trace) : (t * u).letters = t.letters ++ u.letters := rfl

/-- A single choice. -/
def choice (side : Bool) : Trace := ⟨[side], []⟩

/-- A single letter. -/
def letter (l : Letter) : Trace := ⟨[], [l]⟩

/-- The choices that lead to branch `i` of `k`: over `i` splits to the branch, and past
its own split if it is not the last one. -/
def branchChoices (k i : Nat) : List Bool :=
  List.replicate i true ++ if i + 1 = k then [] else [false]

/-- The traces of a choice between branches with the given traces. A choice without
branches is nothing to choose. -/
def ofBranches (branches : List (Set Trace)) : Set Trace :=
  if branches = [] then 1
  else {t | ∃ i s u, branches[i]? = some s ∧ u ∈ s ∧
    t = ⟨branchChoices branches.length i, []⟩ * u}

@[simp] theorem ofBranches_nil : ofBranches [] = 1 := rfl

@[simp] theorem ofBranches_singleton (s : Set Trace) : ofBranches [s] = s := by
  ext t
  constructor
  · rintro ⟨i, s', u, hs, hu, rfl⟩
    cases i with
    | zero =>
      obtain rfl : s = s' := by simpa using hs
      exact hu
    | succ i => simp at hs
  · intro ht
    exact ⟨0, s, t, rfl, ht, rfl⟩

/-- A choice tries its first branch before all others. -/
theorem ofBranches_cons_cons (s s' : Set Trace) (rest : List (Set Trace)) :
    ofBranches (s :: s' :: rest) =
      {choice false} * s ∪ {choice true} * ofBranches (s' :: rest) := by
  ext t
  simp only [Set.mem_union, Set.singleton_mul, Set.mem_image]
  constructor
  · rintro ⟨i, r, u, hr, hu, rfl⟩
    cases i with
    | zero =>
      obtain rfl : s = r := by simpa using hr
      exact .inl ⟨u, hu, rfl⟩
    | succ i =>
      refine .inr ⟨_, ⟨i, r, u, by simpa using hr, hu, rfl⟩, ?_⟩
      simp [← mul_assoc, choice, Trace.ext_iff, branchChoices, List.replicate_succ]
  · rintro (⟨u, hu, rfl⟩ | ⟨_, ⟨i, r, u, hr, hu, rfl⟩, rfl⟩)
    · exact ⟨0, s, u, rfl, hu, rfl⟩
    · refine ⟨i + 1, r, u, by simpa using hr, hu, ?_⟩
      simp [← mul_assoc, choice, Trace.ext_iff, branchChoices, List.replicate_succ]

end Trace

namespace Quantifier

/-- The side of a split that goes into the body of the repetition. -/
def goSide (times : Quantifier) : Bool := !times.greedy

/-- The side of a split that leaves the repetition. -/
def stopSide (times : Quantifier) : Bool := times.greedy

/-- The traces of a repetition whose body has the given traces: the least number of
bodies, then further bodies, each after a choice to go on, and a choice to stop unless
no further body is allowed. -/
def traces (times : Quantifier) (body : Set Trace) : Set Trace :=
  match times.max with
  | some max => ⋃ k ≤ max - times.min,
      body ^ times.min * ({.choice times.goSide} * body) ^ k *
        if k = max - times.min then 1 else {.choice times.stopSide}
  | none => ⋃ k : ℕ,
      body ^ times.min * ({.choice times.goSide} * body) ^ k * {.choice times.stopSide}

end Quantifier

mutual
/-- The traces of a node. A body without code is not repeated. -/
def Node.traces (flags : Flags) : Node → Set Trace
  | .empty => 1
  | .leaf l => {.letter (l.letter flags)}
  | .group (some index) body =>
    {.letter (.plain (.make .openGroup index 0))} * body.traces flags *
      {.letter (.plain (.make .closeGroup index 0))}
  | .group none body => body.traces flags
  | .concat parts => (Node.tracesList flags parts).prod
  | .alternate branches => Trace.ofBranches (Node.tracesList flags branches)
  | .repetition body times =>
    if body.codeLength = 0 then 1 else times.traces (body.traces flags)

/-- The traces of each node of a list. -/
def Node.tracesList (flags : Flags) : List Node → List (Set Trace)
  | [] => []
  | node :: nodes => node.traces flags :: Node.tracesList flags nodes
end

/-! ## Laws -/

namespace Trace

/-- At most `n` rounds, and a choice to stop unless all of them are made. -/
def upTo (round stop : Set Trace) (n : Nat) : Set Trace :=
  ⋃ k ≤ n, round ^ k * if k = n then 1 else stop

theorem upTo_zero (round stop : Set Trace) : upTo round stop 0 = 1 := by
  simp [upTo]

/-- A first round leaves one round less. -/
theorem upTo_succ (round stop : Set Trace) (n : Nat) :
    upTo round stop (n + 1) = round * upTo round stop n ∪ stop := by
  ext t
  simp only [upTo, Set.mul_iUnion₂, Set.mem_union, Set.mem_iUnion]
  constructor
  · rintro ⟨k, hk, ht⟩
    cases k with
    | zero => exact .inr (by simpa using ht)
    | succ k =>
      refine .inl ⟨k, Nat.le_of_succ_le_succ hk, ?_⟩
      simpa [pow_succ', mul_assoc] using ht
  · rintro (⟨k, hk, ht⟩ | ht)
    · refine ⟨k + 1, Nat.succ_le_succ hk, ?_⟩
      simpa [pow_succ', mul_assoc] using ht
    · exact ⟨0, Nat.zero_le _, by simpa using ht⟩

/-- If every round makes a choice, a set of traces that either make a round first or are
in `rest` is determined: it is any number of rounds and then `rest`. -/
theorem eq_iUnion_pow_mul {round rest all : Set Trace} (hround : ∀ t ∈ round, t.choices ≠ [])
    (hall : all = round * all ∪ rest) : all = ⋃ k : ℕ, round ^ k * rest := by
  apply Set.Subset.antisymm
  · intro t ht
    induction hn : t.choices.length using Nat.strong_induction_on generalizing t with
    | _ n ih =>
      rw [hall] at ht
      rcases ht with ⟨u, hu, v, hv, rfl⟩ | ht
      · have hpos := List.length_pos_iff.2 (hround u hu)
        have hlt : v.choices.length < n := by
          simp only [choices_mul, List.length_append] at hn
          omega
        obtain ⟨k, hk⟩ := Set.mem_iUnion.1 (ih _ hlt hv rfl)
        refine Set.mem_iUnion.2 ⟨k + 1, ?_⟩
        rw [pow_succ', mul_assoc]
        exact Set.mul_mem_mul hu hk
      · exact Set.mem_iUnion.2 ⟨0, by simpa using ht⟩
  · refine Set.iUnion_subset fun k => ?_
    induction k with
    | zero =>
      rw [pow_zero, one_mul, hall]
      exact Set.subset_union_right
    | succ k ih =>
      rw [pow_succ', mul_assoc, hall]
      exact (Set.mul_subset_mul_left ih).trans Set.subset_union_left

end Trace

namespace Quantifier
variable {times : Quantifier}

theorem traces_of_max_eq_some {max : Nat} (hmax : times.max = some max) (body : Set Trace) :
    times.traces body = body ^ times.min *
      Trace.upTo ({.choice times.goSide} * body) {.choice times.stopSide} (max - times.min) := by
  simp only [traces, hmax, Trace.upTo, Set.mul_iUnion₂, mul_assoc]

theorem traces_of_max_eq_none (hmax : times.max = none) (body : Set Trace) :
    times.traces body = body ^ times.min *
      ⋃ k : ℕ, ({.choice times.goSide} * body) ^ k * {.choice times.stopSide} := by
  simp only [traces, hmax, Set.mul_iUnion, mul_assoc]

end Quantifier

end DeviceRegex
