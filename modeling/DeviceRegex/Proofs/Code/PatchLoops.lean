import DeviceRegex.Code.Draft
import Mathlib.Data.List.Fold

/-!
# Loops that patch

Splits and jumps that leave for one place are collected while the code up to that place is
written, and get it as their target in one loop. It makes no difference if each one gets it
as soon as what it belongs to is written: patches of one kind may be made in any order, and
none of them moves the end of the draft. So a loop over branches writes what choices inside
each other write, and a loop over copies what optional parts inside each other write.

## Main definitions

* `Emission.nestedChoice parts` — each choice stands in the last branch of the one before it.
* `Emission.nestedOptionals greedy part n` — each copy stands in the optional part of the one
  before it.
-/
namespace DeviceRegex

/-! ## Patches -/

namespace Draft
variable (d : Draft)

/-- Changes of the instructions at two places may be made in any order. -/
theorem modify_comm (code : Array Instruction) (change : Nat → Instruction → Instruction)
    (pc pc' : Nat) :
    (code.modify pc (change pc)).modify pc' (change pc') =
      (code.modify pc' (change pc')).modify pc (change pc) := by
  by_cases hpc : pc = pc'
  · rw [hpc]
  · apply Array.ext
    · simp
    · intro k hk hk'
      simp only [Array.getElem_modify]
      by_cases h : pc = k
      · have h' : pc' ≠ k := fun h' => hpc (h.trans h'.symm)
        simp [h, h']
      · simp [h]

/-- Both targets of a split are set by one change of its instruction. -/
theorem code_prefer (greedy : Bool) (pc body out : Nat) :
    (d.prefer greedy pc body out).code = d.code.modify pc fun i =>
      if greedy then (i.setA body).setB out else (i.setA out).setB body := by
  apply Array.ext
  · cases greedy <;> simp [prefer, patchSplit, patchA, patchB]
  · intro k hk hk'
    by_cases h : pc = k <;> cases greedy <;>
      simp [prefer, patchSplit, patchA, patchB, Array.getElem_modify, h]

@[simp] theorem classes_prefer (greedy : Bool) (pc body out : Nat) :
    (d.prefer greedy pc body out).classes = d.classes := by
  cases greedy <;> rfl

@[simp] theorem here_patchA (pc target : Nat) : (d.patchA pc target).here = d.here := by
  simp [patchA, here]

@[simp] theorem here_prefer (greedy : Bool) (pc body out : Nat) :
    (d.prefer greedy pc body out).here = d.here := by
  simp [here, code_prefer]

end Draft

/-- Jumps to one place may be patched in any order. -/
instance (out : Nat) : RightCommutative fun (d : Draft) exit => d.patchA exit out where
  right_comm d exit exit' := by
    have h := Draft.modify_comm d.code (fun _ i => i.setA out) exit exit'
    simp only [Draft.patchA, h]

/-- Splits that leave for one place may be patched in any order. -/
instance (greedy : Bool) (out : Nat) :
    RightCommutative fun (d : Draft) split => d.prefer greedy split (split + 1) out where
  right_comm d split split' := by
    have h := Draft.modify_comm d.code (fun pc i =>
      if greedy then (i.setA (pc + 1)).setB out else (i.setA out).setB (pc + 1)) split split'
    apply Draft.ext <;> simp [Draft.code_prefer, h]

/-- The first one of the patches may as well be the last one. -/
theorem foldl_patch_first (patch : Draft → Nat → Draft) [RightCommutative patch] (first : Nat)
    (rest : Array Nat) (d : Draft) :
    (#[first] ++ rest).foldl patch d = patch (rest.foldl patch d) first := by
  rw [← Array.foldl_toList, ← Array.foldl_toList, Array.toList_append]
  exact List.foldl_cons_eq_apply_foldl

theorem here_foldl_patch {patch : Draft → Nat → Draft}
    (hpatch : ∀ d pc, (patch d pc).here = d.here) (pcs : Array Nat) (d : Draft) :
    (pcs.foldl patch d).here = d.here := by
  rw [← Array.foldl_toList]
  induction pcs.toList generalizing d with
  | nil => rfl
  | cons pc pcs ih => exact (ih _).trans (hpatch d pc)

namespace Emission

/-! ## Choices -/

/-- A choice between two parts, the first one preferred. -/
def choice (first second : Emission) : Emission := fun d => do
  let split := d.here
  let d ← first (← d.pushSplit?)
  let exit := d.here
  let d ← d.push? (.make .jump 0 0)
  let d ← second (d.patchSplit split (split + 1) d.here)
  return d.patchA exit d.here

/-- Jumps are put behind those that have been collected before. -/
theorem branches_eq (parts : List Emission) (exits : Array Nat) (d : Draft) :
    branches parts exits d =
      (branches parts #[] d).map fun later => (exits ++ later.1, later.2) := by
  induction parts generalizing exits d with
  | nil => simp [branches]
  | cons part parts ih =>
    cases parts with
    | nil => simp [branches, Option.map_eq_bind, Option.bind_assoc]
    | cons next parts =>
      simp only [branches, Option.bind_eq_bind, Option.map_bind, Function.comp_def]
      refine Option.bind_congr fun d₁ _ => Option.bind_congr fun d₂ _ =>
        Option.bind_congr fun d₃ _ => ?_
      rw [ih, ih (#[].push _), Option.map_map]
      simp [Function.comp_def]

/-- A choice between parts, where all but the first one stand in the last branch. -/
def nestedChoice : List Emission → Emission
  | [] => some
  | [part] => part
  | part :: parts => choice part (nestedChoice parts)

/-- The jump behind the first branch is patched first by the loop, and last by a choice that
has all other branches in its last one. -/
theorem alternatives_cons_cons (part next : Emission) (parts : List Emission) :
    alternatives (part :: next :: parts) = choice part (alternatives (next :: parts)) := by
  funext d
  simp only [alternatives, choice, branches, Option.bind_eq_bind, Option.bind_assoc]
  refine Option.bind_congr fun d₁ _ => Option.bind_congr fun d₂ _ =>
    Option.bind_congr fun d₃ _ => ?_
  -- the same is written from here on, and what is left is the order of the patches
  rw [branches_eq]
  cases branches (next :: parts) #[] _ with
  | none => rfl
  | some written =>
    obtain ⟨exits, d'⟩ := written
    have hout := here_foldl_patch (fun d pc => d.here_patchA pc d'.here) exits d'
    have hfirst := foldl_patch_first (fun d exit => d.patchA exit d'.here) d₂.here exits d'
    simpa [hout] using hfirst

/-- **A loop over branches makes nested choices.** -/
theorem alternatives_eq_nestedChoice (parts : List Emission) :
    alternatives parts = nestedChoice parts := by
  induction parts with
  | nil => rfl
  | cons part parts ih =>
    cases parts with
    | nil =>
      funext d
      simp [alternatives, branches, nestedChoice, Option.bind_assoc]
    | cons next parts =>
      rw [alternatives_cons_cons, ih]
      rfl

/-! ## Optional copies -/

/-- A part that may be skipped. -/
def optional (greedy : Bool) (part : Emission) : Emission := fun d => do
  let split := d.here
  let d ← part (← d.pushSplit?)
  return d.prefer greedy split (split + 1) d.here

/-- Splits are put behind those that have been collected before. -/
theorem splitCopies_eq (part : Emission) (n : Nat) (splits : Array Nat) (d : Draft) :
    splitCopies part n splits d =
      (splitCopies part n #[] d).map fun later => (splits ++ later.1, later.2) := by
  induction n generalizing splits d with
  | zero => simp [splitCopies]
  | succ n ih =>
    simp only [splitCopies, Option.bind_eq_bind, Option.map_bind, Function.comp_def]
    refine Option.bind_congr fun d₁ _ => Option.bind_congr fun d₂ _ => ?_
    rw [ih, ih (#[].push _), Option.map_map]
    simp [Function.comp_def]

/-- At most so many copies of a part, where each one stands in the optional part of the one
before it. -/
def nestedOptionals (greedy : Bool) (part : Emission) : Nat → Emission
  | 0 => some
  | n + 1 => optional greedy fun d => do nestedOptionals greedy part n (← part d)

/-- The split in front of the first copy is patched first by the loop, and last by an optional
part that has all other copies in it. -/
theorem optionals_succ (greedy : Bool) (part : Emission) (n : Nat) :
    optionals greedy part (n + 1) =
      optional greedy (fun d => do optionals greedy part n (← part d)) := by
  funext d
  simp only [optionals, optional, splitCopies, Option.bind_eq_bind, Option.bind_assoc]
  refine Option.bind_congr fun d₁ _ => Option.bind_congr fun d₂ _ => ?_
  rw [splitCopies_eq]
  cases splitCopies part n #[] d₂ with
  | none => rfl
  | some written =>
    obtain ⟨splits, d'⟩ := written
    have hout := here_foldl_patch (fun d pc => d.here_prefer greedy pc (pc + 1) d'.here) splits d'
    have hfirst := foldl_patch_first
      (fun d split => d.prefer greedy split (split + 1) d'.here) d.here splits d'
    simpa [hout] using hfirst

/-- **A loop over copies makes nested optional parts.** -/
theorem optionals_eq_nestedOptionals (greedy : Bool) (part : Emission) (n : Nat) :
    optionals greedy part n = nestedOptionals greedy part n := by
  induction n with
  | zero => rfl
  | succ n ih => rw [optionals_succ, ih, nestedOptionals]

end Emission
end DeviceRegex
