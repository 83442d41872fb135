import DeviceRegex.Program.Slots
import DeviceRegex.Proofs.Program.Creation
import Mathlib.Algebra.BigOperators.Group.Multiset.Basic

/-!
# What becomes of programs in slots

Whatever is requested, every slot holds a whole program or an empty one, and the whole
programs in the slots are those that were made and not discarded since, each as often as
it was made.

## Main definitions

* `Slots.run` — the slots after a list of requests.
* `Slots.Sound` — every name has one entry, with a program that is whole or empty.
* `Slots.held` — the whole programs in all slots.
* `Slots.createdIn`, `Slots.discardedIn` — the whole programs that a list of requests makes
  and discards.
* `Slots.Makes` — what an answer to a request for a program has to be.
-/
namespace DeviceRegex

namespace Slots
variable {s : Slots} {slot target name : String} {p : Program}

/-! ## Slots as a map -/

/-- The names of the slots. -/
def names (s : Slots) : List String := s.entries.map (·.1)

@[simp] theorem get?_empty (name : String) : empty.get? name = none := rfl

theorem get?_cons (entries : List (String × Program)) (slot name : String) (p : Program) :
    (⟨(slot, p) :: entries⟩ : Slots).get? name =
      if name = slot then some p else (⟨entries⟩ : Slots).get? name := by
  by_cases hname : name = slot
  · simp [get?, hname]
  · simp [get?, List.lookup_cons, hname, beq_false_of_ne hname]

theorem erase_cons (entries : List (String × Program)) (first slot : String) (p : Program) :
    erase ⟨(first, p) :: entries⟩ slot =
      if first = slot then erase ⟨entries⟩ slot
      else ⟨(first, p) :: (erase ⟨entries⟩ slot).entries⟩ := by
  by_cases hfirst : first = slot <;> simp [erase, hfirst]

theorem get?_erase (s : Slots) (slot name : String) :
    (s.erase slot).get? name = if name = slot then none else s.get? name := by
  obtain ⟨entries⟩ := s
  induction entries with
  | nil => simp [get?, erase]
  | cons entry entries ih =>
    obtain ⟨first, p⟩ := entry
    rw [erase_cons, get?_cons]
    by_cases hfirst : first = slot
    · rw [if_pos hfirst, ih, hfirst]
      by_cases hname : name = slot <;> simp [hname]
    · rw [if_neg hfirst, get?_cons, ih]
      by_cases hname : name = first <;> simp [hname, hfirst]

theorem get?_put (s : Slots) (slot : String) (p : Program) (name : String) :
    (s.put slot p).get? name = if name = slot then some p else s.get? name := by
  have herase := s.get?_erase slot name
  by_cases hname : name = slot <;> simp_all [put, get?_cons]

theorem mem_of_get?_eq_some (h : s.get? slot = some p) : (slot, p) ∈ s.entries := by
  rw [get?, List.lookup_eq_some_iff] at h
  obtain ⟨before, after, hentries, -⟩ := h
  simp [hentries]

theorem nodup_names_erase (h : s.names.Nodup) (slot : String) : (s.erase slot).names.Nodup :=
  h.sublist (List.filter_sublist.map _)

theorem nodup_names_put (h : s.names.Nodup) (slot : String) (p : Program) :
    (s.put slot p).names.Nodup := by
  refine List.nodup_cons.2 ⟨?_, nodup_names_erase h slot⟩
  simp [erase]

/-! ## Histories -/

/-- The slots after a list of requests. -/
def run (s : Slots) : List Step → Slots
  | [] => s
  | r :: steps => (s.step r).2.1.run steps

/-- Every name has one entry, and its program is whole or empty. -/
structure Sound (s : Slots) : Prop where
  nodup : s.names.Nodup
  whole_or_vacant : ∀ entry ∈ s.entries, entry.2.IsWhole ∨ entry.2.IsVacant

theorem Sound.empty : Slots.empty.Sound where
  nodup := List.nodup_nil
  whole_or_vacant _ h := nomatch h

theorem Sound.erase (h : s.Sound) (slot : String) : (s.erase slot).Sound where
  nodup := nodup_names_erase h.nodup slot
  whole_or_vacant entry hentry := h.whole_or_vacant entry (List.mem_filter.1 hentry).1

theorem Sound.put (h : s.Sound) (slot : String) (hp : p.IsWhole ∨ p.IsVacant) :
    (s.put slot p).Sound where
  nodup := nodup_names_put h.nodup slot p
  whole_or_vacant := List.forall_mem_cons.2 ⟨hp, (h.erase slot).whole_or_vacant⟩

theorem Sound.get? (h : s.Sound) (hp : s.get? slot = some p) : p.IsWhole ∨ p.IsVacant :=
  h.whole_or_vacant _ (mem_of_get?_eq_some hp)

theorem Sound.store (h : s.Sound) (slot : String) {made : Except Failure Program}
    (hmade : ∀ p, made = .ok p → p.IsWhole) : (s.store slot made).2.1.Sound := by
  cases made with
  | error failure => exact h
  | ok p => exact h.put slot (.inl (hmade p rfl))

/-- Every request keeps the slots sound. -/
theorem Sound.step (h : s.Sound) (r : Step) : (s.step r).2.1.Sound := by
  cases r with
  | create slot pattern flags capture site =>
    exact h.store slot fun _ => Program.isWhole_of_create
  | new slot pattern site => exact h.store slot fun _ => Program.isWhole_of_create
  | take slot target =>
    simp only [Slots.step, take]
    cases hp : s.get? slot with
    | none => exact h
    | some p => exact (h.put slot (.inr Program.isVacant_empty)).put target (h.get? hp)
  | drop slot =>
    simp only [Slots.step, drop]
    cases s.get? slot with
    | none => exact h
    | some p => exact h.erase slot

/-- The slots are sound after every history. -/
theorem Sound.run (h : s.Sound) (steps : List Step) : (s.run steps).Sound := by
  induction steps generalizing s with
  | nil => exact h
  | cons r steps ih => exact ih (h.step r)

/-! ## What is held, made and discarded -/

/-- A program as a collection, which is without elements if the program is empty. -/
def contentOf (p : Program) : Multiset Program := if p.isEmpty then 0 else {p}

@[simp] theorem contentOf_empty : contentOf .empty = 0 := rfl

/-- The whole programs in all slots. -/
def held (s : Slots) : Multiset Program := (s.entries.map fun entry => contentOf entry.2).sum

/-- The whole program in one slot, if there is one. -/
def heldIn (s : Slots) (slot : String) : Multiset Program :=
  match s.get? slot with
  | some p => contentOf p
  | none => 0

theorem heldIn_of_get?_eq_some (h : s.get? slot = some p) : s.heldIn slot = contentOf p := by
  rw [heldIn, h]

theorem heldIn_of_get?_eq_none (h : s.get? slot = none) : s.heldIn slot = 0 := by
  rw [heldIn, h]

theorem heldIn_put (s : Slots) (slot : String) (p : Program) (name : String) :
    (s.put slot p).heldIn name = if name = slot then contentOf p else s.heldIn name := by
  by_cases hname : name = slot <;> simp [heldIn, get?_put, hname]

theorem held_cons (entries : List (String × Program)) (slot : String) (p : Program) :
    (⟨(slot, p) :: entries⟩ : Slots).held = contentOf p + (⟨entries⟩ : Slots).held := by
  simp [held]

/-- A slot that does not exist is not erased. -/
theorem erase_of_not_mem (h : slot ∉ s.names) : s.erase slot = s := by
  obtain ⟨entries⟩ := s
  have hkept : entries.filter (·.1 ≠ slot) = entries := by
    rw [List.filter_eq_self]
    intro entry hentry
    have hne : entry.1 ≠ slot := fun heq => h (heq ▸ List.mem_map_of_mem hentry)
    simpa using hne
  rw [erase, hkept]

/-- The program that goes with its slot is the one in that slot. -/
theorem held_erase (h : s.names.Nodup) (slot : String) :
    (s.erase slot).held + s.heldIn slot = s.held := by
  obtain ⟨entries⟩ := s
  induction entries with
  | nil => rfl
  | cons entry entries ih =>
    obtain ⟨first, p⟩ := entry
    obtain ⟨hfirst, hrest⟩ := List.nodup_cons.1 h
    rw [erase_cons, held_cons, heldIn, get?_cons]
    by_cases hslot : slot = first
    · -- no later entry has this name, so the first one alone goes
      subst hslot
      rw [if_pos rfl, if_pos rfl, erase_of_not_mem hfirst, add_comm]
    · rw [if_neg (Ne.symm hslot), if_neg hslot, held_cons, add_assoc]
      exact congrArg (contentOf p + ·) (ih hrest)

/-- A program that is put into a slot takes the place of the one in that slot. -/
theorem held_put (h : s.names.Nodup) (slot : String) (p : Program) :
    (s.put slot p).held + s.heldIn slot = s.held + contentOf p := by
  have hput : (s.put slot p).held = contentOf p + (s.erase slot).held := by simp [put, held]
  rw [hput, add_assoc, held_erase h, add_comm]

/-- The collection of what an attempt made. -/
def madeBy : Except Failure Program → Multiset Program
  | .ok p => {p}
  | .error _ => 0

/-- The whole programs that a request makes. -/
def Step.created : Step → Multiset Program
  | .create _ pattern flags capture site => madeBy (Program.create pattern flags capture site)
  | .new _ pattern site => madeBy (Program.new pattern site)
  | .take .. | .drop _ => 0

/-- The whole programs that a request discards: the one in a slot that is dropped, and the
one in whose place another program is stored. -/
def discarded (s : Slots) (r : Step) : Multiset Program :=
  match r with
  | .create slot _ _ _ _ | .new slot _ _ => if (s.step r).1 = .done then s.heldIn slot else 0
  | .take slot target =>
    if (s.step r).1 = .done ∧ target ≠ slot then s.heldIn target else 0
  | .drop slot => s.heldIn slot

/-- The whole programs that a list of requests makes. -/
def createdIn (steps : List Step) : Multiset Program := (steps.map Step.created).sum

/-- The whole programs that a list of requests discards. -/
def discardedIn (s : Slots) : List Step → Multiset Program
  | [] => 0
  | r :: steps => s.discarded r + (s.step r).2.1.discardedIn steps

theorem held_store (h : s.names.Nodup) (slot : String) {made : Except Failure Program}
    (hmade : ∀ p, made = .ok p → p.IsWhole) :
    (s.store slot made).2.1.held +
        (if (s.store slot made).1 = .done then s.heldIn slot else 0) =
      s.held + madeBy made := by
  cases made with
  | error failure => simp [store, madeBy]
  | ok p => simp [store, madeBy, held_put h, contentOf, (hmade p rfl).isEmpty_eq]

/-- What is held after a request is what was held and what is made, but for what is
discarded. -/
theorem held_step (h : s.names.Nodup) (r : Step) :
    (s.step r).2.1.held + s.discarded r = s.held + r.created := by
  cases r with
  | create slot pattern flags capture site =>
    exact held_store h slot fun _ => Program.isWhole_of_create
  | new slot pattern site => exact held_store h slot fun _ => Program.isWhole_of_create
  | take slot target =>
    cases hp : s.get? slot with
    | none => simp [discarded, Step.created, step, take, hp]
    | some p =>
      have hleft := held_put h slot .empty
      have hmoved := held_put (nodup_names_put h slot .empty) target p
      rw [heldIn_of_get?_eq_some hp, contentOf_empty, add_zero] at hleft
      rw [heldIn_put] at hmoved
      have hstep : (s.step (.take slot target)).2.1 = (s.put slot .empty).put target p := by
        simp [step, take, hp, Program.take]
      have hdone : (s.step (.take slot target)).1 = .done := by simp [step, take, hp]
      simp only [discarded, hdone, hstep, Step.created, add_zero, true_and]
      by_cases htarget : target = slot
      · simpa [htarget, hleft] using hmoved
      · simpa [htarget, hleft] using hmoved
  | drop slot =>
    cases hp : s.get? slot with
    | none => simp [discarded, Step.created, step, drop, hp, heldIn_of_get?_eq_none hp]
    | some p => simp [discarded, Step.created, step, drop, hp, held_erase h]

/-- What is held after a history is what was held and what was made, but for what was
discarded. -/
theorem held_run (h : s.Sound) (steps : List Step) :
    (s.run steps).held + s.discardedIn steps = s.held + createdIn steps := by
  induction steps generalizing s with
  | nil => rfl
  | cons r steps ih =>
    calc (s.run (r :: steps)).held + s.discardedIn (r :: steps)
      _ = ((s.step r).2.1.run steps).held + (s.step r).2.1.discardedIn steps + s.discarded r := by
        rw [run, discardedIn, add_assoc, add_comm (s.discarded r)]
      _ = (s.step r).2.1.held + s.discarded r + createdIn steps := by
        rw [ih (h.step r), add_right_comm]
      _ = s.held + createdIn (r :: steps) := by
        rw [held_step h.nodup r, add_assoc]
        simp [createdIn]

/-! ## Single requests -/

/-- What the answer to a request for a program in a slot has to be. It succeeds exactly if
the flags are recognized, the pattern is not empty and the pattern is compiled. Then the
slot holds the program that was asked for, and otherwise all slots are as they were. -/
structure Makes (s : Slots) (slot pattern : String) (flags : Flags) (capture : CaptureMode)
    (answer : Outcome × Slots × List Event) : Prop where
  done_iff : answer.1 = .done ↔ flags.unrecognized = 0 ∧ pattern ≠ "" ∧
    ∃ c, Compiled.compile pattern.toList flags capture = .ok c
  unchanged : answer.1 ≠ .done → answer.2.1 = s
  stored : answer.1 = .done → ∃ c, Compiled.compile pattern.toList flags capture = .ok c ∧
    ∀ name, answer.2.1.get? name =
      if name = slot then some ⟨pattern, flags, capture, some c⟩ else s.get? name

theorem makes_store (s : Slots) (slot pattern : String) (flags : Flags) (capture : CaptureMode)
    (site : CallSite) :
    s.Makes slot pattern flags capture
      (s.store slot (Program.create pattern flags capture site)) := by
  cases hmade : Program.create pattern flags capture site with
  | error failure =>
    have hnot : ¬(flags.unrecognized = 0 ∧ pattern ≠ "" ∧
        ∃ c, Compiled.compile pattern.toList flags capture = .ok c) := by
      rintro ⟨hflags, hpattern, c, hc⟩
      rw [Program.create_eq_ok_iff.2 ⟨hflags, hpattern, c, hc, rfl⟩] at hmade
      cases hmade
    exact ⟨iff_of_false (by simp [store]) hnot, fun _ => rfl, fun h => by simp [store] at h⟩
  | ok p =>
    obtain ⟨hflags, hpattern, c, hc, rfl⟩ := Program.create_eq_ok_iff.1 hmade
    refine ⟨iff_of_true rfl ⟨hflags, hpattern, c, hc⟩, fun h => absurd rfl h, fun _ => ?_⟩
    exact ⟨c, hc, fun name => s.get?_put slot _ name⟩

/-- A program that is taken stands in the target, and an empty one where it was. If that is
one and the same slot, the program is back in its place. -/
theorem get?_take (h : s.get? slot = some p) (target name : String) :
    (s.step (.take slot target)).2.1.get? name =
      if name = target then some p else if name = slot then some .empty else s.get? name := by
  simp [step, take, h, Program.take, get?_put]

/-- **Programs are whole or empty, and never duplicated or lost.** After every history of
requests that starts without slots, every slot has a whole program or an empty one, which
its pattern tells apart, and the whole programs in the slots, with those that were
discarded, are those that were made. A request for a program makes it or changes nothing.
A program that is taken is moved as a whole, out of a slot that is then empty, in place of
what the target held; into its own slot it is moved without a change. A slot that is
dropped is gone, and no other slot with it. -/
theorem whole_or_empty_over_history (steps : List Step) :
    (∀ slot p, (empty.run steps).get? slot = some p →
      (p.IsWhole ∨ p.IsVacant) ∧ (p.pattern = "" ↔ p.isEmpty)) ∧
    (empty.run steps).held + empty.discardedIn steps = createdIn steps ∧
    (∀ slot pattern flags capture site, (empty.run steps).Makes slot pattern flags capture
      ((empty.run steps).step (.create slot pattern flags capture site))) ∧
    (∀ slot pattern site, (empty.run steps).Makes slot pattern .none .extract
      ((empty.run steps).step (.new slot pattern site))) ∧
    (∀ slot target p, (empty.run steps).get? slot = some p →
      ((empty.run steps).step (.take slot target)).1 = .done ∧
      ∀ name, ((empty.run steps).step (.take slot target)).2.1.get? name =
        if name = target then some p
        else if name = slot then some .empty
        else (empty.run steps).get? name) ∧
    (∀ slot p, (empty.run steps).get? slot = some p →
      ∀ name, ((empty.run steps).step (.take slot slot)).2.1.get? name =
        (empty.run steps).get? name) ∧
    (∀ slot p, (empty.run steps).get? slot = some p →
      ((empty.run steps).step (.drop slot)).1 = .done ∧
      ∀ name, ((empty.run steps).step (.drop slot)).2.1.get? name =
        if name = slot then none else (empty.run steps).get? name) := by
  have hsound : (empty.run steps).Sound := Sound.empty.run steps
  have hheld := held_run Sound.empty steps
  generalize empty.run steps = s at hsound hheld ⊢
  refine ⟨fun slot p hp => ?_, ?_, fun slot pattern flags capture site => ?_,
    fun slot pattern site => ?_, fun slot target p hp => ⟨?_, get?_take hp target⟩,
    fun slot p hp name => ?_, fun slot p hp => ⟨?_, fun name => ?_⟩⟩
  · have h := hsound.get? hp
    exact ⟨h, Program.pattern_eq_iff_isEmpty h⟩
  · simpa [held, empty] using hheld
  · exact s.makes_store slot pattern flags capture site
  · exact s.makes_store slot pattern .none .extract site
  · simp [step, take, hp]
  · rw [get?_take hp]
    by_cases hname : name = slot <;> simp [hname, hp]
  · simp [step, drop, hp]
  · simp [step, drop, hp, get?_erase]

end Slots

end DeviceRegex
