import DeviceRegex.Proofs.Code.Meaning
import DeviceRegex.Proofs.Code.Operands

/-!
# Well-formed programs

The engine may trust a program that was compiled: it decodes every word, leaves the code
at its end only, follows every operand without a check, and wastes no room on code that
no run uses.

## Main definitions

* `Reaches code table pc next` — there is a path from `pc` to `next`.
* `Layout.Connected` — wherever it is placed, the layout is left from all of its places,
  and all of them are reached from its start.
* `Compiled.WellFormed` — what the engine relies on.
-/
namespace DeviceRegex

/-! ## Reachable places -/

/-- There is a path from `pc` to `next`. -/
def Reaches (code : List Instruction) (table : ClassTable) (pc next : Nat) : Prop :=
  ∃ t, Path code table pc t next

namespace Reaches
variable {code : List Instruction} {table : ClassTable} {pc next last : Nat}

theorem refl (pc : Nat) : Reaches code table pc pc := ⟨1, .here pc⟩

theorem trans (h : Reaches code table pc next) (h' : Reaches code table next last) :
    Reaches code table pc last := by
  obtain ⟨t, ht⟩ := h
  obtain ⟨u, hu⟩ := h'
  exact ⟨t * u, ht.trans hu⟩

theorem letter {i : Instruction} {l : Letter} (hi : code[pc]? = some i)
    (hl : i.letter? table = some l) : Reaches code table pc (pc + 1) :=
  ⟨_, .single (.letter hi hl)⟩

theorem jump (hfits : Fits code table) (hnext : next ≤ code.length)
    (hi : code[pc]? = some (.make .jump next 0)) : Reaches code table pc next := by
  have hstep : Step code table pc 1 _ := .jump hi (Instruction.opcode?_make ..)
  rw [hfits.toNat_a hnext] at hstep
  exact ⟨_, .single hstep⟩

/-- A split leads to both of its targets. -/
theorem split (hfits : Fits code table) {first second : Nat} (hfirst : first ≤ code.length)
    (hsecond : second ≤ code.length) (hi : code[pc]? = some (.make .split first second)) :
    Reaches code table pc first ∧ Reaches code table pc second := by
  have hpreferred : Step code table pc _ _ := .preferred hi (Instruction.opcode?_make ..)
  have hotherwise : Step code table pc _ _ := .otherwise hi (Instruction.opcode?_make ..)
  rw [hfits.toNat_a hfirst] at hpreferred
  rw [hfits.toNat_b hsecond] at hotherwise
  exact ⟨⟨_, .single hpreferred⟩, ⟨_, .single hotherwise⟩⟩

/-- A branch leads to its body and past it. -/
theorem branch (hfits : Fits code table) {greedy : Bool} {body out : Nat}
    (hbody : body ≤ code.length) (hout : out ≤ code.length)
    (hi : code[pc]? = some (Layout.branch greedy body out)) :
    Reaches code table pc body ∧ Reaches code table pc out := by
  cases greedy with
  | true => exact split hfits hbody hout hi
  | false => exact (split hfits hout hbody hi).symm

end Reaches

/-! ## Layouts -/

/-- Wherever the layout is placed, every place of it is on a way from its start to the
place behind it. -/
structure Layout.Connected (l : Layout) : Prop where
  grows : l.Grows
  through : ∀ {code table pc before}, Fits code table → l.Placed code table pc before →
    ∀ place, pc ≤ place → place ≤ pc + (l pc before).code.length →
      Reaches code table pc place ∧ Reaches code table place (pc + (l pc before).code.length)

namespace Layout.Connected
variable {first second part : Layout}

/-- The place behind a layout is reached from its start. -/
theorem pass {l : Layout} (h : l.Connected) {code : List Instruction}
    {table before : ClassTable} {pc : Nat} (hfits : Fits code table)
    (hplaced : l.Placed code table pc before) :
    Reaches code table pc (pc + (l pc before).code.length) :=
  (h.through hfits hplaced _ (Nat.le_add_right _ _) (Nat.le_refl _)).1

theorem nothing : Layout.nothing.Connected where
  grows := .nothing
  through _ _ place hfirst hlast := by
    obtain rfl := Nat.le_antisymm hfirst hlast
    exact ⟨.refl _, .refl _⟩

/-- One instruction that asks for a letter is passed by a step. -/
private theorem of_step {code : List Instruction} {table : ClassTable} {pc place : Nat}
    (h : Reaches code table pc (pc + 1)) (hfirst : pc ≤ place) (hlast : place ≤ pc + 1) :
    Reaches code table pc place ∧ Reaches code table place (pc + 1) := by
  rcases Nat.le_or_eq_of_le_succ hlast with hle | rfl
  · obtain rfl := Nat.le_antisymm hfirst hle
    exact ⟨.refl _, h⟩
  · exact ⟨h, .refl _⟩

theorem letter (flags : Flags) (l : Leaf) :
    Layout.Connected fun _ table => (l.letter flags).segment table where
  grows := .letter _
  through hfits hplaced place hfirst hlast := by
    obtain ⟨i, hcode, hi⟩ := l.letter?_segment flags hfits hplaced.shares
    have hstands := hplaced.stands
    rw [hcode, standsAt_cons] at hstands
    rw [hcode, List.length_singleton] at hlast ⊢
    exact of_step (.letter hstands.1 hi) hfirst hlast

theorem marker {op : Opcode} (index : Nat) (hop : op = .openGroup ∨ op = .closeGroup) :
    (Layout.single (.make op index 0)).Connected where
  grows := .single _
  through _ hplaced place hfirst hlast := by
    have hstands := standsAt_cons.1 hplaced.stands
    exact of_step (.letter hstands.1 (Instruction.letter?_marker hop index _)) hfirst hlast

theorem append (hfirst : first.Connected) (hsecond : second.Connected) :
    (Layout.append first second).Connected where
  grows := hfirst.grows.append hsecond.grows
  through {code table pc before} hfits hplaced place hge hle := by
    obtain ⟨h₁, h₂⟩ := hplaced.append hsecond.grows
    rw [Layout.end_append] at hle ⊢
    rcases Nat.le_total place (pc + (first pc before).code.length) with hin | hin
    · obtain ⟨henter, hleave⟩ := hfirst.through hfits h₁ place hge hin
      exact ⟨henter, hleave.trans (hsecond.pass hfits h₂)⟩
    · obtain ⟨henter, hleave⟩ := hsecond.through hfits h₂ place hin hle
      exact ⟨(hfirst.pass hfits h₁).trans henter, hleave⟩

theorem choice (hfirst : first.Connected) (hsecond : second.Connected) :
    (Layout.choice first second).Connected where
  grows := hfirst.grows.choice hsecond.grows
  through {code table pc before} hfits hplaced place hge hle := by
    obtain ⟨hsplit, h₁, hjump, h₂⟩ := hplaced.choice hsecond.grows
    have hend := hplaced.stands.end_le (by simp [Layout.choice])
    rw [Layout.end_choice] at hle hend ⊢
    have hfork := Reaches.split hfits (by omega) (by omega) hsplit
    have hexit := Reaches.jump hfits hend hjump
    rcases hge.eq_or_lt with rfl | hgt
    · exact ⟨.refl _, hfork.2.trans (hsecond.pass hfits h₂)⟩
    rcases Nat.lt_or_ge place (pc + 2 + (first (pc + 1) before).code.length) with hin | hin
    · obtain ⟨henter, hleave⟩ := hfirst.through hfits h₁ place hgt (by omega)
      exact ⟨hfork.1.trans henter, hleave.trans hexit⟩
    · obtain ⟨henter, hleave⟩ := hsecond.through hfits h₂ place hin hle
      exact ⟨hfork.2.trans henter, hleave⟩

theorem optional (greedy : Bool) (hpart : part.Connected) :
    (Layout.optional greedy part).Connected where
  grows := hpart.grows.optional greedy
  through {code table pc before} hfits hplaced place hge hle := by
    obtain ⟨hbranch, h⟩ := hplaced.optional
    have hend := hplaced.stands.end_le (by simp [Layout.optional])
    rw [Layout.end_optional] at hle hend ⊢
    have hfork := Reaches.branch hfits (by omega) hend hbranch
    rcases hge.eq_or_lt with rfl | hgt
    · exact ⟨.refl _, hfork.2⟩
    · obtain ⟨henter, hleave⟩ := hpart.through hfits h place hgt hle
      exact ⟨hfork.1.trans henter, hleave⟩

theorem star (greedy : Bool) (hpart : part.Connected) :
    (Layout.star greedy part).Connected where
  grows := hpart.grows.star greedy
  through {code table pc before} hfits hplaced place hge hle := by
    obtain ⟨hbranch, h, hjump⟩ := hplaced.star
    have hend := hplaced.stands.end_le (by simp [Layout.star])
    rw [Layout.end_star] at hle hend ⊢
    have hfork := Reaches.branch hfits (by omega) hend hbranch
    have hback := Reaches.jump hfits (by omega) hjump
    rcases hge.eq_or_lt with rfl | hgt
    · exact ⟨.refl _, hfork.2⟩
    rcases hle.eq_or_lt with rfl | hlt
    · exact ⟨hfork.2, .refl _⟩
    · -- inside a round: finish it, go back to the branch and leave
      obtain ⟨henter, hleave⟩ := hpart.through hfits h place hgt (by omega)
      exact ⟨hfork.1.trans henter, hleave.trans (hback.trans hfork.2)⟩

theorem plus (greedy : Bool) (hpart : part.Connected) :
    (Layout.plus greedy part).Connected where
  grows := hpart.grows.plus greedy
  through {code table pc before} hfits hplaced place hge hle := by
    obtain ⟨h, hbranch⟩ := hplaced.plus
    have hend := hplaced.stands.end_le (by simp [Layout.plus])
    rw [Layout.end_plus] at hle hend ⊢
    have hfork := Reaches.branch hfits (by omega) hend hbranch
    rcases hle.eq_or_lt with rfl | hlt
    · exact ⟨(hpart.pass hfits h).trans hfork.2, .refl _⟩
    · obtain ⟨henter, hleave⟩ := hpart.through hfits h place hge (by omega)
      exact ⟨henter, hleave.trans hfork.2⟩

theorem closed : Layout.Closed Layout.Connected where
  nothing := nothing
  letter := letter
  openGroup index := marker index (.inl rfl)
  closeGroup index := marker index (.inr rfl)
  append := append
  choice := choice
  optional greedy _ := optional greedy
  star greedy _ := star greedy
  plus greedy _ := plus greedy

end Layout.Connected

/-! ## Programs -/

/-- What the engine relies on when it runs a program. -/
structure Compiled.WellFormed (c : Compiled) : Prop where
  decodes : ∀ i ∈ c.code, i.opcode?.isSome
  /-- A match is reported by the last instruction and by no other one. -/
  accept_iff_last : ∀ pc i, c.code[pc]? = some i →
    (i.opcode? = some .accept ↔ pc + 1 = c.code.length)
  length_pos : 1 ≤ c.code.length
  length_le : c.code.length ≤ 32767
  split_lt : ∀ i ∈ c.code, i.opcode? = some .split →
    i.a.toNat < c.code.length ∧ i.b.toNat < c.code.length
  jump_lt : ∀ i ∈ c.code, i.opcode? = some .jump → i.a.toNat < c.code.length
  class_lt : ∀ i ∈ c.code, i.opcode? = some .inClass ∨ i.opcode? = some .notInClass →
    i.a.toNat < c.classes.length
  char_valid : ∀ i ∈ c.code, i.opcode? = some .char → i.b.toNat.isValidChar
  /-- Every place is on the way from the first instruction to the last one. -/
  connected : ∀ pc < c.code.length,
    Reaches c.code c.classes c.start pc ∧ Reaches c.code c.classes pc (c.code.length - 1)

/-- An instruction of finished code is sound in front of the last one, or is the last
one and reports a match. -/
theorem Node.soundIn_or_accept {flags : Flags} {root : Node}
    (hroom : root.codeLength + 1 ≤ Engine.maxInstructions) {pc : Nat} {i : Instruction}
    (hi : (root.finishedCode flags)[pc]? = some i) :
    (pc < root.codeLength ∧
      i.SoundIn 0 root.codeLength (root.layout flags 0 []).table.length) ∨
    (pc = root.codeLength ∧ i = .make .accept 0 0) := by
  have hlength := root.hasLength_layout flags 0 []
  rcases Nat.lt_trichotomy pc root.codeLength with hlt | rfl | hgt
  · rw [finishedCode, List.getElem?_append_left (by omega)] at hi
    have h := (Layout.Sound.closed.node flags root).sound (by omega)
      (fits_finishedCode hroom).table_le i (List.mem_of_getElem? hi)
    rw [hlength, Nat.zero_add] at h
    exact .inl ⟨hlt, h⟩
  · rw [← hlength, getElem?_finishedCode] at hi
    exact .inr ⟨rfl, (Option.some.inj hi).symm⟩
  · rw [List.getElem?_eq_none (by rw [length_finishedCode]; omega)] at hi
    cases hi

/-- **Programs are well formed and have no dead code.** A program that was compiled has
what the engine relies on. -/
theorem Compiled.wellFormed_of_compile {pattern : List Char} {flags : Flags}
    {capture : CaptureMode} {c : Compiled} (h : compile pattern flags capture = .ok c) :
    c.WellFormed := by
  obtain ⟨p, -, hroom, hc⟩ := eq_of_compile h
  have hcode : c.code = p.root.finishedCode flags := by rw [hc]
  have hclasses : c.classes = (p.root.layout flags 0 []).table := by rw [hc]
  have hlength : c.code.length = p.root.codeLength + 1 := by
    rw [hcode, Node.length_finishedCode]
  have hsound {i : Instruction} (hi : i ∈ c.code) (hop : i.opcode? ≠ some .accept) :
      i.SoundIn 0 p.root.codeLength c.classes.length := by
    obtain ⟨pc, hpc⟩ := List.getElem?_of_mem hi
    rw [hcode] at hpc
    rw [hclasses]
    rcases Node.soundIn_or_accept hroom hpc with ⟨-, h⟩ | ⟨-, rfl⟩
    · exact h
    · exact absurd (Instruction.opcode?_make ..) hop
  refine
    { decodes := fun i hi => ?_
      accept_iff_last := fun pc i hi => ?_
      length_pos := by omega
      length_le := hlength.trans_le hroom
      split_lt := fun i hi hop => ?_
      jump_lt := fun i hi hop => ?_
      class_lt := fun i hi hop => ?_
      char_valid := fun i hi hop => ?_
      connected := fun pc hpc => ?_ }
  · by_cases hop : i.opcode? = some .accept
    · rw [hop]
      rfl
    · exact (hsound hi hop).decodes
  · rw [hcode] at hi
    rcases Node.soundIn_or_accept hroom hi with ⟨hpc, h⟩ | ⟨hpc, rfl⟩
    · exact iff_of_false h.not_accept (by omega)
    · exact iff_of_true (Instruction.opcode?_make ..) (by omega)
  · have htargets := (hsound hi (by simp [hop])).split hop
    omega
  · have htarget := (hsound hi (by simp [hop])).jump hop
    omega
  · exact (hsound hi (by rcases hop with hop | hop <;> simp [hop])).member hop
  · exact (hsound hi (by simp [hop])).char hop
  · have h := (Layout.Connected.closed.node flags p.root).through (Node.fits_finishedCode hroom)
      Node.placed_finishedCode pc
    rw [Nat.zero_add, p.root.hasLength_layout flags, ← hcode, ← hclasses] at h
    rw [hlength, Nat.add_sub_cancel]
    exact h (Nat.zero_le pc) (by omega)

/-- The program of a loop whose body is a group with a choice. -/
theorem Compiled.wellFormed_loop_of_choice :
    ∃ c, compile ['(', 'a', '|', '[', 'b', ']', ')', '*'] .none .extract = .ok c ∧
      c.code = [.make .split 1 8, .make .openGroup 1 0, .make .split 3 5, .make .char 0 97,
        .make .jump 6 0, .make .inClass 0 0, .make .closeGroup 1 0, .make .jump 0 0,
        .make .accept 0 0] ∧
      c.WellFormed := by
  have hcompile : compile ['(', 'a', '|', '[', 'b', ']', ')', '*'] .none .extract =
      .ok ⟨[.make .split 1 8, .make .openGroup 1 0, .make .split 3 5, .make .char 0 97,
        .make .jump 6 0, .make .inClass 0 0, .make .closeGroup 1 0, .make .jump 0 0,
        .make .accept 0 0], [⟨[.char 'b'], false⟩], 1, .none, .extract⟩ := by
    decide +kernel
  exact ⟨_, hcompile, rfl, wellFormed_of_compile hcompile⟩

end DeviceRegex
