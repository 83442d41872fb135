import DeviceRegex.Proofs.Code.Placement

/-!
# Operands

Every instruction of a layout has operands that mean something. A branch continues inside
the segment or right behind it, a class has an entry in the table, and a character is one.

## Main definitions

* `Instruction.SoundIn first last entries` — the operands of an instruction are sound in
  a segment from `first` to `last` with so many classes.
* `Layout.Sound` — all instructions of the layout are sound in its segment, if that is
  within the limits of the engine.
-/
namespace DeviceRegex

/-- The operands of an instruction are sound in a segment from `first` to `last`: targets
lie in it or right behind it, and a class has one of the first `entries` entries of the
table. The report of a match has no place in a segment. -/
def Instruction.SoundIn (first last entries : Nat) (i : Instruction) : Prop :=
  match i.opcode? with
  | none | some .accept => False
  | some .split => (first ≤ i.a.toNat ∧ i.a.toNat ≤ last) ∧ first ≤ i.b.toNat ∧ i.b.toNat ≤ last
  | some .jump => first ≤ i.a.toNat ∧ i.a.toNat ≤ last
  | some .inClass | some .notInClass => i.a.toNat < entries
  | some .char => i.b.toNat.isValidChar
  | some _ => True

namespace Instruction
variable {first last entries : Nat}

/-- What is sound in a segment is sound in a larger one. -/
theorem SoundIn.mono {first' last' entries' : Nat} {i : Instruction}
    (h : i.SoundIn first last entries) (hfirst : first' ≤ first) (hlast : last ≤ last')
    (hentries : entries ≤ entries') : i.SoundIn first' last' entries' := by
  unfold SoundIn at h ⊢
  split at h
  case h_3 => exact ⟨⟨by omega, by omega⟩, by omega, by omega⟩
  case h_4 => exact ⟨by omega, by omega⟩
  case h_5 | h_6 => exact Nat.lt_of_lt_of_le h hentries
  all_goals exact h

section
variable {i : Instruction} (h : i.SoundIn first last entries)
include h

theorem SoundIn.decodes : i.opcode?.isSome := by
  unfold SoundIn at h
  cases hop : i.opcode? with
  | none => simp [hop] at h
  | some op => rfl

theorem SoundIn.not_accept : i.opcode? ≠ some .accept := by
  intro hop
  simp [SoundIn, hop] at h

theorem SoundIn.split (hop : i.opcode? = some .split) :
    (first ≤ i.a.toNat ∧ i.a.toNat ≤ last) ∧ first ≤ i.b.toNat ∧ i.b.toNat ≤ last := by
  simpa only [SoundIn, hop] using h

theorem SoundIn.jump (hop : i.opcode? = some .jump) : first ≤ i.a.toNat ∧ i.a.toNat ≤ last := by
  simpa only [SoundIn, hop] using h

theorem SoundIn.member (hop : i.opcode? = some .inClass ∨ i.opcode? = some .notInClass) :
    i.a.toNat < entries := by
  rcases hop with hop | hop <;> simpa only [SoundIn, hop] using h

theorem SoundIn.char (hop : i.opcode? = some .char) : i.b.toNat.isValidChar := by
  simpa only [SoundIn, hop] using h

end

theorem soundIn_split (hlast : last ≤ Engine.maxInstructions) {x y : Nat}
    (hx : first ≤ x ∧ x ≤ last) (hy : first ≤ y ∧ y ≤ last) :
    (make .split x y).SoundIn first last entries := by
  have hlimit : Engine.maxInstructions ≤ maxA ∧ Engine.maxInstructions ≤ maxB := by decide
  have ha : (make .split x y).a.toNat = x := toNat_a_make (by omega) _ _
  have hb : (make .split x y).b.toNat = y := toNat_b_make (by omega) _ _
  simp only [SoundIn, opcode?_make, ha, hb]
  exact ⟨hx, hy⟩

theorem soundIn_branch (hlast : last ≤ Engine.maxInstructions) (greedy : Bool) {body out : Nat}
    (hbody : first ≤ body ∧ body ≤ last) (hout : first ≤ out ∧ out ≤ last) :
    (Layout.branch greedy body out).SoundIn first last entries := by
  cases greedy with
  | true => exact soundIn_split hlast hbody hout
  | false => exact soundIn_split hlast hout hbody

theorem soundIn_jump (hlast : last ≤ Engine.maxInstructions) {x : Nat}
    (hx : first ≤ x ∧ x ≤ last) : (make .jump x 0).SoundIn first last entries := by
  have hlimit : Engine.maxInstructions ≤ maxA := by decide
  have ha : (make .jump x 0).a.toNat = x := toNat_a_make (by omega) _ _
  simp only [SoundIn, opcode?_make, ha]
  exact hx

theorem soundIn_member {index : Nat} (hindex : index < entries)
    (hentries : entries ≤ Engine.maxInstructions) (negated : Bool) :
    (make (if negated then .notInClass else .inClass) index 0).SoundIn first last entries := by
  have hlimit : Engine.maxInstructions ≤ maxA := by decide
  have ha (op : Opcode) : (make op index 0).a.toNat = index := toNat_a_make (by omega) _ _
  cases negated <;> simpa [SoundIn, ha] using hindex

theorem soundIn_char (c : Char) : (make .char 0 c.toNat).SoundIn first last entries := by
  simp only [SoundIn, opcode?_make, toNat_b_make_char]
  exact c.valid

theorem soundIn_assertion (flags : Flags) (test : Assertion) :
    (test.instruction flags).SoundIn first last entries := by
  cases test <;> simp only [Assertion.instruction] <;> (try split) <;> simp [SoundIn]

end Instruction

/-! ## Layouts -/

/-- All instructions of the layout are sound in its segment, if code and class table are
within the limits of the engine. -/
structure Layout.Sound (l : Layout) : Prop where
  grows : l.Grows
  sound : ∀ {pc table}, pc + (l pc table).code.length ≤ Engine.maxInstructions →
    (l pc table).table.length ≤ Engine.maxInstructions →
    ∀ i ∈ (l pc table).code,
      i.SoundIn pc (pc + (l pc table).code.length) (l pc table).table.length

namespace Layout.Sound
variable {first second part : Layout}

theorem nothing : Layout.nothing.Sound where
  grows := .nothing
  sound _ _ _ hi := absurd hi List.not_mem_nil

theorem marker {op : Opcode} (index : Nat) (hop : op = .openGroup ∨ op = .closeGroup) :
    (Layout.single (.make op index 0)).Sound where
  grows := .single _
  sound _ _ i hi := by
    obtain rfl := List.mem_singleton.1 hi
    rcases hop with rfl | rfl <;> simp [Instruction.SoundIn]

theorem letter (flags : Flags) (l : Leaf) :
    Layout.Sound fun _ table => (l.letter flags).segment table where
  grows := .letter _
  sound {pc table} _ htable i hi := by
    have hmember (s : Charset) (negated : Bool) (h : l.letter flags = .member s negated) :
        i.SoundIn pc (pc + ((l.letter flags).segment table).code.length)
          ((l.letter flags).segment table).table.length := by
      rw [h] at hi htable ⊢
      obtain rfl := List.mem_singleton.1 hi
      exact Instruction.soundIn_member (ClassTable.index_lt_length_intern table s) htable negated
    cases l with
    | char c =>
      by_cases hfold : flags.has .ignorecase && decide (1 < (letterCases c).length)
      · exact hmember _ _ (if_pos hfold)
      · rw [Leaf.letter, if_neg hfold] at hi ⊢
        obtain rfl := List.mem_singleton.1 hi
        exact Instruction.soundIn_char c
    | dot =>
      obtain rfl := List.mem_singleton.1 hi
      cases flags.has .dotall <;> simp [Instruction.SoundIn]
    | set items negated => exact hmember _ _ rfl
    | assertion test =>
      obtain rfl := List.mem_singleton.1 hi
      exact Instruction.soundIn_assertion flags test

theorem append (hfirst : first.Sound) (hsecond : second.Sound) :
    (Layout.append first second).Sound where
  grows := hfirst.grows.append hsecond.grows
  sound {pc table} hcode htable i hi := by
    simp only [Layout.append, List.length_append] at hcode htable hi ⊢
    have hkeeps := (hsecond.grows.keeps (pc + (first pc table).code.length)
      (first pc table).table).length_le
    rcases List.mem_append.1 hi with hi | hi
    · exact (hfirst.sound (by omega) (by omega) i hi).mono (by omega) (by omega) hkeeps
    · exact (hsecond.sound (by omega) htable i hi).mono (by omega) (by omega) (by omega)

theorem choice (hfirst : first.Sound) (hsecond : second.Sound) :
    (Layout.choice first second).Sound where
  grows := hfirst.grows.choice hsecond.grows
  sound {pc table} hcode htable i hi := by
    simp only [Layout.choice, List.cons_append, List.length_cons, List.length_append,
      List.mem_cons, List.mem_append] at hcode htable hi ⊢
    have hkeeps := (hsecond.grows.keeps (pc + 2 + (first (pc + 1) table).code.length)
      (first (pc + 1) table).table).length_le
    rcases hi with rfl | hi | rfl | hi
    · exact Instruction.soundIn_split hcode (by omega) (by omega)
    · exact (hfirst.sound (by omega) (by omega) i hi).mono (by omega) (by omega) hkeeps
    · exact Instruction.soundIn_jump hcode (by omega)
    · exact (hsecond.sound (by omega) htable i hi).mono (by omega) (by omega) (by omega)

theorem optional (greedy : Bool) (hpart : part.Sound) : (Layout.optional greedy part).Sound where
  grows := hpart.grows.optional greedy
  sound {pc table} hcode htable i hi := by
    simp only [Layout.optional, List.length_cons, List.mem_cons] at hcode htable hi ⊢
    rcases hi with rfl | hi
    · exact Instruction.soundIn_branch hcode greedy (by omega) (by omega)
    · exact (hpart.sound (by omega) htable i hi).mono (by omega) (by omega) (by omega)

theorem star (greedy : Bool) (hpart : part.Sound) : (Layout.star greedy part).Sound where
  grows := hpart.grows.star greedy
  sound {pc table} hcode htable i hi := by
    simp only [Layout.star, List.cons_append, List.length_cons, List.length_append,
      List.length_nil, List.mem_cons, List.mem_append, List.not_mem_nil, or_false]
      at hcode htable hi ⊢
    rcases hi with rfl | hi | rfl
    · exact Instruction.soundIn_branch hcode greedy (by omega) (by omega)
    · exact (hpart.sound (by omega) htable i hi).mono (by omega) (by omega) (by omega)
    · exact Instruction.soundIn_jump hcode (by omega)

theorem plus (greedy : Bool) (hpart : part.Sound) : (Layout.plus greedy part).Sound where
  grows := hpart.grows.plus greedy
  sound {pc table} hcode htable i hi := by
    simp only [Layout.plus, List.length_append, List.length_singleton, List.mem_append,
      List.mem_singleton] at hcode htable hi ⊢
    rcases hi with hi | rfl
    · exact (hpart.sound (by omega) htable i hi).mono (by omega) (by omega) (by omega)
    · exact Instruction.soundIn_branch hcode greedy (by omega) (by omega)

theorem closed : Layout.Closed Layout.Sound where
  nothing := nothing
  letter := letter
  openGroup index := marker index (.inl rfl)
  closeGroup index := marker index (.inr rfl)
  append := append
  choice := choice
  optional greedy _ := optional greedy
  star greedy _ := star greedy
  plus greedy _ := plus greedy

end Layout.Sound
end DeviceRegex
