import DeviceRegex.Code.Instruction
import Mathlib.Data.List.Nodup
import Mathlib.Tactic.Ring

/-!
# Fields of instruction words

While code is written, operands are set in words that are in place already, some of them
more than once. A field is set without a look at the others: whatever is set in whatever
order, a word is made of its low byte, which stays, and of the last value of each operand,
as far as it fits.

## Main definitions

* `Instruction.Update` — a new value for one of the operands.
* `Instruction.updateAll i updates` — the word after a list of updates.
* `Instruction.HasFields i opByte a b` — the word is made of these three fields, and they
  are what is read of it.
-/
namespace DeviceRegex

/-- An operation is known from its code. -/
theorem Opcode.eq_code_of_ofCode? {code : BitVec 8} {op : Opcode} (h : ofCode? code = some op) :
    code = op.code := by
  have hnodup : all.Nodup := by decide
  obtain ⟨hlt, hget⟩ := List.getElem?_eq_some_iff.1 h
  obtain ⟨hlt', hget'⟩ := List.getElem?_eq_some_iff.1 (ofCode?_code op)
  exact BitVec.eq_of_toNat_eq ((hnodup.getElem_inj_iff).1 (hget.trans hget'.symm))

namespace Instruction

/-- A new value for one of the operands. -/
inductive Update where
  | a (value : BitVec 32)
  | b (value : BitVec 32)

namespace Update

/-- The value, if it is one for the first operand. -/
def a? : Update → Option (BitVec 32)
  | a value => some value
  | b _ => none

/-- The value, if it is one for the second operand. -/
def b? : Update → Option (BitVec 32)
  | a _ => none
  | b value => some value

/-- The last value that is given to the first operand. -/
def lastA? (updates : List Update) : Option (BitVec 32) := (updates.filterMap a?).getLast?

/-- The last value that is given to the second operand. -/
def lastB? (updates : List Update) : Option (BitVec 32) := (updates.filterMap b?).getLast?

section
variable (value : BitVec 32) (updates : List Update)

@[simp] theorem lastA?_cons_a :
    lastA? (a value :: updates) = some ((lastA? updates).getD value) := by
  simp [lastA?, a?, List.getLast?_cons]

@[simp] theorem lastA?_cons_b : lastA? (b value :: updates) = lastA? updates := by
  simp [lastA?, a?]

@[simp] theorem lastB?_cons_a : lastB? (a value :: updates) = lastB? updates := by
  simp [lastB?, b?]

@[simp] theorem lastB?_cons_b :
    lastB? (b value :: updates) = some ((lastB? updates).getD value) := by
  simp [lastB?, b?, List.getLast?_cons]

end

end Update

/-- Set one of the operands. -/
def update (i : Instruction) : Update → Instruction
  | .a value => i.setA value.toNat
  | .b value => i.setB value.toNat

/-- Set operands one after the other. -/
def updateAll (i : Instruction) (updates : List Update) : Instruction := updates.foldl update i

/-- The word is made of the three fields, and they are what is read of it. -/
structure HasFields (i : Instruction) (opByte a b : Nat) : Prop where
  word_eq : i.word.toNat = opByte + 2 ^ 8 * a + 2 ^ 32 * b
  opcode?_eq : i.opcode? = Opcode.all[opByte]?
  read_a : (i.read .a).toNat = a
  read_b : (i.read .b).toNat = b
  /-- No bit is lost where the first operand is taken for 24 bits. -/
  a_eq : i.a.toNat = a
  b_eq : i.b.toNat = b

/-! ## One word -/

section
variable (i : Instruction)

theorem toNat_opByte : i.opByte.toNat = i.word.toNat % 2 ^ 8 := by
  rw [opByte_eq]
  simp

theorem toNat_a : i.a.toNat = i.word.toNat / 2 ^ 8 % 2 ^ 24 := by
  rw [a_eq]
  simp [Nat.shiftRight_eq_div_pow]

theorem toNat_b : i.b.toNat = i.word.toNat / 2 ^ 32 := by
  have hword := i.word.isLt
  rw [b_eq]
  simp [Nat.shiftRight_eq_div_pow]
  omega

/-- A word is the sum of its fields, each one moved to its place. -/
theorem hasFields : i.HasFields i.opByte.toNat i.a.toNat i.b.toNat where
  word_eq := by
    have hword := i.word.isLt
    rw [toNat_opByte, toNat_a, toNat_b]
    omega
  opcode?_eq := rfl
  read_a := by
    rw [read_eq, a_eq, BitVec.toNat_setWidth_of_le (by decide)]
    rfl
  read_b := rfl
  a_eq := rfl
  b_eq := rfl

/-- A new instruction has the fields that it is made of. -/
theorem hasFields_make (op : Opcode) {a b : Nat} (ha : a < 2 ^ 24) (hb : b < 2 ^ 32) :
    (make op a b).HasFields op.code.toNat a b := by
  have h := hasFields (make op a b)
  rwa [make_eq, opByte_ofFields, a_ofFields, b_ofFields, BitVec.toNat_ofNat, BitVec.toNat_ofNat,
    Nat.mod_eq_of_lt ha, Nat.mod_eq_of_lt hb, ← make_eq] at h

end

/-- An instruction is known from its operation and its operands. -/
theorem eq_make {i : Instruction} {op : Opcode} (h : i.opcode? = some op) :
    i = make op i.a.toNat i.b.toNat := by
  rw [make_eq, ← Opcode.eq_code_of_ofCode? h, BitVec.ofNat_toNat, BitVec.ofNat_toNat]
  simp

/-! ## Updates -/

section
variable (i : Instruction) (u : Update)

theorem opByte_update : (i.update u).opByte = i.opByte := by
  cases u <;> simp [update]

theorem a_update : (i.update u).a = u.a?.elim i.a (·.setWidth 24) := by
  cases u <;> simp [update, Update.a?]

theorem b_update : (i.update u).b = u.b?.getD i.b := by
  cases u <;> simp [update, Update.b?]

end

section
variable (i : Instruction) (updates : List Update)

theorem opByte_updateAll : (i.updateAll updates).opByte = i.opByte := by
  induction updates generalizing i with
  | nil => rfl
  | cons u updates ih => exact (ih (i.update u)).trans (i.opByte_update u)

/-- The last value of the first operand counts, or the one that it had. -/
theorem a_updateAll :
    (i.updateAll updates).a = (Update.lastA? updates).elim i.a (·.setWidth 24) := by
  induction updates generalizing i with
  | nil => rfl
  | cons u updates ih =>
    have hrest : (i.updateAll (u :: updates)).a = _ := ih (i.update u)
    rw [hrest, a_update]
    cases u with
    | a value => cases h : Update.lastA? updates <;> simp [Update.a?, h]
    | b value => simp [Update.a?]

/-- The last value of the second operand counts, or the one that it had. -/
theorem b_updateAll : (i.updateAll updates).b = (Update.lastB? updates).getD i.b := by
  induction updates generalizing i with
  | nil => rfl
  | cons u updates ih =>
    have hrest : (i.updateAll (u :: updates)).b = _ := ih (i.update u)
    rw [hrest, b_update]
    cases u with
    | a value => simp [Update.b?]
    | b value => simp [Update.b?]

end

/-- **Fields are independent.** After any updates a word is the sum of three fields: its
low byte as before, the low 24 bits of the last value of the first operand, and the last
value of the second one, where an operand without a new value is as it was. They are what
is read of the word. A new instruction has the operation and the operands that it is made
of, and a word with an operation is the instruction made of its fields. -/
theorem fields_independent :
    (∀ (i : Instruction) (updates : List Update),
      (i.updateAll updates).HasFields (i.word.toNat % 2 ^ 8)
        ((Update.lastA? updates).elim (i.word.toNat / 2 ^ 8 % 2 ^ 24) (·.toNat % 2 ^ 24))
        ((Update.lastB? updates).elim (i.word.toNat / 2 ^ 32) (·.toNat))) ∧
    (∀ (op : Opcode) (a b : Nat), a < 2 ^ 24 → b < 2 ^ 32 →
      (make op a b).opcode? = some op ∧ (make op a b).HasFields op.code.toNat a b) ∧
    ∀ (i : Instruction) (op : Opcode), i.opcode? = some op → i = make op i.a.toNat i.b.toNat := by
  refine ⟨?_, ?_, ?_⟩
  · intro i updates
    have h := (i.updateAll updates).hasFields
    have ha : (i.updateAll updates).a.toNat =
        (Update.lastA? updates).elim (i.word.toNat / 2 ^ 8 % 2 ^ 24) (·.toNat % 2 ^ 24) := by
      rw [a_updateAll]
      cases Update.lastA? updates with
      | none => exact i.toNat_a
      | some value => exact BitVec.toNat_setWidth 24 value
    have hb : (i.updateAll updates).b.toNat =
        (Update.lastB? updates).elim (i.word.toNat / 2 ^ 32) (·.toNat) := by
      rw [b_updateAll]
      cases Update.lastB? updates with
      | none => exact i.toNat_b
      | some value => rfl
    rwa [opByte_updateAll, toNat_opByte, ha, hb] at h
  · intro op a b ha hb
    exact ⟨opcode?_make op a b, hasFields_make op ha hb⟩
  · intro i op h
    exact eq_make h

/-- A split with the largest operands, and what becomes of it when a first operand that does
not fit is set behind one that does. -/
theorem fields_independent_of_full_split :
    0xFFFFFF < 2 ^ 24 ∧ 0xFFFFFFFF < 2 ^ 32 ∧
      (make .split 0xFFFFFF 0xFFFFFFFF).opcode? = some .split ∧
      (make .split 0xFFFFFF 0xFFFFFFFF).HasFields 13 0xFFFFFF 0xFFFFFFFF ∧
      ((make .split 0xFFFFFF 0xFFFFFFFF).updateAll [.a 7, .b 3, .a 0x1000008]).HasFields 13 8 3 ∧
      (⟨0xFFFFFFFFFFFFFF0D⟩ : Instruction).opcode? = some .split ∧
      (⟨0xFFFFFFFFFFFFFF0D⟩ : Instruction) = make .split 0xFFFFFF 0xFFFFFFFF := by
  have ha : 0xFFFFFF < 2 ^ 24 := by decide
  have hb : 0xFFFFFFFF < 2 ^ 32 := by decide
  have hmade := fields_independent.2.1 .split _ _ ha hb
  have hop : (⟨0xFFFFFFFFFFFFFF0D⟩ : Instruction).opcode? = some .split := by decide
  refine ⟨ha, hb, hmade.1, hmade.2, ?_, hop, ?_⟩
  · exact fields_independent.1 (make .split 0xFFFFFF 0xFFFFFFFF) [.a 7, .b 3, .a 0x1000008]
  · exact fields_independent.2.2 _ .split hop

end Instruction
end DeviceRegex
