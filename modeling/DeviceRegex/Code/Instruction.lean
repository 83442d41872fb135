import DeviceRegex.Text.Escape

/-!
# Instructions

An instruction is one 64-bit word with three fields: the operation in the low byte,
operand `a` in the 24 bits above it, and operand `b` in the high 32 bits.

    63              32 31             8 7        0
    |      b (32)     |     a (24)     |  op (8)  |
-/
namespace DeviceRegex

/-- The operations of the engine. -/
inductive Opcode where
  /-- Match the character with code point `b`. -/
  | char
  /-- Match any character but a line terminator; `b` is 1 under extended newlines. -/
  | any
  /-- Match any character. -/
  | anyNewline
  /-- Match a character in class `a`. -/
  | inClass
  /-- Match a character outside class `a`. -/
  | notInClass
  /-- At the start of the text. -/
  | textStart
  /-- At the end of the text. -/
  | textEnd
  /-- At the start of the text or after a line terminator. -/
  | lineStart
  /-- At the end of the text or before a line terminator. -/
  | lineEnd
  /-- Between a word character and another one; `b` is 1 for ASCII words. -/
  | wordBoundary
  /-- Not at a word boundary. -/
  | notWordBoundary
  /-- Open group `a`. -/
  | openGroup
  /-- Close group `a`. -/
  | closeGroup
  /-- Continue at `a`, or else at `b`. -/
  | split
  /-- Continue at `a`. -/
  | jump
  /-- A match is found. -/
  | accept
deriving DecidableEq, Repr

namespace Opcode

/-- All operations, in the order of their codes. -/
def all : List Opcode :=
  [char, any, anyNewline, inClass, notInClass, textStart, textEnd, lineStart, lineEnd,
    wordBoundary, notWordBoundary, openGroup, closeGroup, split, jump, accept]

/-- The code of an operation. -/
def code : Opcode → BitVec 8
  | char => 0
  | any => 1
  | anyNewline => 2
  | inClass => 3
  | notInClass => 4
  | textStart => 5
  | textEnd => 6
  | lineStart => 7
  | lineEnd => 8
  | wordBoundary => 9
  | notWordBoundary => 10
  | openGroup => 11
  | closeGroup => 12
  | split => 13
  | jump => 14
  | accept => 15

/-- The operation with a given code. -/
def ofCode? (code : BitVec 8) : Option Opcode := all[code.toNat]?

@[simp] theorem ofCode?_code (op : Opcode) : ofCode? op.code = some op := by cases op <;> rfl

/-- The name of an operation in listings. -/
def mnemonic : Opcode → String
  | char => "CHAR"
  | any => "ANY"
  | anyNewline => "ANYNL"
  | inClass => "CCLASS"
  | notInClass => "NCCLASS"
  | textStart => "BOT"
  | textEnd => "EOT"
  | lineStart => "BOL"
  | lineEnd => "EOL"
  | wordBoundary => "BOW"
  | notWordBoundary => "NBOW"
  | openGroup => "LBRA"
  | closeGroup => "RBRA"
  | split => "OR"
  | jump => "JMP"
  | accept => "END"

/-- The operation names where to continue, instead of falling through. -/
def isBranch : Opcode → Bool
  | split | jump => true
  | _ => false

end Opcode

/-- An instruction word. -/
structure Instruction where
  word : BitVec 64
deriving DecidableEq, Repr

namespace Instruction

/-- The largest operand `a`. -/
def maxA : Nat := 0xFFFFFF

/-- The largest operand `b`. -/
def maxB : Nat := 0xFFFFFFFF

/-- A field of the word: where it starts and how many bits it has. -/
structure Field where
  pos : Nat
  size : Nat

/-- The low byte. -/
def Field.op : Field := ⟨0, 8⟩

/-- The field of operand `a`, right above the low byte. -/
def Field.a : Field := ⟨8, 24⟩

/-- The field of operand `b`, up to the highest bit. -/
def Field.b : Field := ⟨32, 32⟩

/-- The word with `size` ones from bit `pos` on. -/
def mask (size pos : Nat) : BitVec 64 := (~~~(BitVec.allOnes 64 <<< size)) <<< pos

/-- The value of a field. -/
def read (i : Instruction) (f : Field) : BitVec 32 :=
  ((i.word >>> f.pos) &&& mask f.size 0).setWidth 32

/-- Replace the value of a field by the low bits of another one. -/
def write (i : Instruction) (f : Field) (value : BitVec 32) : Instruction :=
  ⟨(i.word &&& ~~~mask f.size f.pos) ||| ((value.setWidth 64 <<< f.pos) &&& mask f.size f.pos)⟩

/-- The low byte, which holds the code of the operation. -/
def opByte (i : Instruction) : BitVec 8 := (i.read .op).setWidth 8

/-- The first operand. -/
def a (i : Instruction) : BitVec 24 := (i.read .a).setWidth 24

/-- The second operand. -/
def b (i : Instruction) : BitVec 32 := i.read .b

/-- The operation, unless the low byte is no operation's code. -/
def opcode? (i : Instruction) : Option Opcode := Opcode.ofCode? i.opByte

/-- Replace operand `a` by the low 24 bits of `n`. -/
def setA (i : Instruction) (n : Nat) : Instruction := i.write .a (BitVec.ofNat 32 n)

/-- Replace operand `b` by the low 32 bits of `n`. -/
def setB (i : Instruction) (n : Nat) : Instruction := i.write .b (BitVec.ofNat 32 n)

/-- The instruction for an operation and its operands, as far as they fit. -/
def make (op : Opcode) (a b : Nat) : Instruction :=
  (setA ⟨op.code.setWidth 64 <<< Field.op.pos⟩ a).setB b

/-! ### Bits of fields -/

/-- A mask has its ones at the bits of its field. -/
theorem getElem_mask (size pos : Nat) {k : Nat} (hk : k < 64) :
    (mask size pos)[k] = decide (pos ≤ k ∧ k < pos + size) := by
  by_cases hpos : pos ≤ k
  · have hsize : k - pos < size ↔ k < pos + size := by omega
    simp [mask, hpos, hsize, -BitVec.reduceAllOnes]
  · simp [mask, hpos, Nat.lt_of_not_le hpos]

/-- What is read of a field is cut out of the word. -/
theorem read_eq (i : Instruction) (f : Field) :
    i.read f = (i.word.extractLsb' f.pos f.size).setWidth 32 := by
  ext k hk
  have hk64 : k < 64 := by omega
  simp [read, BitVec.getLsbD_eq_getElem hk64, getElem_mask, Bool.and_comm]

/-- Only the bits of the field are replaced. -/
theorem getElem_write (i : Instruction) (f : Field) (value : BitVec 32) {k : Nat}
    (hk : k < 64) :
    (i.write f value).word[k] =
      if f.pos ≤ k ∧ k < f.pos + f.size then value.getLsbD (k - f.pos) else i.word[k] := by
  by_cases hin : f.pos ≤ k ∧ k < f.pos + f.size
  · simp [write, getElem_mask, hin]
  · simp [write, getElem_mask, hin]

/-- A field that was replaced has the low bits of the value. -/
theorem extractLsb'_write_self (i : Instruction) {f : Field} (value : BitVec 32)
    (hend : f.pos + f.size ≤ 64) :
    (i.write f value).word.extractLsb' f.pos f.size = value.setWidth f.size := by
  ext k hk
  have hk64 : f.pos + k < 64 := by omega
  simp [BitVec.getLsbD_eq_getElem hk64, getElem_write, hk]

/-- A field below or above the one that is replaced keeps its bits. -/
theorem extractLsb'_write_of_disjoint (i : Instruction) {f g : Field} (value : BitVec 32)
    (hdisjoint : g.pos + g.size ≤ f.pos ∨ f.pos + f.size ≤ g.pos) (hend : g.pos + g.size ≤ 64) :
    (i.write f value).word.extractLsb' g.pos g.size = i.word.extractLsb' g.pos g.size := by
  ext k hk
  have hk64 : g.pos + k < 64 := by omega
  have hout : ¬(f.pos ≤ g.pos + k ∧ g.pos + k < f.pos + f.size) := by omega
  simp [BitVec.getLsbD_eq_getElem hk64, getElem_write, hout]

theorem opByte_eq (i : Instruction) : i.opByte = i.word.extractLsb' 0 8 := by
  rw [opByte, read_eq, BitVec.setWidth_setWidth_of_le _ (by decide)]
  exact BitVec.setWidth_eq _

theorem a_eq (i : Instruction) : i.a = i.word.extractLsb' 8 24 := by
  rw [a, read_eq, BitVec.setWidth_setWidth_of_le _ (by decide)]
  exact BitVec.setWidth_eq _

theorem b_eq (i : Instruction) : i.b = i.word.extractLsb' 32 32 := by
  rw [b, read_eq]
  exact BitVec.setWidth_eq _

/-! ### Words of fields -/

/-- The word with the given fields. -/
def ofFields (opByte : BitVec 8) (a : BitVec 24) (b : BitVec 32) : Instruction := ⟨b ++ a ++ opByte⟩

@[simp] theorem opByte_ofFields (opByte : BitVec 8) (a : BitVec 24) (b : BitVec 32) :
    (ofFields opByte a b).opByte = opByte := by
  rw [opByte_eq]
  exact BitVec.extractLsb'_append_eq_right

@[simp] theorem a_ofFields (opByte : BitVec 8) (a : BitVec 24) (b : BitVec 32) :
    (ofFields opByte a b).a = a := by
  rw [a_eq, ofFields, BitVec.extractLsb'_append_eq_of_le (Nat.le_refl 8)]
  exact BitVec.extractLsb'_append_eq_right

@[simp] theorem b_ofFields (opByte : BitVec 8) (a : BitVec 24) (b : BitVec 32) :
    (ofFields opByte a b).b = b := by
  rw [b_eq, ofFields, BitVec.extractLsb'_append_eq_of_le (by decide)]
  exact BitVec.extractLsb'_append_eq_left

/-- A word is the word of its own fields. -/
@[simp] theorem ofFields_fields (i : Instruction) : ofFields i.opByte i.a i.b = i := by
  have high : i.b ++ i.a = i.word.extractLsb' 8 56 := by
    rw [a_eq, b_eq]
    exact BitVec.extractLsb'_append_extractLsb'_eq_extractLsb' rfl
  have all : i.word.extractLsb' 8 56 ++ i.opByte = i.word.extractLsb' 0 64 := by
    rw [opByte_eq]
    exact BitVec.extractLsb'_append_extractLsb'_eq_extractLsb' rfl
  rw [ofFields, high, all, BitVec.extractLsb'_eq_self]

/-- Words with the same fields are the same. -/
theorem eq_of_fields {i j : Instruction} (hop : i.opByte = j.opByte) (ha : i.a = j.a)
    (hb : i.b = j.b) : i = j := by
  rw [← ofFields_fields i, hop, ha, hb, ofFields_fields]

/-! ### Setting operands -/

section
variable (i : Instruction) (n : Nat)

@[simp] theorem opByte_setA : (i.setA n).opByte = i.opByte := by
  rw [opByte_eq, opByte_eq]
  exact extractLsb'_write_of_disjoint i _ (g := .op) (.inl (by decide)) (by decide)

@[simp] theorem a_setA : (i.setA n).a = BitVec.ofNat 24 n := by
  rw [a_eq]
  have h := i.extractLsb'_write_self (f := .a) (BitVec.ofNat 32 n) (by decide)
  exact h.trans (BitVec.setWidth_ofNat_of_le (by decide) n)

@[simp] theorem b_setA : (i.setA n).b = i.b := by
  rw [b_eq, b_eq]
  exact extractLsb'_write_of_disjoint i _ (g := .b) (.inr (by decide)) (by decide)

@[simp] theorem opByte_setB : (i.setB n).opByte = i.opByte := by
  rw [opByte_eq, opByte_eq]
  exact extractLsb'_write_of_disjoint i _ (g := .op) (.inl (by decide)) (by decide)

@[simp] theorem a_setB : (i.setB n).a = i.a := by
  rw [a_eq, a_eq]
  exact extractLsb'_write_of_disjoint i _ (g := .a) (.inl (by decide)) (by decide)

@[simp] theorem b_setB : (i.setB n).b = BitVec.ofNat 32 n := by
  rw [b_eq]
  have h := i.extractLsb'_write_self (f := .b) (BitVec.ofNat 32 n) (by decide)
  exact h.trans (BitVec.setWidth_eq _)

end

/-- An instruction is the word of its operation and its operands. -/
theorem make_eq (op : Opcode) (a b : Nat) :
    make op a b = ofFields op.code (BitVec.ofNat 24 a) (BitVec.ofNat 32 b) := by
  apply eq_of_fields
  · rw [opByte_ofFields, make, opByte_setB, opByte_setA, opByte_eq]
    cases op <;> rfl
  · rw [a_ofFields, make, a_setB, a_setA]
  · rw [b_ofFields, make, b_setB]

theorem a_make (op : Opcode) (a b : Nat) : (make op a b).a = BitVec.ofNat 24 a := by
  rw [make_eq, a_ofFields]

theorem b_make (op : Opcode) (a b : Nat) : (make op a b).b = BitVec.ofNat 32 b := by
  rw [make_eq, b_ofFields]

@[simp] theorem opcode?_make (op : Opcode) (a b : Nat) : (make op a b).opcode? = some op := by
  simp [opcode?, make_eq]

@[simp] theorem setA_make (op : Opcode) (a b n : Nat) : (make op a b).setA n = make op n b := by
  apply eq_of_fields <;> simp [make_eq]

@[simp] theorem setB_make (op : Opcode) (a b n : Nat) : (make op a b).setB n = make op a n := by
  apply eq_of_fields <;> simp [make_eq]

/-- Operand `a` is kept if it fits in 24 bits. -/
theorem toNat_a_make {a : Nat} (h : a ≤ maxA) (op : Opcode) (b : Nat) :
    (make op a b).a.toNat = a := by
  rw [a_make, BitVec.toNat_ofNat]
  exact Nat.mod_eq_of_lt (Nat.lt_succ_of_le h)

/-- Operand `b` is kept if it fits in 32 bits. -/
theorem toNat_b_make {b : Nat} (h : b ≤ maxB) (op : Opcode) (a : Nat) :
    (make op a b).b.toNat = b := by
  rw [b_make, BitVec.toNat_ofNat]
  exact Nat.mod_eq_of_lt (Nat.lt_succ_of_le h)

/-- Operand `b` keeps every character. -/
theorem toNat_b_make_char (c : Char) (op : Opcode) (a : Nat) :
    (make op a c.toNat).b.toNat = c.toNat :=
  toNat_b_make (Nat.le_of_lt_succ c.val.toNat_lt) op a

/-- The operand of a character instruction as listings show it. -/
def charText (b : Nat) : String :=
  if b.isValidChar then "'" ++ Text.escape (Char.ofNat b) ++ "'" else "0x" ++ Text.hexadecimal b

/-- The operands as listings show them: those that the operation reads, `ext` for
extended newlines and `ascii` for ASCII words. -/
def operandTexts (i : Instruction) : Opcode → List String
  | .char => [charText i.b.toNat]
  | .inClass | .notInClass | .openGroup | .closeGroup | .jump => [Text.decimal i.a.toNat]
  | .split => [Text.decimal i.a.toNat, Text.decimal i.b.toNat]
  | .any | .anyNewline | .lineStart | .lineEnd => if i.b = 0 then [] else ["ext"]
  | .wordBoundary | .notWordBoundary => if i.b = 0 then [] else ["ascii"]
  | .textStart | .textEnd | .accept => []

/-- An instruction as listings show it. -/
def text (i : Instruction) : String :=
  match i.opcode? with
  | none => "INVALID " ++ Text.hexWord i.word.toNat
  | some op => " ".intercalate (op.mnemonic :: i.operandTexts op)

end Instruction
end DeviceRegex
