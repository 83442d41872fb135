import DeviceRegex.Proofs.Charset.Folding
import DeviceRegex.Proofs.Code.Origin

/-!
# The operations of leaves

The flags select the operation of every leaf and its operands: `multiline` where a caret and
a dollar test, `dotall` what a dot passes, `ascii` what a word is, `extNewline` which
characters end a line, and `ignorecase` whether the cases of characters count. This is said
here of the words that are written, read field by field.

## Main definitions

* `Leaf.CodedAs flags l op b s` — the operation of a leaf, its second operand, and the set
  that its first operand refers to, if any.
* `Draft.Writes d d' op b s` — one word with these fields is written behind a draft.
-/
namespace DeviceRegex

/-- The operation that a leaf has under the flags, with its second operand, and the set that
its first operand refers to, if it refers to one. -/
inductive Leaf.CodedAs (flags : Flags) : Leaf → Opcode → Nat → Option Charset → Prop
  /-- A literal has its code point, unless case is ignored and it has other cases. -/
  | literal (c : Char) (h : flags.has .ignorecase → ∀ d, IsCaseOf c d → d = c) :
    CodedAs flags (.char c) .char c.toNat none
  | cases (c d : Char) (h : flags.has .ignorecase) (hd : IsCaseOf c d) (hne : d ≠ c) :
    CodedAs flags (.char c) .inClass 0 (some ⟨(letterCases c).map .char, flags.has .ascii⟩)
  | set (items : List SetItem) :
    CodedAs flags (.set items false) .inClass 0
      (some ⟨if flags.has .ignorecase then foldCases items else items, flags.has .ascii⟩)
  | complement (items : List SetItem) :
    CodedAs flags (.set items true) .notInClass 0
      (some ⟨if flags.has .ignorecase then foldCases items else items, flags.has .ascii⟩)
  | any (h : ¬flags.has .dotall) :
    CodedAs flags .dot .any (if flags.has .extNewline then 1 else 0) none
  | anyNewline (h : flags.has .dotall) :
    CodedAs flags .dot .anyNewline (if flags.has .extNewline then 1 else 0) none
  | caret (h : ¬flags.has .multiline) : CodedAs flags (.assertion .caret) .textStart 0 none
  | lineStart (h : flags.has .multiline) :
    CodedAs flags (.assertion .caret) .lineStart (if flags.has .extNewline then 1 else 0) none
  | dollar (h : ¬flags.has .multiline) : CodedAs flags (.assertion .dollar) .textEnd 0 none
  | lineEnd (h : flags.has .multiline) :
    CodedAs flags (.assertion .dollar) .lineEnd (if flags.has .extNewline then 1 else 0) none
  | textStart : CodedAs flags (.assertion .textStart) .textStart 0 none
  | textEnd : CodedAs flags (.assertion .textEnd) .textEnd 0 none
  | wordBoundary :
    CodedAs flags (.assertion .wordBoundary) .wordBoundary (if flags.has .ascii then 1 else 0)
      none
  | notWordBoundary :
    CodedAs flags (.assertion .notWordBoundary) .notWordBoundary
      (if flags.has .ascii then 1 else 0) none

/-- One word is written behind the draft, with this operation and second operand. A set gets
an entry, and the first operand is its index as far as it fits, and zero without a set. -/
structure Draft.Writes (d d' : Draft) (op : Opcode) (b : Nat) (s : Option Charset) : Prop where
  exists_word : ∃ i, d'.code = d.code.push i ∧ i.opcode? = some op ∧ i.b.toNat = b ∧
    i.a.toNat = s.elim 0 d.table.index % 2 ^ 24
  table_eq : d'.table = s.elim d.table d.table.intern

/-! ## Characters with other cases -/

theorem nodup_addCase {variants : List Char} (h : variants.Nodup) (image : List Char) :
    (addCase variants image).Nodup := by
  unfold addCase
  split
  · split
    · exact h
    · rename_i hnew
      exact List.concat_eq_append ▸ h.concat hnew
  · exact h

/-- A character has more than one variant exactly if it has another case. -/
theorem one_lt_length_letterCases_iff (c : Char) :
    1 < (letterCases c).length ↔ ∃ d, IsCaseOf c d ∧ d ≠ c := by
  constructor
  · intro hlength
    by_contra hnone
    have hall : ∀ d ∈ letterCases c, d = c := by
      intro d hd
      by_contra hne
      exact hnone ⟨d, (mem_letterCases_iff c d).1 hd, hne⟩
    have hnodup : (letterCases c).Nodup :=
      nodup_addCase (nodup_addCase (List.nodup_singleton c) _) _
    rw [List.eq_replicate_of_mem hall, List.nodup_replicate] at hnodup
    omega
  · rintro ⟨d, hd, hne⟩
    by_contra hlength
    exact hne ((isCaseOf_iff_eq hlength d).1 hd)

/-! ## Leaves -/

namespace Leaf
variable {flags : Flags} {l : Leaf} {op : Opcode} {b : Nat}

/-- Every leaf has an operation. -/
theorem exists_codedAs (flags : Flags) (l : Leaf) : ∃ op b s, l.CodedAs flags op b s := by
  cases l with
  | char c =>
    by_cases hcases : flags.has .ignorecase ∧ ∃ d, IsCaseOf c d ∧ d ≠ c
    · obtain ⟨hignore, d, hd, hne⟩ := hcases
      exact ⟨_, _, _, .cases c d hignore hd hne⟩
    · refine ⟨_, _, _, .literal c ?_⟩
      intro hignore d hd
      by_contra hne
      exact hcases ⟨hignore, d, hd, hne⟩
  | dot =>
    by_cases hdotall : flags.has .dotall
    · exact ⟨_, _, _, .anyNewline hdotall⟩
    · exact ⟨_, _, _, .any hdotall⟩
  | set items negated =>
    cases negated with
    | false => exact ⟨_, _, _, .set items⟩
    | true => exact ⟨_, _, _, .complement items⟩
  | assertion test =>
    by_cases hlines : flags.has .multiline
    · cases test with
      | caret => exact ⟨_, _, _, .lineStart hlines⟩
      | dollar => exact ⟨_, _, _, .lineEnd hlines⟩
      | textStart => exact ⟨_, _, _, .textStart⟩
      | textEnd => exact ⟨_, _, _, .textEnd⟩
      | wordBoundary => exact ⟨_, _, _, .wordBoundary⟩
      | notWordBoundary => exact ⟨_, _, _, .notWordBoundary⟩
    · cases test with
      | caret => exact ⟨_, _, _, .caret hlines⟩
      | dollar => exact ⟨_, _, _, .dollar hlines⟩
      | textStart => exact ⟨_, _, _, .textStart⟩
      | textEnd => exact ⟨_, _, _, .textEnd⟩
      | wordBoundary => exact ⟨_, _, _, .wordBoundary⟩
      | notWordBoundary => exact ⟨_, _, _, .notWordBoundary⟩

namespace CodedAs

theorem letter_eq_plain (h : l.CodedAs flags op b none) :
    l.letter flags = .plain (.make op 0 b) ∧ b ≤ Instruction.maxB := by
  have hbit (flag : Bool) : operandOf flag ≤ Instruction.maxB := by cases flag <;> decide
  cases h with
  | literal c h =>
    have hone : ¬(flags.has .ignorecase && decide (1 < (letterCases c).length)) := by
      rw [Bool.and_eq_true, decide_eq_true_eq, one_lt_length_letterCases_iff]
      rintro ⟨hignore, d, hd, hne⟩
      exact hne (h hignore d hd)
    rw [letter, if_neg hone]
    exact ⟨rfl, Nat.le_of_lt_succ c.val.toNat_lt⟩
  | any h => exact ⟨by simp [letter, h, operandOf], hbit _⟩
  | anyNewline h => exact ⟨by simp [letter, h, operandOf], hbit _⟩
  | caret h => exact ⟨by simp [letter, Assertion.instruction, h], hbit false⟩
  | lineStart h => exact ⟨by simp [letter, Assertion.instruction, h, operandOf], hbit _⟩
  | dollar h => exact ⟨by simp [letter, Assertion.instruction, h], hbit false⟩
  | lineEnd h => exact ⟨by simp [letter, Assertion.instruction, h, operandOf], hbit _⟩
  | textStart => exact ⟨rfl, hbit false⟩
  | textEnd => exact ⟨rfl, hbit false⟩
  | wordBoundary => exact ⟨rfl, hbit _⟩
  | notWordBoundary => exact ⟨rfl, hbit _⟩

theorem letter_eq_member {s : Charset} (h : l.CodedAs flags op b (some s)) :
    b = 0 ∧ ∃ negated, op = (if negated then .notInClass else .inClass) ∧
      l.letter flags = .member s negated := by
  cases h with
  | cases c d h hd hne =>
    have hmany : (flags.has .ignorecase && decide (1 < (letterCases c).length)) = true := by
      rw [Bool.and_eq_true, decide_eq_true_eq, one_lt_length_letterCases_iff]
      exact ⟨h, d, hd, hne⟩
    exact ⟨rfl, false, rfl, by rw [letter, if_pos hmany]⟩
  | set items => exact ⟨rfl, false, rfl, rfl⟩
  | complement items => exact ⟨rfl, true, rfl, rfl⟩

/-- The set of a leaf is the one that its operand refers to. -/
theorem charset?_eq {s : Option Charset} (h : l.CodedAs flags op b s) : l.charset? flags = s := by
  cases s with
  | none => rw [charset?, h.letter_eq_plain.1]
  | some s =>
    obtain ⟨-, negated, -, hletter⟩ := h.letter_eq_member
    rw [charset?, hletter]

end CodedAs

/-- **Flags select operations and operands.** Behind any draft with room for it, a leaf is
written as the word of its operation and operands. -/
theorem emit_writes {s : Option Charset} (h : l.CodedAs flags op b s) {d : Draft}
    (hd : d.here < Engine.maxInstructions) :
    ∃ d', (Node.leaf l).emit flags d = some d' ∧ d.Writes d' op b s := by
  refine ⟨_, ((Node.leaf l).emit_realizes flags).fits d hd, ?_⟩
  rw [Node.layout]
  cases s with
  | none =>
    obtain ⟨hletter, hb⟩ := h.letter_eq_plain
    rw [hletter]
    refine ⟨⟨.make op 0 b, by simp [Draft.append, Letter.segment],
      Instruction.opcode?_make .., ?_, ?_⟩, rfl⟩
    · exact Instruction.toNat_b_make hb op 0
    · simp [Instruction.a_make]
  | some s =>
    obtain ⟨rfl, negated, rfl, hletter⟩ := h.letter_eq_member
    rw [hletter]
    refine ⟨⟨.make _ (d.table.index s) 0, by simp [Draft.append, Letter.segment],
      Instruction.opcode?_make .., ?_, ?_⟩, rfl⟩
    · simp [Instruction.b_make]
    · simp [Instruction.a_make]

end Leaf
end DeviceRegex
