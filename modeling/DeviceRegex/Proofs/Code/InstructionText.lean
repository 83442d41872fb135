import DeviceRegex.Proofs.Code.Budget
import DeviceRegex.Proofs.Code.Placement
import DeviceRegex.Proofs.Code.WordFields
import DeviceRegex.Proofs.Text.Unescape

/-!
# Instructions in listings

The text of an instruction leaves out the operands that its operation does not read. In a
program that was compiled these have a fixed value, so the text still tells the whole word,
and the texts of a program tell its code.

## Main definitions

* `Instruction.operandChars` — the part of the text behind the name of the operation.
* `Instruction.Legible` — what the text leaves out has its fixed value.
* `Layout.Legible` — all instructions of the layout are legible.
-/
namespace DeviceRegex

/-! ## Names and numerals -/

/-- The operation with a given name. -/
def Opcode.ofMnemonic? (name : String) : Option Opcode := all.find? (·.mnemonic = name)

theorem Opcode.ofMnemonic?_mnemonic (op : Opcode) : ofMnemonic? op.mnemonic = some op := by
  cases op <;> decide

theorem Opcode.mnemonic_inj {op op' : Opcode} (h : op.mnemonic = op'.mnemonic) : op = op' := by
  have hread := congrArg ofMnemonic? h
  rw [ofMnemonic?_mnemonic, ofMnemonic?_mnemonic] at hread
  exact Option.some.inj hread

theorem Opcode.space_not_mem_mnemonic (op : Opcode) : ' ' ∉ op.mnemonic.toList := by
  cases op <;> decide

theorem Text.decimal_inj {m n : Nat} (h : decimal m = decimal n) : m = n := by
  have hread := congrArg (fun s => Nat.ofDigitChars 10 s.toList 0) h
  simpa [decimal, Nat.ofDigitChars_ten_toDigits] using hread

theorem Text.space_not_mem_decimal (n : Nat) : ' ' ∉ (decimal n).toList := by
  intro h
  rw [decimal, String.toList_ofList] at h
  have hdigit := Nat.isDigit_of_mem_toDigits (by decide) (by decide) h
  simp at hdigit

/-! ## Words behind spaces -/

/-- The text is empty or starts with a space. -/
def Text.EndsWord (text : List Char) : Prop := ∀ c ∈ text.head?, c = ' '

theorem Text.takeWhile_word {word rest : List Char} (hword : ' ' ∉ word) (hrest : EndsWord rest) :
    (word ++ rest).takeWhile (· != ' ') = word := by
  have hchars : ∀ c ∈ word, (c != ' ') = true := by
    intro c hc
    rw [bne_iff_ne]
    rintro rfl
    exact hword hc
  rw [List.takeWhile_append_of_pos hchars]
  cases rest with
  | nil => simp
  | cons c rest =>
    have hc : c = ' ' := hrest c rfl
    simp [hc]

/-- The word at the front of a text and what stands behind it are known from the text. -/
theorem Text.word_inj {word word' rest rest' : List Char} (hword : ' ' ∉ word)
    (hword' : ' ' ∉ word') (hrest : EndsWord rest) (hrest' : EndsWord rest')
    (h : word ++ rest = word' ++ rest') : word = word' ∧ rest = rest' := by
  have hfront : word = word' := by
    rw [← takeWhile_word hword hrest, h, takeWhile_word hword' hrest']
  subst hfront
  exact ⟨rfl, List.append_cancel_left h⟩

theorem Text.intercalate_space (word : List Char) (words : List (List Char)) :
    [' '].intercalate (word :: words) = word ++ words.flatMap (' ' :: ·) := by
  induction words generalizing word with
  | nil => simp [List.intercalate]
  | cons next words ih => simp [List.intercalate_cons_cons, ih]

/-! ## Texts of instructions -/

namespace Instruction
variable {i j : Instruction} {op : Opcode}

/-- The operands as the text shows them, each one behind a space. -/
def operandChars (i : Instruction) (op : Opcode) : List Char :=
  (i.operandTexts op).flatMap fun operand => ' ' :: operand.toList

theorem toList_text (h : i.opcode? = some op) :
    i.text.toList = op.mnemonic.toList ++ i.operandChars op := by
  simp only [text, h, String.toList_intercalate, List.map_cons]
  rw [show " ".toList = [' '] from rfl, Text.intercalate_space]
  simp [operandChars, List.flatMap_map]

theorem endsWord_operandChars (i : Instruction) (op : Opcode) :
    Text.EndsWord (i.operandChars op) := by
  intro c hc
  rw [operandChars] at hc
  cases htexts : i.operandTexts op with
  | nil => simp [htexts] at hc
  | cons operand operands =>
    simp only [htexts, List.flatMap_cons, List.cons_append, List.head?_cons, Option.mem_def,
      Option.some.injEq] at hc
    exact hc.symm

theorem charText_inj {m n : Nat} (hm : m.isValidChar) (hn : n.isValidChar)
    (h : charText m = charText n) : m = n := by
  have hlist := congrArg String.toList h
  simp only [charText, hm, hn, if_true, String.toList_append] at hlist
  have hforms := List.append_cancel_left (List.append_cancel_right hlist)
  have hvalue {k : Nat} (hk : k.isValidChar) : (Char.ofNat k).toNat = k := by
    rw [Char.ofNat, dif_pos hk]
    rfl
  rw [← hvalue hm, Text.escape_inj (String.toList_inj.1 hforms), hvalue hn]

/-- The operation reads no operand that the text leaves out, or it has its fixed value:
zero where it is never used, and one or zero where a word stands for it. -/
def Legible (i : Instruction) : Prop :=
  match i.opcode? with
  | none => False
  | some .char => i.a = 0 ∧ i.b.toNat.isValidChar
  | some .inClass | some .notInClass | some .openGroup | some .closeGroup | some .jump => i.b = 0
  | some .split => True
  | some .any | some .anyNewline | some .lineStart | some .lineEnd | some .wordBoundary
  | some .notWordBoundary => i.a = 0 ∧ (i.b = 0 ∨ i.b = 1)
  | some .textStart | some .textEnd | some .accept => i.a = 0 ∧ i.b = 0

/-- Legible instructions of one operation whose texts show the same have the same
operands. -/
theorem operands_inj (hi : i.Legible) (hj : j.Legible) (hop : i.opcode? = some op)
    (hop' : j.opcode? = some op) (h : i.operandChars op = j.operandChars op) :
    i.a = j.a ∧ i.b = j.b := by
  simp only [Legible, hop] at hi
  simp only [Legible, hop'] at hj
  cases op
  case char =>
    have htext : charText i.b.toNat = charText j.b.toNat := by
      simpa [operandChars, operandTexts, String.toList_inj] using h
    exact ⟨hi.1.trans hj.1.symm, BitVec.eq_of_toNat_eq (charText_inj hi.2 hj.2 htext)⟩
  case inClass | notInClass | openGroup | closeGroup | jump =>
    have htext : Text.decimal i.a.toNat = Text.decimal j.a.toNat := by
      simpa [operandChars, operandTexts, String.toList_inj] using h
    exact ⟨BitVec.eq_of_toNat_eq (Text.decimal_inj htext), hi.trans hj.symm⟩
  case split =>
    have htexts : (Text.decimal i.a.toNat).toList ++ ' ' :: (Text.decimal i.b.toNat).toList =
        (Text.decimal j.a.toNat).toList ++ ' ' :: (Text.decimal j.b.toNat).toList := by
      simpa [operandChars, operandTexts] using h
    obtain ⟨ha, hb⟩ := Text.word_inj (Text.space_not_mem_decimal _) (Text.space_not_mem_decimal _)
      (by simp [Text.EndsWord]) (by simp [Text.EndsWord]) htexts
    rw [String.toList_inj] at ha
    rw [List.cons.injEq, String.toList_inj] at hb
    exact ⟨BitVec.eq_of_toNat_eq (Text.decimal_inj ha),
      BitVec.eq_of_toNat_eq (Text.decimal_inj hb.2)⟩
  case any | anyNewline | lineStart | lineEnd | wordBoundary | notWordBoundary =>
    refine ⟨hi.1.trans hj.1.symm, ?_⟩
    rcases hi.2 with hb | hb <;> rcases hj.2 with hb' | hb' <;>
      simp [operandChars, operandTexts, hb, hb'] at h ⊢
  case textStart | textEnd | accept => exact ⟨hi.1.trans hj.1.symm, hi.2.trans hj.2.symm⟩

/-- Legible instructions with the same text are the same. -/
theorem eq_of_text_eq (hi : i.Legible) (hj : j.Legible) (h : i.text = j.text) : i = j := by
  have hdecodes {k : Instruction} (hk : k.Legible) : ∃ op, k.opcode? = some op := by
    cases hop : k.opcode? with
    | none => simp [Legible, hop] at hk
    | some op => exact ⟨op, rfl⟩
  obtain ⟨op, hop⟩ := hdecodes hi
  obtain ⟨op', hop'⟩ := hdecodes hj
  have hchars := congrArg String.toList h
  rw [toList_text hop, toList_text hop'] at hchars
  obtain ⟨hname, hoperands⟩ := Text.word_inj op.space_not_mem_mnemonic op'.space_not_mem_mnemonic
    (endsWord_operandChars i op) (endsWord_operandChars j op') hchars
  obtain rfl := Opcode.mnemonic_inj (String.toList_inj.1 hname)
  obtain ⟨ha, hb⟩ := operands_inj hi hj hop hop' hoperands
  rw [eq_make hop, eq_make hop', ha, hb]

/-! ## What is written is legible -/

theorem b_make_operandOf (op : Opcode) (condition : Bool) :
    (make op 0 (operandOf condition)).b = 0 ∨ (make op 0 (operandOf condition)).b = 1 := by
  cases condition with
  | true => exact .inr (b_make ..)
  | false => exact .inl (b_make ..)

/-- An operation that reads nothing but its first operand. -/
theorem legible_make_a (hop : op ∈ [.inClass, .notInClass, .openGroup, .closeGroup, .jump])
    (a : Nat) : (make op a 0).Legible := by
  have hb : (make op a 0).b = 0 := b_make ..
  simp only [List.mem_cons, List.not_mem_nil, or_false] at hop
  rcases hop with rfl | rfl | rfl | rfl | rfl <;> simpa only [Legible, opcode?_make] using hb

/-- An operation that reads no operand. -/
theorem legible_plain (hop : op ∈ [.textStart, .textEnd, .accept]) : (make op 0 0).Legible := by
  have ha : (make op 0 0).a = 0 := a_make ..
  have hb : (make op 0 0).b = 0 := b_make ..
  simp only [List.mem_cons, List.not_mem_nil, or_false] at hop
  rcases hop with rfl | rfl | rfl <;> simpa only [Legible, opcode?_make] using And.intro ha hb

/-- An operation that reads a condition. -/
theorem legible_marked (hop : op ∈ [.any, .anyNewline, .lineStart, .lineEnd, .wordBoundary,
    .notWordBoundary]) (condition : Bool) : (make op 0 (operandOf condition)).Legible := by
  have ha : (make op 0 (operandOf condition)).a = 0 := a_make ..
  have hb := b_make_operandOf op condition
  simp only [List.mem_cons, List.not_mem_nil, or_false] at hop
  rcases hop with rfl | rfl | rfl | rfl | rfl | rfl <;>
    simpa only [Legible, opcode?_make] using And.intro ha hb

theorem legible_branch (greedy : Bool) (body out : Nat) :
    (Layout.branch greedy body out).Legible := by
  cases greedy <;> simp [Legible, Layout.branch]

theorem legible_char (c : Char) : (make .char 0 c.toNat).Legible := by
  simp only [Legible, opcode?_make, toNat_b_make_char]
  exact ⟨a_make .., c.valid⟩

theorem legible_assertion (flags : Flags) (test : Assertion) :
    (test.instruction flags).Legible := by
  cases test with
  | caret | dollar =>
    rw [Assertion.instruction]
    split
    · exact legible_marked (by decide) _
    · exact legible_plain (by decide)
  | textStart | textEnd => exact legible_plain (by decide)
  | wordBoundary | notWordBoundary => exact legible_marked (by decide) _

/-- The instruction of a leaf is legible, whatever the flags and the table. -/
theorem legible_of_mem_segment (flags : Flags) (l : Leaf) (table : ClassTable) :
    ∀ i ∈ ((l.letter flags).segment table).code, i.Legible := by
  have hmember (s : Charset) (negated : Bool) :
      ∀ i ∈ ((Letter.member s negated).segment table).code, i.Legible := by
    intro i hi
    obtain rfl := List.mem_singleton.1 hi
    cases negated <;> exact legible_make_a (by decide) _
  cases l with
  | char c =>
    rw [Leaf.letter]
    split
    · exact hmember _ _
    · exact List.forall_mem_singleton.2 (legible_char c)
  | dot =>
    refine List.forall_mem_singleton.2 (legible_marked ?_ _)
    cases flags.has .dotall <;> decide
  | set items negated => exact hmember _ _
  | assertion test => exact List.forall_mem_singleton.2 (legible_assertion flags test)

end Instruction

/-- All instructions of the layout are legible. -/
def Layout.Legible (l : Layout) : Prop := ∀ pc table, ∀ i ∈ (l pc table).code, i.Legible

namespace Layout.Legible
variable {first second part : Layout}

theorem marker {op : Opcode} (index : Nat) (hop : op = .openGroup ∨ op = .closeGroup) :
    (Layout.single (.make op index 0)).Legible := by
  intro pc table
  refine List.forall_mem_singleton.2 (Instruction.legible_make_a ?_ index)
  rcases hop with rfl | rfl <;> decide

theorem append (hfirst : first.Legible) (hsecond : second.Legible) :
    (Layout.append first second).Legible := by
  intro pc table i hi
  rcases List.mem_append.1 hi with hi | hi
  · exact hfirst _ _ i hi
  · exact hsecond _ _ i hi

theorem choice (hfirst : first.Legible) (hsecond : second.Legible) :
    (Layout.choice first second).Legible := by
  intro pc table i hi
  simp only [Layout.choice, List.cons_append, List.mem_cons, List.mem_append] at hi
  rcases hi with rfl | hi | rfl | hi
  · exact Instruction.legible_branch true _ _
  · exact hfirst _ _ i hi
  · exact Instruction.legible_make_a (by decide) _
  · exact hsecond _ _ i hi

theorem optional (greedy : Bool) (hpart : part.Legible) :
    (Layout.optional greedy part).Legible := by
  intro pc table i hi
  rcases List.mem_cons.1 hi with rfl | hi
  · exact Instruction.legible_branch greedy _ _
  · exact hpart _ _ i hi

theorem star (greedy : Bool) (hpart : part.Legible) : (Layout.star greedy part).Legible := by
  intro pc table i hi
  simp only [Layout.star, List.cons_append, List.mem_cons, List.mem_append, List.not_mem_nil,
    or_false] at hi
  rcases hi with rfl | hi | rfl
  · exact Instruction.legible_branch greedy _ _
  · exact hpart _ _ i hi
  · exact Instruction.legible_make_a (by decide) _

theorem plus (greedy : Bool) (hpart : part.Legible) : (Layout.plus greedy part).Legible := by
  intro pc table i hi
  rcases List.mem_append.1 hi with hi | hi
  · exact hpart _ _ i hi
  · obtain rfl := List.mem_singleton.1 hi
    exact Instruction.legible_branch greedy _ _

theorem closed : Layout.Closed Layout.Legible where
  nothing := fun _ _ _ hi => absurd hi List.not_mem_nil
  letter flags l := fun _ table => Instruction.legible_of_mem_segment flags l table
  openGroup index := marker index (.inl rfl)
  closeGroup index := marker index (.inr rfl)
  append := append
  choice := choice
  optional greedy _ := optional greedy
  star greedy _ := star greedy
  plus greedy _ := plus greedy

end Layout.Legible

/-! ## Programs -/

namespace Compiled
variable {pattern pattern' : List Char} {flags flags' : Flags} {capture capture' : CaptureMode}
  {c c' : Compiled}

/-- All instructions of a program are legible. -/
theorem legible_of_compile (h : compile pattern flags capture = .ok c) :
    ∀ i ∈ c.code, i.Legible := by
  obtain ⟨p, -, -, rfl⟩ := eq_of_compile h
  intro i hi
  rcases List.mem_append.1 hi with hi | hi
  · exact Layout.Legible.closed.node flags p.root 0 [] i hi
  · obtain rfl := List.mem_singleton.1 hi
    exact Instruction.legible_plain (by decide)

/-- **The listing is faithful.** In programs that were compiled, instructions with the same
text are the same word, so programs with the same texts have the same code. -/
theorem listing_faithful (h : compile pattern flags capture = .ok c)
    (h' : compile pattern' flags' capture' = .ok c') :
    (∀ i ∈ c.code, ∀ j ∈ c'.code, i.text = j.text → i.word = j.word) ∧
      (c.code.map Instruction.text = c'.code.map Instruction.text → c.code = c'.code) := by
  have hsame : ∀ i ∈ c.code, ∀ j ∈ c'.code, i.text = j.text → i = j := by
    intro i hi j hj
    exact Instruction.eq_of_text_eq (legible_of_compile h i hi) (legible_of_compile h' j hj)
  constructor
  · intro i hi j hj htext
    rw [hsame i hi j hj htext]
  · intro htexts
    have hlength : c.code.length = c'.code.length := by
      simpa only [List.length_map] using congrArg List.length htexts
    refine List.ext_getElem hlength ?_
    intro pc hpc hpc'
    refine hsame _ (List.getElem_mem hpc) _ (List.getElem_mem hpc') ?_
    have htext := List.getElem_of_eq htexts (i := pc) (by rwa [List.length_map])
    rwa [List.getElem_map, List.getElem_map] at htext

/-- Two ways to write an optional part: the listings agree, so the programs do. -/
theorem listing_faithful_of_optional : ∃ c c', compile ['a', '?'] .none .extract = .ok c ∧
    compile ['a', '{', '0', ',', '1', '}'] .none .extract = .ok c' ∧
    (∀ i ∈ c.code, ∀ j ∈ c'.code, i.text = j.text → i.word = j.word) ∧ c.code = c'.code := by
  have hmark : compile ['a', '?'] .none .extract =
      .ok ⟨[.make .split 1 2, .make .char 0 97, .make .accept 0 0], [], 0, .none, .extract⟩ := by
    decide +kernel
  have hcount : compile ['a', '{', '0', ',', '1', '}'] .none .extract =
      .ok ⟨[.make .split 1 2, .make .char 0 97, .make .accept 0 0], [], 0, .none, .extract⟩ := by
    decide +kernel
  obtain ⟨hwords, hcode⟩ := listing_faithful hmark hcount
  exact ⟨_, _, hmark, hcount, hwords, hcode rfl⟩

end Compiled
end DeviceRegex
