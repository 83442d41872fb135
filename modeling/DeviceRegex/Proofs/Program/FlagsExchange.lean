import DeviceRegex.Program.FlagsText
import DeviceRegex.Proofs.Text.ReadBack

/-!
# Flags are read back from their string

The string of a word of flags is made of the names of its flags and a number with its other
bits. Read in turn and put together they give the word again, whichever of its 32 bits are
set.

## Main definitions

* `Flags.pieces` — the words for which the parts of the string stand.
-/
namespace DeviceRegex

/-- A flag is one bit. -/
theorem Flag.exists_bit_eq_twoPow (f : Flag) : ∃ i, f.bit = BitVec.twoPow 32 i := by
  cases f with
  | ignorecase => exact ⟨1, rfl⟩
  | multiline => exact ⟨3, rfl⟩
  | dotall => exact ⟨4, rfl⟩
  | ascii => exact ⟨8, rfl⟩
  | extNewline => exact ⟨9, rfl⟩

namespace Flags
variable (flags : Flags)

/-! ## The bits of the parts -/

/-- The part of a word under a flag is the bit of the flag or nothing. -/
theorem and_bit_eq (f : Flag) : flags.bits &&& f.bit = if flags.has f then f.bit else 0 := by
  obtain ⟨i, hi⟩ := f.exists_bit_eq_twoPow
  have hand := BitVec.and_twoPow flags.bits i
  rw [← hi] at hand
  by_cases hbit : flags.bits.getLsbD i
  · rw [if_pos hbit] at hand
    simp [has, hand]
  · rw [if_neg hbit] at hand
    have hne : f.bit ≠ 0 := by cases f <;> decide
    have hunset : ¬flags.has f := by
      rw [has, hand, beq_iff_eq]
      exact hne.symm
    rw [if_neg hunset, hand]
    rfl

/-- The words for which the parts of the string stand. -/
def pieces : List Flags :=
  ((Flag.all.filter flags.has).map fun f => ⟨f.bit⟩) ++
    if flags.unrecognized = 0 then [] else [⟨flags.unrecognized⟩]

/-- Putting in the flags that are set adds the part of the word under these flags. -/
theorem foldl_union_filter (l : List Flag) (mask : BitVec 32) :
    ((l.filter flags.has).map fun f => (⟨f.bit⟩ : Flags)).foldl union ⟨flags.bits &&& mask⟩ =
      ⟨flags.bits &&& l.foldl (fun bits f => bits ||| f.bit) mask⟩ := by
  induction l generalizing mask with
  | nil => rfl
  | cons f l ih =>
    have hmask : flags.bits &&& (mask ||| f.bit) =
        (flags.bits &&& mask) ||| if flags.has f then f.bit else 0 := by
      rw [← and_bit_eq, BitVec.and_or_distrib_left]
    rw [List.foldl_cons, ← ih, hmask]
    by_cases hf : flags.has f <;> simp [hf, union]

/-- The parts put together are the whole word. -/
theorem foldl_union_pieces : flags.pieces.foldl union none = flags := by
  have hnone : none = ⟨flags.bits &&& 0⟩ := by simp [none]
  have hsplit : (flags.bits &&& knownBits) ||| flags.unrecognized = flags.bits := by
    rw [unrecognized, ← BitVec.and_or_distrib_left, BitVec.or_not_self, BitVec.and_allOnes]
  rw [pieces, List.foldl_append, hnone, foldl_union_filter, ← knownBits]
  by_cases hother : flags.unrecognized = 0
  · rw [hother] at hsplit
    rw [if_pos hother, List.foldl_nil, ← BitVec.or_zero (x := flags.bits &&& knownBits)]
    exact congrArg mk hsplit
  · rw [if_neg hother]
    exact congrArg mk hsplit

/-! ## Reading the parts -/

theorem ofPiece?_name (f : Flag) : ofPiece? f.name.toList = some ⟨f.bit⟩ := by
  cases f <;> rfl

theorem ofPiece?_hexadecimal (bits : BitVec 32) :
    ofPiece? ("0x" ++ Text.hexadecimal bits.toNat).toList = some ⟨bits⟩ := by
  have hbits : bits.toNat ≤ 0xFFFFFFFF := Nat.le_of_lt_succ bits.isLt
  simp [Text.hexadecimal, ofPiece?, Text.readHexadecimal?_toDigits hbits]

theorem mapM_ofPiece?_parts :
    (flags.parts.map String.toList).mapM ofPiece? = some flags.pieces := by
  have hnames : (((Flag.all.filter flags.has).map Flag.name).map String.toList).mapM ofPiece? =
      some ((Flag.all.filter flags.has).map fun f => ⟨f.bit⟩) := by
    rw [List.mapM_map, List.mapM_map]
    exact (congrArg (List.mapM · _) (funext ofPiece?_name)).trans List.mapM_pure
  rw [parts, pieces, List.map_append, List.mapM_append, hnames]
  by_cases hother : flags.unrecognized = 0
  · simp only [if_pos hother]
    rfl
  · simp only [if_neg hother, List.map_cons, List.map_nil, List.mapM_cons, ofPiece?_hexadecimal]
    rfl

theorem isSolid_name (f : Flag) : Text.IsSolid '|' f.name.toList := by
  cases f <;> exact .of_all (by decide) (by decide +kernel)

theorem isSolid_hexadecimal (n : Nat) : Text.IsSolid '|' ("0x" ++ Text.hexadecimal n).toList := by
  have hdigit {c : Char} (hc : c ∈ Nat.toDigits 16 n) :
      c ≠ '|' ∧ Unicode.isWhiteSpace c = false := by
    obtain ⟨d, hd, rfl⟩ := Text.exists_digitChar_of_mem_toDigits hc
    have hall : ∀ d < 16, d.digitChar ≠ '|' ∧ Unicode.isWhiteSpace d.digitChar = false := by
      decide +kernel
    exact hall d hd
  have hprefix : Text.IsSolid '|' ['0', 'x'] := .of_all (by decide) (by decide +kernel)
  rw [Text.hexadecimal, String.toList_append, String.toList_ofList (l := Nat.toDigits 16 n)]
  refine ⟨List.cons_ne_nil _ _, ?_, ?_⟩
  · intro h
    rcases List.mem_append.1 h with h | h
    · exact hprefix.not_mem h
    · exact (hdigit h).1 rfl
  · intro c h
    rcases List.mem_append.1 h with h | h
    · exact hprefix.not_blank c h
    · exact (hdigit h).2

theorem isSolid_of_mem_parts {part : List Char} (h : part ∈ flags.parts.map String.toList) :
    Text.IsSolid '|' part := by
  obtain ⟨s, hs, rfl⟩ := List.mem_map.1 h
  rcases List.mem_append.1 hs with hs | hs
  · obtain ⟨f, -, rfl⟩ := List.mem_map.1 hs
    exact isSolid_name f
  · by_cases hother : flags.unrecognized = 0
    · simp [hother] at hs
    · rw [if_neg hother, List.mem_singleton] at hs
      exact hs ▸ isSolid_hexadecimal _

theorem toList_exchangeText : flags.exchangeText.toList =
    [' ', '|', ' '].intercalate (flags.parts.map String.toList) := by
  rw [exchangeText, String.toList_intercalate]
  rfl

/-- **Flags are read back from their string.** -/
theorem ofExchangeText?_exchangeText : ofExchangeText? flags.exchangeText = some flags := by
  have hread := flags.mapM_ofPiece?_parts
  have hunion := flags.foldl_union_pieces
  have hsolid : ∀ p ∈ flags.parts.map String.toList, Text.IsSolid '|' p :=
    fun _ => flags.isSolid_of_mem_parts
  rw [ofExchangeText?, toList_exchangeText]
  cases hparts : flags.parts.map String.toList with
  | nil =>
    rw [hparts] at hread
    rw [← Option.some.inj hread] at hunion
    exact congrArg some hunion
  | cons part parts =>
    rw [hparts] at hread hsolid
    have htrim : Text.trim ([' ', '|', ' '].intercalate (part :: parts)) ≠ [] :=
      Text.trim_intercalate_ne_nil (hsolid part List.mem_cons_self) _ parts
    have hpieces : (Text.pieces '|' ([' ', '|', ' '].intercalate (part :: parts))).mapM
        (fun piece => ofPiece? (Text.trim piece)) = some flags.pieces := calc
      _ = ((Text.pieces '|' ([' ', '|', ' '].intercalate (part :: parts))).map Text.trim).mapM
          ofPiece? := List.mapM_map.symm
      _ = (part :: parts).mapM ofPiece? := by
        have := Text.map_trim_pieces_intercalate [] (by decide) (by simp) (by simp) hsolid
        rw [List.nil_append] at this
        rw [this]
      _ = some flags.pieces := hread
    rw [if_neg htrim, hpieces]
    exact congrArg some hunion

example : (⟨0x4000000a⟩ : Flags).exchangeText = "IGNORECASE | MULTILINE | 0x40000000" := by
  decide

end Flags
end DeviceRegex
