import DeviceRegex.Proofs.Code.Acceptance
import DeviceRegex.Proofs.Unicode.CaseImages

/-!
# Acceptance in both directions

When case is ignored, a literal accepts the images of its character. Whether the literal
of an image accepts the character in turn depends on the images of that image: it does,
except for the images that `Unicode.oneWay` lists. A long s is one of them, so acceptance
is not symmetric.
-/
namespace DeviceRegex

/-- The cases of a character are the character and the images that the mappings name. -/
theorem isCaseOf_iff (c d : Char) : IsCaseOf c d ↔ d = c ∨ Unicode.IsImage c.toNat d.toNat := by
  by_cases hne : d = c
  · simp [IsCaseOf, hne]
  · rw [IsCaseOf, Unicode.IsImage, Unicode.lowercase, Unicode.uppercase,
      Unicode.lowercaseTable_inOrder.map_eq_singleton_iff hne,
      Unicode.uppercaseTable_inOrder.map_eq_singleton_iff hne]

/-- The listed images are the cases of a character that do not have it as a case. -/
theorem mem_oneWay_iff_isCaseOf (c d : Char) :
    (c.toNat, d.toNat) ∈ Unicode.oneWay ↔ IsCaseOf c d ∧ ¬ IsCaseOf d c := by
  rw [Unicode.mem_oneWay_iff, isCaseOf_iff, isCaseOf_iff]
  by_cases hne : d = c
  · subst hne
    simp
  · simp only [hne, Ne.symm hne, false_or]

namespace Leaf

/-- **Ignoring case is symmetric but for listed images.** Under the flag, the literal `c`
accepts `d` while the literal `d` does not accept `c` exactly if the list has `c` with the
image `d`. -/
theorem accepts_one_way_iff {flags : Flags} {c d : Char} {table table' : ClassTable}
    {i j : Instruction} (hflags : flags.has .ignorecase)
    (hi : (char c).IsWrittenAs flags table i) (hj : (char d).IsWrittenAs flags table' j) :
    i.accepts table d ∧ ¬ j.accepts table' c ↔ (c.toNat, d.toNat) ∈ Unicode.oneWay := by
  rw [hi.accepts_char, hj.accepts_char, if_pos hflags, if_pos hflags, mem_oneWay_iff_isCaseOf]

/-- The Kelvin sign has the letter k as its lower case, and no letter has the Kelvin sign as
an image. -/
theorem accepts_one_way_kelvin :
    (Flags.none.set .ignorecase).has .ignorecase ∧
      ∃ table i table' j, (char '\u212a').IsWrittenAs (.set .none .ignorecase) table i ∧
        (char 'k').IsWrittenAs (.set .none .ignorecase) table' j ∧
          i.accepts table 'k' ∧ ¬ j.accepts table' '\u212a' := by
  have hflags : (Flags.none.set .ignorecase).has .ignorecase := by decide
  obtain ⟨table, i, hi⟩ := exists_isWrittenAs (.set .none .ignorecase) (char '\u212a')
  obtain ⟨table', j, hj⟩ := exists_isWrittenAs (.set .none .ignorecase) (char 'k')
  have hlisted : ('\u212a'.toNat, 'k'.toNat) ∈ Unicode.oneWay := by decide
  exact ⟨hflags, table, i, table', j, hi, hj, (accepts_one_way_iff hflags hi hj).2 hlisted⟩

/-- Acceptance is not symmetric: the literal long s accepts the letter S, its upper case,
and the literal S accepts the two letters S only. -/
theorem not_accepts_symm :
    ¬ ∀ (c d : Char) (table table' : ClassTable) (i j : Instruction),
      (char c).IsWrittenAs (.set .none .ignorecase) table i →
        (char d).IsWrittenAs (.set .none .ignorecase) table' j →
          i.accepts table d → j.accepts table' c := by
  intro hsymm
  obtain ⟨table, i, hi⟩ := exists_isWrittenAs (.set .none .ignorecase) (char '\u017f')
  obtain ⟨table', j, hj⟩ := exists_isWrittenAs (.set .none .ignorecase) (char 'S')
  have hlisted : ('\u017f'.toNat, 'S'.toNat) ∈ Unicode.oneWay := by decide
  obtain ⟨hcase, hback⟩ := (mem_oneWay_iff_isCaseOf '\u017f' 'S').1 hlisted
  have haccepts := hsymm '\u017f' 'S' table table' i j hi hj ((hi.accepts_char 'S').2 hcase)
  exact hback ((hj.accepts_char '\u017f').1 haccepts)

end Leaf
end DeviceRegex
