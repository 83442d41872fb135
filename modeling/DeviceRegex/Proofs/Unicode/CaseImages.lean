import DeviceRegex.Unicode.CaseMapping
import Mathlib

/-!
# Images of the case mappings

The runs of a case mapping stand in order, so a code point is in one run at most and the
run is found by its end. A run of one mapping leads to a run of the other one that leads
back, as a whole or point by point, up to a short list of code points that the two
mappings take to an image that does not lead back.

## Main definitions

* `CaseTable.image? t n` — the single image of a code point that a mapping names.
* `CaseTable.InOrder` — runs and expansions do not overlap, and images are characters.
* `IsImage n m` — one of the two mappings takes `n` to `m`.
* `oneWay` — the code points with an image that does not lead back.
-/
namespace DeviceRegex.Unicode

deriving instance DecidableEq for CaseRun

/-! ## Runs -/

namespace CaseRun
variable {r s : CaseRun} {n m : ℕ}

/-- All code points of a run come before those of another. -/
def Before (r s : CaseRun) : Prop := r.first ≤ r.last ∧ r.last < s.first

instance : IsTrans CaseRun Before where
  trans _ _ _ h h' := ⟨h.1, h.2.trans (h'.1.trans_lt h'.2)⟩

instance (r s : CaseRun) : Decidable (r.Before s) := inferInstanceAs (Decidable (_ ∧ _))

/-- The run that leads back from the images. -/
def inverse (r : CaseRun) : CaseRun := ⟨r.image, r.image + (r.last - r.first), r.step, r.first⟩

/-- The code points of a run with their images. -/
def entries (r : CaseRun) : List (ℕ × ℕ) :=
  ((List.range (r.last - r.first + 1)).filter (· % r.step = 0)).map fun k =>
    (r.first + k, r.image + k)

/-- A run takes the code point at a distance from its start to the image at that
distance. -/
theorem map?_eq_some_iff :
    r.map? n = some m ↔
      ∃ k, n = r.first + k ∧ m = r.image + k ∧ n ≤ r.last ∧ k % r.step = 0 := by
  unfold map?
  constructor
  · intro h
    split at h
    · rename_i hn
      exact ⟨n - r.first, by omega, (Option.some.inj h).symm, hn.2.1, hn.2.2⟩
    · cases h
  · rintro ⟨k, rfl, rfl, hlast, hstep⟩
    rw [Nat.add_sub_cancel_left, if_pos ⟨Nat.le_add_right _ _, hlast, hstep⟩]

theorem map?_inverse (h : r.map? n = some m) : r.inverse.map? m = some n := by
  obtain ⟨k, rfl, rfl, hlast, hstep⟩ := map?_eq_some_iff.1 h
  refine map?_eq_some_iff.2 ⟨k, rfl, rfl, ?_, hstep⟩
  simp only [inverse]
  omega

theorem mem_entries (h : r.map? n = some m) : (n, m) ∈ r.entries := by
  obtain ⟨k, rfl, rfl, hlast, hstep⟩ := map?_eq_some_iff.1 h
  have hrange : k < r.last - r.first + 1 := by omega
  simpa [entries, hstep] using hrange

end CaseRun

/-! ## Tables -/

namespace CaseTable
variable {t : CaseTable} {n m : ℕ}

/-- The first run that does not end before a code point. -/
def runAt? (t : CaseTable) (n : ℕ) : Option CaseRun := t.runs.find? (n ≤ ·.last)

/-- The single image of a code point that the table names, if it names one. -/
def image? (t : CaseTable) (n : ℕ) : Option ℕ := (t.runAt? n).bind (·.map? n)

/-- The runs of a table stand in order and lead to characters, and its expansions concern
other code points and are no single characters. -/
structure InOrder (t : CaseTable) : Prop where
  sorted : t.runs.IsChain CaseRun.Before
  valid : ∀ r ∈ t.runs, r.image + (r.last - r.first) < 0xD800 ∨
    0xDFFF < r.image ∧ r.image + (r.last - r.first) < 0x110000
  apart : ∀ e ∈ t.expansions, t.image? e.1 = none
  several : ∀ e ∈ t.expansions, e.2.length ≠ 1

/-- In runs that stand in order, the run that names a code point is the first one that does
not end before it. -/
theorem find?_eq_some_of_map? {runs : List CaseRun} (h : runs.Pairwise CaseRun.Before)
    {r : CaseRun} (hr : r ∈ runs) (hmap : r.map? n = some m) :
    runs.find? (n ≤ ·.last) = some r := by
  obtain ⟨k, hn, -, hlast, -⟩ := CaseRun.map?_eq_some_iff.1 hmap
  induction runs with
  | nil => cases hr
  | cons s runs ih =>
    obtain ⟨hfirst, hrest⟩ := List.pairwise_cons.1 h
    rcases List.mem_cons.1 hr with rfl | hr
    · exact List.find?_cons_of_pos (by simpa using hlast)
    · have hbefore := (hfirst r hr).2
      rw [List.find?_cons_of_neg (by simp; omega)]
      exact ih hrest hr

namespace InOrder

/-- A table names an image exactly if one of its runs does. -/
theorem image?_eq_some_iff (h : t.InOrder) :
    t.image? n = some m ↔ ∃ r ∈ t.runs, r.map? n = some m := by
  constructor
  · intro himage
    obtain ⟨r, hr, hmap⟩ := Option.bind_eq_some_iff.1 himage
    exact ⟨r, List.mem_of_find?_eq_some hr, hmap⟩
  · rintro ⟨r, hr, hmap⟩
    rw [image?, runAt?, find?_eq_some_of_map? (List.isChain_iff_pairwise.1 h.sorted) hr hmap]
    exact hmap

theorem findSome?_eq_image? (h : t.InOrder) (n : ℕ) :
    t.runs.findSome? (·.map? n) = t.image? n := by
  cases hfound : t.runs.findSome? (·.map? n) with
  | none =>
    symm
    rw [Option.eq_none_iff_forall_ne_some]
    intro m hm
    obtain ⟨r, hr, hmap⟩ := h.image?_eq_some_iff.1 hm
    rw [List.findSome?_eq_none_iff.1 hfound r hr] at hmap
    cases hmap
  | some m =>
    obtain ⟨r, hr, hmap⟩ := List.exists_of_findSome?_eq_some hfound
    exact (h.image?_eq_some_iff.2 ⟨r, hr, hmap⟩).symm

theorem isValidChar (h : t.InOrder) (hm : t.image? n = some m) : m.isValidChar := by
  obtain ⟨r, hr, hmap⟩ := h.image?_eq_some_iff.1 hm
  obtain ⟨k, rfl, rfl, hlast, -⟩ := CaseRun.map?_eq_some_iff.1 hmap
  rcases h.valid r hr with hlow | hhigh
  · exact .inl (by omega)
  · exact .inr (by omega)

/-- A character other than `c` is the whole image of `c` exactly if the runs lead there. -/
theorem map_eq_singleton_iff (h : t.InOrder) {c d : Char} (hne : d ≠ c) :
    t.map c = [d] ↔ t.image? c.toNat = some d.toNat := by
  rw [map]
  cases hexp : t.expansions.lookup c.toNat with
  | some images =>
    have hmem : (c.toNat, images) ∈ t.expansions := by
      obtain ⟨before, after, heq, -⟩ := List.lookup_eq_some_iff.1 hexp
      simp [heq]
    have hseveral := h.several _ hmem
    have hapart := h.apart _ hmem
    constructor
    · intro hsingle
      exact absurd (by simpa using congrArg List.length hsingle) hseveral
    · intro himage
      rw [hapart] at himage
      cases himage
  | none =>
    rw [h.findSome?_eq_image?]
    cases himage : t.image? c.toNat with
    | none => simpa using hne.symm
    | some m =>
      have hm : (Char.ofNat m).toNat = m := by
        rw [Char.toNat_ofNat, if_pos (h.isValidChar himage)]
      simp only [List.cons.injEq, and_true, Option.some.injEq, ← Char.toNat_inj, hm]

end InOrder

end CaseTable

theorem lowercaseTable_inOrder : lowercaseTable.InOrder where
  sorted := by decide +kernel
  valid := by decide +kernel
  apart := by decide +kernel
  several := by decide +kernel

theorem uppercaseTable_inOrder : uppercaseTable.InOrder where
  sorted := by decide +kernel
  valid := by decide +kernel
  apart := by decide +kernel
  several := by decide +kernel

/-! ## Images that do not lead back -/

/-- One of the two mappings takes `n` to the single image `m`. -/
def IsImage (n m : ℕ) : Prop :=
  lowercaseTable.image? n = some m ∨ uppercaseTable.image? n = some m

instance (n m : ℕ) : Decidable (IsImage n m) := inferInstanceAs (Decidable (_ ∨ _))

/-- The code points with a single image that neither mapping takes back to them, with that
image: letters that share the image with another letter, title-case letters, and letters
whose image has no single image itself. -/
def oneWay : List (ℕ × ℕ) := [
  (0xb5, 0x39c), (0x131, 0x49), (0x17f, 0x53), (0x1c5, 0x1c4), (0x1c5, 0x1c6), (0x1c8, 0x1c7),
  (0x1c8, 0x1c9), (0x1cb, 0x1ca), (0x1cb, 0x1cc), (0x1f2, 0x1f1), (0x1f2, 0x1f3), (0x345, 0x399),
  (0x3c2, 0x3a3), (0x3d0, 0x392), (0x3d1, 0x398), (0x3d5, 0x3a6), (0x3d6, 0x3a0), (0x3f0, 0x39a),
  (0x3f1, 0x3a1), (0x3f4, 0x3b8), (0x3f5, 0x395), (0x1c80, 0x412), (0x1c81, 0x414),
  (0x1c82, 0x41e), (0x1c83, 0x421), (0x1c84, 0x422), (0x1c85, 0x422), (0x1c86, 0x42a),
  (0x1c87, 0x462), (0x1c88, 0xa64a), (0x1e9b, 0x1e60), (0x1e9e, 0xdf), (0x1f88, 0x1f80),
  (0x1f89, 0x1f81), (0x1f8a, 0x1f82), (0x1f8b, 0x1f83), (0x1f8c, 0x1f84), (0x1f8d, 0x1f85),
  (0x1f8e, 0x1f86), (0x1f8f, 0x1f87), (0x1f98, 0x1f90), (0x1f99, 0x1f91), (0x1f9a, 0x1f92),
  (0x1f9b, 0x1f93), (0x1f9c, 0x1f94), (0x1f9d, 0x1f95), (0x1f9e, 0x1f96), (0x1f9f, 0x1f97),
  (0x1fa8, 0x1fa0), (0x1fa9, 0x1fa1), (0x1faa, 0x1fa2), (0x1fab, 0x1fa3), (0x1fac, 0x1fa4),
  (0x1fad, 0x1fa5), (0x1fae, 0x1fa6), (0x1faf, 0x1fa7), (0x1fbc, 0x1fb3), (0x1fbe, 0x399),
  (0x1fcc, 0x1fc3), (0x1ffc, 0x1ff3), (0x2126, 0x3c9), (0x212a, 0x6b), (0x212b, 0xe5)]

/-- The run leads to one that leads back as a whole, or each image of the run leads back or
is listed. -/
def CaseRun.Returns (r : CaseRun) (back : CaseTable) : Prop :=
  back.runAt? r.image = some r.inverse ∨
    ∀ e ∈ r.entries, e ∈ oneWay ∨ back.image? e.2 = some e.1

instance (r : CaseRun) (back : CaseTable) : Decidable (r.Returns back) :=
  inferInstanceAs (Decidable (_ ∨ _))

/-- If the runs of a table return, its images lead back in the other table unless they are
listed. -/
theorem image?_back {t back : CaseTable} (ht : t.InOrder) (hback : back.InOrder)
    (h : ∀ r ∈ t.runs, r.Returns back) {n m : ℕ} (himage : t.image? n = some m) :
    (n, m) ∈ oneWay ∨ back.image? m = some n := by
  obtain ⟨r, hr, hmap⟩ := ht.image?_eq_some_iff.1 himage
  rcases h r hr with hrun | hpoints
  · have hinverse : r.inverse ∈ back.runs := List.mem_of_find?_eq_some hrun
    exact .inr (hback.image?_eq_some_iff.2 ⟨r.inverse, hinverse, CaseRun.map?_inverse hmap⟩)
  · exact hpoints _ (CaseRun.mem_entries hmap)

-- decided run by run: nearly all runs return as a whole, and the points of the others are few
theorem lowercase_returns : ∀ r ∈ lowercaseTable.runs, r.Returns uppercaseTable := by
  decide +kernel

theorem uppercase_returns : ∀ r ∈ uppercaseTable.runs, r.Returns lowercaseTable := by
  decide +kernel

theorem isImage_of_mem_oneWay : ∀ e ∈ oneWay, IsImage e.1 e.2 ∧ ¬ IsImage e.2 e.1 := by
  decide +kernel

/-- The listed images are exactly those that do not lead back. -/
theorem mem_oneWay_iff (n m : ℕ) : (n, m) ∈ oneWay ↔ IsImage n m ∧ ¬ IsImage m n := by
  constructor
  · exact isImage_of_mem_oneWay (n, m)
  · rintro ⟨himage, hback⟩
    rcases himage with hlower | hupper
    · refine (image?_back lowercaseTable_inOrder uppercaseTable_inOrder lowercase_returns
        hlower).resolve_right fun h => hback (.inr h)
    · refine (image?_back uppercaseTable_inOrder lowercaseTable_inOrder uppercase_returns
        hupper).resolve_right fun h => hback (.inl h)

end DeviceRegex.Unicode
