import DeviceRegex.Proofs.Charset.SetText
import DeviceRegex.Proofs.Code.Classes

/-!
# The class table in listings

Two entries of a class table are never the same set, but a listing may show them alike: a
set with the characters `a`, `-` and `c` looks like one with the range from `a` to `c`. The
entries that are shown alike are exactly those that differ by ranges that are written out,
and the listing tells entries apart in which no item starts at a dash.
-/
namespace DeviceRegex.Compiled

variable {pattern : List Char} {flags : Flags} {capture : CaptureMode} {c : Compiled}

theorem nodup_classes_of_compile (h : compile pattern flags capture = .ok c) :
    c.classes.Nodup := by
  obtain ⟨p, -, -, rfl⟩ := eq_of_compile h
  exact p.root.nodup_table flags

theorem ascii_of_mem_classes (h : compile pattern flags capture = .ok c) {s : Charset}
    (hs : s ∈ c.classes) : s.ascii = flags.has .ascii := by
  obtain ⟨p, -, -, rfl⟩ := eq_of_compile h
  have hmem : s ∈ ClassTable.internAll [] (Origin.charsets flags p.root.origins) :=
    p.root.table_layout flags ▸ hs
  rw [ClassTable.mem_internAll_iff] at hmem
  exact Origin.ascii_of_mem_charsets (hmem.resolve_left List.not_mem_nil)

/-- Entries at different indices differ in their items, as all entries agree in the mark. -/
theorem items_ne_of_compile (h : compile pattern flags capture = .ok c) {m n : Nat}
    {s t : Charset} (hne : m ≠ n) (hs : c.classes[m]? = some s) (ht : c.classes[n]? = some t) :
    s.items ≠ t.items := by
  intro hitems
  have hascii : s.ascii = t.ascii := by
    rw [ascii_of_mem_classes h (List.mem_of_getElem? hs),
      ascii_of_mem_classes h (List.mem_of_getElem? ht)]
  have hst : s = t := by
    cases s
    cases t
    simp_all
  have hnodup := nodup_classes_of_compile h
  apply hne
  rw [← ClassTable.index_eq_of_getElem?_eq_some hnodup hs, hst,
    ClassTable.index_eq_of_getElem?_eq_some hnodup ht]

/-- **A listing tells classes apart up to ranges that are written out.** Two entries of the
class table at different indices have different items. They have the same text exactly if
their items are the same once every range is written out as its first character, a dash
and its last character; so their texts differ if no item of them starts at a dash. -/
theorem classTexts_eq_iff (h : compile pattern flags capture = .ok c) {m n : Nat}
    {s t : Charset} (hne : m ≠ n) (hs : c.classes[m]? = some s) (ht : c.classes[n]? = some t) :
    s.items ≠ t.items ∧ (s.text = t.text ↔ s.writtenOut = t.writtenOut) ∧
      (s.NoDashStart → t.NoDashStart → s.text ≠ t.text) := by
  have hitems := items_ne_of_compile h hne hs ht
  refine ⟨hitems, Charset.text_eq_iff, fun hdash hdash' htext => hitems ?_⟩
  exact SetItem.eq_of_flatMap_writtenOut_eq hdash hdash' (Charset.text_eq_iff.1 htext)

/-- The range of the first three letters and the three letters themselves are different
entries with different texts. -/
theorem classTexts_eq_iff_of_letters :
    ∃ c s t, compile ['[', 'a', '-', 'c', ']', '[', 'a', 'b', 'c', ']'] .none .extract = .ok c ∧
      0 ≠ 1 ∧ c.classes[0]? = some s ∧ c.classes[1]? = some t ∧ s.items ≠ t.items ∧
      (s.text = t.text ↔ s.writtenOut = t.writtenOut) ∧
      (s.NoDashStart → t.NoDashStart → s.text ≠ t.text) := by
  have hcompile :
      compile ['[', 'a', '-', 'c', ']', '[', 'a', 'b', 'c', ']'] .none .extract =
        .ok ⟨[.make .inClass 0 0, .make .inClass 1 0, .make .accept 0 0],
          [⟨[.range 'a' 'c'], false⟩, ⟨[.char 'a', .char 'b', .char 'c'], false⟩], 0, .none,
          .extract⟩ := by
    decide +kernel
  exact ⟨_, _, _, hcompile, by decide, rfl, rfl,
    classTexts_eq_iff hcompile (by decide : 0 ≠ 1) rfl rfl⟩

/-- The texts of entries are not all different: behind a backslash the dash is a character
of its own, and the listing shows it like the dash of a range. -/
theorem classTexts_not_distinct :
    ¬ ∀ (pattern : List Char) (flags : Flags) (capture : CaptureMode) (c : Compiled),
      compile pattern flags capture = .ok c → ∀ (m n : Nat) (s t : Charset), m ≠ n →
        c.classes[m]? = some s → c.classes[n]? = some t → s.text ≠ t.text := by
  intro hdistinct
  have hcompile :
      compile ['[', 'a', '\\', '-', 'c', ']', '[', 'a', '-', 'c', ']'] .none .extract =
        .ok ⟨[.make .inClass 0 0, .make .inClass 1 0, .make .accept 0 0],
          [⟨[.char 'a', .char '-', .char 'c'], false⟩, ⟨[.range 'a' 'c'], false⟩], 0, .none,
          .extract⟩ := by
    decide +kernel
  have hsame : Charset.text ⟨[.char 'a', .char '-', .char 'c'], false⟩ =
      Charset.text ⟨[.range 'a' 'c'], false⟩ := Charset.text_eq_iff.2 rfl
  exact hdistinct _ _ _ _ hcompile 0 1 _ _ (by decide) rfl rfl hsame

end DeviceRegex.Compiled
