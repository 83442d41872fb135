import DeviceRegex.Proofs.Pattern.Normal

/-!
# What readers accept

Whatever the text is, a set that is read has items and no reversed range, the bounds of a
quantifier are in order and within the limit, and a quantifier stands behind parts that
may be repeated.
-/
namespace DeviceRegex.Pattern

/-! ## Sets -/

section
variable {opening text rest : List Char}

theorem normal_of_readSetEscape {item : SetItem}
    (h : readSetEscape opening text = .ok (item, rest)) : item.Normal := by
  cases text with
  | nil => simp [readSetEscape] at h
  | cons c tail =>
    simp only [readSetEscape] at h
    split at h
    · rename_i kind negated _
      obtain ⟨rfl, -⟩ := Prod.mk.inj (Except.ok.inj h)
      cases negated <;> trivial
    · split at h
      · cases h
      · obtain ⟨⟨decoded, _⟩, -, h⟩ := bind_eq_ok_iff.1 h
        obtain ⟨rfl, -⟩ := Prod.mk.inj (Except.ok.inj h)
        trivial

theorem normal_of_readSetAtom {item : SetItem} (h : readSetAtom text = .ok (item, rest)) :
    item.Normal := by
  unfold readSetAtom at h
  split at h
  · cases h
  · exact normal_of_readSetEscape h
  · obtain ⟨rfl, -⟩ := Prod.mk.inj (Except.ok.inj h)
    trivial

/-- A range that is read is not reversed. -/
theorem normal_of_readRangeEnd {first : Char} {item : SetItem}
    (h : readRangeEnd first text = .ok (item, rest)) : item.Normal := by
  obtain ⟨⟨last, rest'⟩, -, h⟩ := bind_eq_ok_iff.1 h
  split at h
  · split at h
    · cases h
    · rename_i hle
      obtain ⟨rfl, -⟩ := Prod.mk.inj (Except.ok.inj h)
      exact Char.not_lt.1 hle
  · cases h

theorem normal_of_readSetItem {item : SetItem} (h : readSetItem text = .ok (item, rest)) :
    item.Normal := by
  obtain ⟨⟨atom, rest'⟩, hatom, h⟩ := bind_eq_ok_iff.1 h
  split at h
  · split at h
    · obtain ⟨rfl, -⟩ := Prod.mk.inj (Except.ok.inj h)
      trivial
    · exact normal_of_readRangeEnd h
  · rename_i heq
    rw [Except.ok.inj h] at heq
    obtain ⟨rfl, rfl⟩ := Prod.mk.inj heq
    exact normal_of_readSetAtom hatom

theorem normal_of_readSetItems {items : List SetItem}
    (h : readSetItems opening text = .ok (items, rest)) : ∀ item ∈ items, item.Normal := by
  fun_induction readSetItems opening text generalizing items rest with
  | case1 => cases h
  | case2 => simp_all
  | case3 => cases h
  | case4 c tail _ item rest' hitem ih =>
    obtain ⟨⟨items', rest''⟩, hitems, h⟩ := bind_eq_ok_iff.1 h
    obtain ⟨rfl, -⟩ := Prod.mk.inj (Except.ok.inj h)
    exact List.forall_mem_cons.2 ⟨normal_of_readSetItem hitem, ih hitems⟩

/-- A set that is read has an item: a closing bracket in front is one. -/
theorem normal_of_readFirstItems {items : List SetItem}
    (h : readFirstItems opening text = .ok (items, rest)) :
    items ≠ [] ∧ ∀ item ∈ items, item.Normal := by
  unfold readFirstItems at h
  split at h
  · obtain ⟨⟨items', rest'⟩, hitems, h⟩ := bind_eq_ok_iff.1 h
    obtain ⟨rfl, -⟩ := Prod.mk.inj (Except.ok.inj h)
    refine ⟨List.cons_ne_nil _ _, List.forall_mem_cons.2 ⟨trivial, ?_⟩⟩
    exact normal_of_readSetItems hitems
  · rename_i hfront
    refine ⟨?_, normal_of_readSetItems h⟩
    rintro rfl
    unfold readSetItems at h
    split at h
    · cases h
    · exact hfront _ rfl
    · split at h
      · cases h
      · obtain ⟨⟨items', rest'⟩, -, h⟩ := bind_eq_ok_iff.1 h
        cases h

theorem normal_of_readSet {leaf : Leaf} (h : readSet opening text = .ok (leaf, rest)) :
    leaf.Normal := by
  unfold readSet at h
  split at h
  all_goals
    obtain ⟨⟨items, rest'⟩, hitems, h⟩ := bind_eq_ok_iff.1 h
    obtain ⟨rfl, -⟩ := Prod.mk.inj (Except.ok.inj h)
    exact normal_of_readFirstItems hitems

/-! ## Leaves -/

theorem normal_of_readEscape {leaf : Leaf} (h : readEscape opening text = .ok (leaf, rest)) :
    leaf.Normal := by
  cases text with
  | nil => cases h
  | cons c tail =>
    simp only [readEscape] at h
    split at h
    · obtain ⟨rfl, -⟩ := Prod.mk.inj (Except.ok.inj h)
      exact ⟨List.cons_ne_nil _ _, List.forall_mem_singleton.2 trivial⟩
    · obtain ⟨rfl, -⟩ := Prod.mk.inj (Except.ok.inj h)
      trivial
    · split at h
      · cases h
      · obtain ⟨⟨decoded, _⟩, -, h⟩ := bind_eq_ok_iff.1 h
        obtain ⟨rfl, -⟩ := Prod.mk.inj (Except.ok.inj h)
        trivial

/-- Every leaf that is read is normal. -/
theorem normal_of_readLeaf {c : Char} {leaf : Leaf} (h : readLeaf c text = .ok (leaf, rest)) :
    leaf.Normal := by
  unfold readLeaf at h
  split at h
  · exact normal_of_readSet h
  iterate 3
    · obtain ⟨rfl, -⟩ := Prod.mk.inj (Except.ok.inj h)
      trivial
  · exact normal_of_readEscape h
  · obtain ⟨bounds, -, h⟩ := bind_eq_ok_iff.1 h
    split at h
    · cases h
    · obtain ⟨rfl, -⟩ := Prod.mk.inj (Except.ok.inj h)
      trivial

end

/-! ## Quantifiers -/

section
variable {start text rest : List Char}

/-- A count that is read is within the limit. -/
theorem le_of_readCount {digits : List Char} {count : Nat}
    (h : readCount start digits = .ok count) : count ≤ Engine.maxRepeat := by
  unfold readCount at h
  split at h
  · cases h
  · rename_i hle
    rw [← Except.ok.inj h]
    exact Nat.not_lt.1 hle

theorem CountedShape.le_of_readMin {s : CountedShape} {min : Nat}
    (h : s.readMin start = .ok min) : min ≤ Engine.maxRepeat := by
  unfold readMin at h
  split at h
  · rw [← Except.ok.inj h]
    exact Nat.zero_le _
  · exact le_of_readCount h

/-- The largest count is the least one, or a count that is read. -/
theorem CountedShape.le_of_readMax {s : CountedShape} {min m : Nat}
    (hmin : min ≤ Engine.maxRepeat) (h : s.readMax start min = .ok (some m)) :
    m ≤ Engine.maxRepeat := by
  unfold readMax at h
  split at h
  · obtain rfl := Option.some.inj (Except.ok.inj h)
    exact hmin
  · split at h
    · cases h
    · cases hcount : readCount start s.maxDigits with
      | error e => rw [hcount] at h; cases h
      | ok count =>
        rw [hcount] at h
        obtain rfl := Option.some.inj (Except.ok.inj h)
        exact le_of_readCount hcount

/-- The bounds of a counted quantifier are in order and within the limit. -/
theorem CountedShape.normal_of_bounds {s : CountedShape} {min : Nat} {max : Option Nat}
    (h : s.bounds start = .ok (min, max)) (greedy : Bool) :
    (⟨min, max, greedy⟩ : Quantifier).Normal := by
  obtain ⟨min', hmin, h⟩ := bind_eq_ok_iff.1 h
  obtain ⟨max', hmax, h⟩ := bind_eq_ok_iff.1 h
  have hmin_le := le_of_readMin hmin
  cases max' with
  | none =>
    obtain ⟨rfl, rfl⟩ := Prod.mk.inj (Except.ok.inj h)
    exact ⟨hmin_le, fun m hm => nomatch hm⟩
  | some m =>
    simp only at h
    split at h
    · cases h
    · rename_i hle
      obtain ⟨rfl, rfl⟩ := Prod.mk.inj (Except.ok.inj h)
      refine ⟨hmin_le, fun m' hm => ?_⟩
      obtain rfl := Option.some.inj hm
      exact ⟨Nat.not_lt.1 hle, le_of_readMax hmin_le hmax⟩

/-- The bounds of every quantifier are in order and within the limit. -/
theorem normal_of_bounds? {min : Nat} {max : Option Nat}
    (h : bounds? text = .ok (some ((min, max), rest))) (greedy : Bool) :
    (⟨min, max, greedy⟩ : Quantifier).Normal := by
  unfold bounds? at h
  split at h
  iterate 3
    · obtain ⟨⟨rfl, rfl⟩, -⟩ : (_ = min ∧ _ = max) ∧ _ = rest := by simpa using h
      constructor <;> simp [Engine.maxRepeat]
  · unfold counted? at h
    split at h
    · split at h
      · cases h
      · obtain ⟨⟨min', max'⟩, hbounds, h⟩ := bind_eq_ok_iff.1 h
        obtain ⟨⟨rfl, rfl⟩, -⟩ : (_ = min ∧ _ = max) ∧ _ = rest := by
          simpa [pure, Except.pure] using h
        exact CountedShape.normal_of_bounds hbounds greedy
    · cases h

/-- A part stands alone or is repeated, and a test of a position is not repeated. -/
theorem quantify_cases {part node : Node} (h : quantify part text = .ok (node, rest)) :
    node = part ∨
      ∃ times : Quantifier, times.Normal ∧ part.isAssertion = false ∧
        node = .repetition part times := by
  obtain ⟨bounds, hbounds, h⟩ := bind_eq_ok_iff.1 h
  split at h
  · obtain ⟨rfl, -⟩ := Prod.mk.inj (Except.ok.inj h)
    exact .inl rfl
  · split at h
    · cases h
    · rename_i min max rest' hassertion
      obtain ⟨again, -, h⟩ := bind_eq_ok_iff.1 h
      split at h
      · cases h
      · obtain ⟨rfl, -⟩ := Prod.mk.inj (Except.ok.inj h)
        refine .inr ⟨_, normal_of_bounds? hbounds _, ?_, rfl⟩
        simpa using hassertion

end
end DeviceRegex.Pattern
