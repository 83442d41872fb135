import DeviceRegex.Proofs.Pattern.RoundTrip

/-!
# Writing patterns

One way to write every normal tree: a backslash stands before all characters that might
be taken for something else, and all quantifiers are counted. So every normal pattern can
be read from some text.

## Main definitions

* `Node.render` — a text that writes the tree.
-/
namespace DeviceRegex

open Pattern

/-! ## Leaves -/

namespace SetItem

/-- A character of a set. -/
def renderMember (c : Char) : List Char :=
  if c ∈ [']', '\\', '^', '-'] then ['\\', c] else [c]

/-- An item of a set as a pattern shows it. -/
def render : SetItem → List Char
  | char c => renderMember c
  | range first last => renderMember first ++ '-' :: renderMember last
  | shorthand kind => ['\\', kind.letter]
  | complement kind => ['\\', kind.complementLetter]

theorem spells_renderMember (c : Char) (rest : List Char) :
    MemberSpells c (renderMember c ++ rest) rest := by
  by_cases hc : c ∈ [']', '\\', '^', '-']
  · rw [renderMember, if_pos hc]
    refine .escaped (.itself rest ?_)
    simp only [List.mem_cons, List.not_mem_nil, or_false] at hc
    rcases hc with rfl | rfl | rfl | rfl <;> rfl
  · rw [renderMember, if_neg hc]
    simp only [List.mem_cons, List.not_mem_nil, or_false, not_or] at hc
    exact .plain rest hc.1 hc.2.1

theorem renderMember_eq_cons (c : Char) :
    ∃ d tail, renderMember c = d :: tail ∧ d ≠ '-' ∧ d ≠ '^' := by
  by_cases hc : c ∈ [']', '\\', '^', '-']
  · exact ⟨'\\', [c], if_pos hc, by decide, by decide⟩
  · have hrender : renderMember c = [c] := if_neg hc
    simp only [List.mem_cons, List.not_mem_nil, or_false, not_or] at hc
    exact ⟨c, [], hrender, hc.2.2.2, hc.2.2.1⟩

/-- No item starts with a dash or a caret. -/
theorem render_eq_cons (item : SetItem) :
    ∃ d tail, item.render = d :: tail ∧ d ≠ '-' ∧ d ≠ '^' := by
  cases item with
  | char c => exact renderMember_eq_cons c
  | range first last =>
    obtain ⟨d, tail, h, hd⟩ := renderMember_eq_cons first
    exact ⟨d, tail ++ '-' :: renderMember last, by rw [render, h]; rfl, hd⟩
  | shorthand | complement => exact ⟨'\\', _, rfl, by decide, by decide⟩

theorem spells_render (item : SetItem) {rest : List Char} (hrest : ¬StartsRangeEnd rest) :
    item.Spells (item.render ++ rest) rest := by
  cases item with
  | char c => exact .char (spells_renderMember c rest) hrest
  | range first last =>
    rw [render, List.append_assoc, List.cons_append]
    exact .range (spells_renderMember first _) (spells_renderMember last rest)
  | shorthand kind => exact .shorthand kind rest
  | complement kind => exact .complement kind rest

end SetItem

/-- The items of a set up to its closing bracket. -/
def renderItems (items : List SetItem) : List Char := items.flatMap SetItem.render ++ [']']

theorem renderItems_cons (item : SetItem) (items : List SetItem) :
    renderItems (item :: items) = item.render ++ renderItems items := by
  simp [renderItems]

/-- No dash stands in front of the items of a set. -/
theorem not_startsRangeEnd_renderItems (items : List SetItem) (rest : List Char) :
    ¬StartsRangeEnd (renderItems items ++ rest) := by
  rintro ⟨c, tail, h, -⟩
  cases items with
  | nil => simp [renderItems] at h
  | cons item items =>
    obtain ⟨d, tail', hd, hdash, -⟩ := item.render_eq_cons
    rw [renderItems_cons, hd] at h
    exact hdash (List.cons.inj h).1

theorem itemsSpell_renderItems (items : List SetItem) (rest : List Char) :
    ItemsSpell items (renderItems items ++ rest) rest := by
  induction items with
  | nil => exact .nil rest
  | cons item items ih =>
    rw [renderItems_cons, List.append_assoc]
    exact .cons (item.spells_render (not_startsRangeEnd_renderItems items rest)) ih

/-- A character outside sets. -/
def renderChar (c : Char) : List Char :=
  if c ∈ '{' :: specialChars then ['\\', c] else [c]

theorem spells_renderChar (c : Char) (rest : List Char) :
    CharSpells c (renderChar c ++ rest) rest := by
  by_cases hc : c ∈ '{' :: specialChars
  · rw [renderChar, if_pos hc]
    refine .escaped (.itself rest ?_)
    simp only [specialChars, List.mem_cons, List.not_mem_nil, or_false] at hc
    rcases hc with rfl | rfl | rfl | rfl | rfl | rfl | rfl | rfl | rfl | rfl | rfl | rfl <;> rfl
  · rw [renderChar, if_neg hc]
    rw [List.mem_cons, not_or] at hc
    exact .plain hc.2 fun h => absurd h hc.1

/-- A leaf as a pattern shows it. -/
def Leaf.render : Leaf → List Char
  | char c => renderChar c
  | dot => ['.']
  | set items negated => '[' :: (if negated then '^' :: renderItems items else renderItems items)
  | assertion .caret => ['^']
  | assertion .dollar => ['$']
  | assertion .textStart => ['\\', 'A']
  | assertion .textEnd => ['\\', 'Z']
  | assertion .wordBoundary => ['\\', 'b']
  | assertion .notWordBoundary => ['\\', 'B']

theorem Leaf.spells_render {l : Leaf} (hl : l.Normal) (rest : List Char) :
    l.Spells (l.render ++ rest) rest := by
  cases l with
  | char c => exact .char (spells_renderChar c rest)
  | dot => exact .dot rest
  | set items negated =>
    have hitems := FirstItemsSpell.ordinary hl.1 (itemsSpell_renderItems items rest)
    cases negated with
    | true => exact .outside hitems
    | false =>
      refine .set hitems ?_
      rintro tail h
      obtain ⟨item, items, rfl⟩ := List.exists_cons_of_ne_nil hl.1
      obtain ⟨d, tail', hd, -, hcaret⟩ := item.render_eq_cons
      rw [renderItems_cons, hd] at h
      exact hcaret (List.cons.inj h).1
  | assertion test =>
    cases test with
    | caret => exact .caret rest
    | dollar => exact .dollar rest
    | textStart => exact .textStart rest
    | textEnd => exact .textEnd rest (.inl rfl)
    | wordBoundary => exact .wordBoundary rest
    | notWordBoundary => exact .notWordBoundary rest

/-! ## Quantifiers -/

namespace Quantifier

/-- The bounds of a quantifier as counts. -/
def shape (times : Quantifier) : CountedShape where
  minDigits := Nat.toDigits 10 times.min
  comma := true
  maxDigits := times.max.elim [] (Nat.toDigits 10)

/-- A quantifier as a pattern shows it. -/
def render (times : Quantifier) : List Char :=
  '{' :: (times.shape.text ++ if times.greedy then [] else ['?'])

theorem shape_valid (times : Quantifier) : times.shape.Valid where
  min_digits _ hc := Nat.isDigit_of_mem_toDigits (by decide) (by decide) hc
  max_digits c hc := by
    cases hmax : times.max with
    | none => simp [shape, hmax] at hc
    | some m =>
      simp only [shape, hmax, Option.elim] at hc
      exact Nat.isDigit_of_mem_toDigits (by decide) (by decide) hc
  ne_nil := .inl Nat.toDigits_ne_nil
  max_eq_nil h := by cases h

theorem minCount_shape (times : Quantifier) : times.shape.minCount = times.min :=
  Nat.ofDigitChars_ten_toDigits

theorem maxCount?_shape (times : Quantifier) : times.shape.maxCount? = times.max := by
  cases hmax : times.max with
  | none => simp [CountedShape.maxCount?, shape, hmax]
  | some m => simp [CountedShape.maxCount?, shape, hmax, Nat.ofDigitChars_ten_toDigits]

theorem spells_render (times : Quantifier) (rest : List Char) :
    times.Spells (times.render ++ rest) rest := by
  have hbounds := BoundsSpell.counted times.shape_valid
  rw [minCount_shape, maxCount?_shape] at hbounds
  obtain ⟨min, max, greedy⟩ := times
  cases greedy with
  | true =>
    have h := hbounds rest
    simpa [render] using Quantifier.Spells.greedy h
  | false =>
    have h := hbounds ('?' :: rest)
    simpa [render] using Quantifier.Spells.lazy h

end Quantifier

/-! ## Trees -/

mutual
/-- A tree as a pattern shows it. -/
def Node.render : Node → List Char
  | .empty => []
  | .leaf l => l.render
  | .group (some _) body => '(' :: (body.render ++ [')'])
  | .group none body => '(' :: '?' :: ':' :: (body.render ++ [')'])
  | .concat parts => Node.renderAll parts
  | .alternate branches => Node.renderBranches branches
  | .repetition body times => body.render ++ times.render

/-- Trees one after the other. -/
def Node.renderAll : List Node → List Char
  | [] => []
  | node :: nodes => node.render ++ Node.renderAll nodes

/-- Trees with bars between them. -/
def Node.renderBranches : List Node → List Char
  | [] => []
  | [node] => node.render
  | node :: nodes => node.render ++ '|' :: Node.renderBranches nodes
end

mutual
theorem Node.spells_render (mode : CaptureMode) : (node : Node) → node.Normal →
    (rest : List Char) → node.Spells mode (node.render ++ rest) rest
  | .empty, _, _ => rfl
  | .leaf l, hnormal, rest => Leaf.spells_render hnormal rest
  | .group (some index) body, hnormal, rest => by
    refine ⟨body.render ++ ')' :: rest, ?_, Node.spells_render mode body hnormal _⟩
    simpa [Node.render] using GroupOpens.numbered mode index (body.render ++ ')' :: rest)
  | .group none body, hnormal, rest => by
    refine ⟨body.render ++ ')' :: rest, ?_, Node.spells_render mode body hnormal _⟩
    simpa [Node.render] using GroupOpens.plain mode (body.render ++ ')' :: rest)
  | .concat parts, hnormal, rest => Node.spellAll_render mode parts hnormal.2.2 rest
  | .alternate branches, hnormal, rest => Node.spellBranches_render mode branches hnormal.2.2 rest
  | .repetition body times, hnormal, rest => by
    refine ⟨times.render ++ rest, ?_, times.spells_render rest⟩
    rw [Node.render, List.append_assoc]
    exact Node.spells_render mode body hnormal.2.2 _

theorem Node.spellAll_render (mode : CaptureMode) : (nodes : List Node) → Node.NormalAll nodes →
    (rest : List Char) → Node.SpellAll mode nodes (Node.renderAll nodes ++ rest) rest
  | [], _, _ => rfl
  | node :: nodes, hnormal, rest => by
    refine ⟨Node.renderAll nodes ++ rest, ?_, Node.spellAll_render mode nodes hnormal.2 rest⟩
    rw [Node.renderAll, List.append_assoc]
    exact Node.spells_render mode node hnormal.1 _

theorem Node.spellBranches_render (mode : CaptureMode) : (nodes : List Node) →
    Node.NormalAll nodes → (rest : List Char) →
    Node.SpellBranches mode nodes (Node.renderBranches nodes ++ rest) rest
  | [], _, _ => rfl
  | [node], hnormal, rest => Node.spells_render mode node hnormal.1 rest
  | node :: next :: nodes, hnormal, rest => by
    refine ⟨Node.renderBranches (next :: nodes) ++ rest, ?_,
      Node.spellBranches_render mode (next :: nodes) hnormal.2 rest⟩
    rw [Node.renderBranches, List.append_assoc, List.cons_append]
    · exact Node.spells_render mode node hnormal.1 _
    · simp
end

/-- **Parsing undoes rendering.** Every normal pattern can be written, and is read from
every text that writes it. -/
theorem Pattern.parse_undoes_rendering {mode : CaptureMode} {p : Pattern} (hp : p.Normal mode) :
    p.root.Spells mode p.root.render [] ∧
      ∀ text, p.root.Spells mode text [] → parse mode text = .ok p := by
  refine ⟨?_, fun text h => parse_eq_of_spells hp h⟩
  have h := Node.spells_render mode p.root hp.root []
  rwa [List.append_nil] at h

/-- A lazy loop over a set with a leading bracket, in a numbered group with two branches,
and a brace that stands for itself. -/
theorem Pattern.parse_undoes_rendering_of_loop :
    parse .extract ['(', 'a', '|', '[', '^', ']', 'b', '-', 'd', ']', '{', '2', ',', '}', '?',
      ')', '{'] =
      .ok ⟨.concat [.group (some 1) (.alternate [.leaf (.char 'a'),
        .repetition (.leaf (.set [.char ']', .range 'b' 'd'] true)) ⟨2, none, false⟩]),
        .leaf (.char '{')], 1⟩ := by
  have htimes : (⟨2, none, false⟩ : Quantifier).Normal := ⟨by decide, by simp⟩
  have hrange : 'b' ≤ 'd' := by simp
  have hshape : CountedShape.Valid ⟨['2'], true, []⟩ := ⟨by simp, by simp, by simp, by simp⟩
  have hset : FirstItemsSpell [.char ']', .range 'b' 'd']
      [']', 'b', '-', 'd', ']', '{', '2', ',', '}', '?', ')', '{']
      ['{', '2', ',', '}', '?', ')', '{'] :=
    .bracket (.cons (.range (.plain _ (by decide) (by decide)) (.plain _ (by decide) (by decide)))
      (.nil _))
  have hbrace : ¬StartsCounted [] := readShape_eq_none_iff.1 rfl
  refine (parse_undoes_rendering ⟨?root, ?depth, ?numbered, rfl⟩).2 _ ?spells
  case depth => decide
  case numbered => rfl
  case root =>
    simp [Node.Normal, Node.NormalAll, Node.isPart, Node.isAlternate, Node.isRepeatable,
      Leaf.isAssertion, Leaf.Normal, SetItem.Normal, htimes, hrange]
  case spells =>
    refine ⟨['{'], ⟨_, .numbered _ _ _, ?body⟩, _, .char (.plain (by decide) fun _ => hbrace), rfl⟩
    exact ⟨_, .char (.plain (by decide) (by simp)), _, .outside hset,
      .lazy (.counted hshape _)⟩

end DeviceRegex
