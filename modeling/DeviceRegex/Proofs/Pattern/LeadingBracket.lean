import DeviceRegex.Proofs.Pattern.Grammar

/-!
# A closing bracket in front of a set

A closing bracket that comes first in a set is an ordinary character, as it is everywhere
in the set behind a backslash. The two differ in what may follow: only the bracket behind
the backslash can be the first end of a range.

The set is the first leaf of the tree, so texts that start with the two ways to write it
are compared by what is written for that leaf; the rest of the tree is not looked into.

## Main definitions

* `Node.firstLeaf?` — the leaf that stands in front of everything else.
* `Pattern.ReadAlike`, `Pattern.Refused` — the same patterns for two texts, and none for one.
* `Pattern.setText` — the text of a set from its opening bracket on.
-/
namespace DeviceRegex

open Pattern

/-! ## The first leaf -/

mutual
/-- The leaf that stands in front of everything else, outside all groups. -/
def Node.firstLeaf? : Node → Option Leaf
  | .leaf l => some l
  | .concat parts => Node.firstLeafOf? parts
  | .alternate branches => Node.firstLeafOf? branches
  | .repetition body _ => body.firstLeaf?
  | .empty | .group .. => none

/-- The leaf that stands in front of everything else in the first tree of a list. -/
def Node.firstLeafOf? : List Node → Option Leaf
  | [] => none
  | node :: _ => node.firstLeaf?
end

/-- The text starts with a way to write the leaf, and any other way to write it may stand
there instead. -/
def Leaf.Exchangeable (l? : Option Leaf) (Written : List Char → Prop) (text : List Char) : Prop :=
  ∃ l mid, l? = some l ∧ l.Spells text mid ∧ ∀ text', l.Spells text' mid → Written text'

theorem Leaf.Exchangeable.mono {l? : Option Leaf} {Written Written' : List Char → Prop}
    {text : List Char} (h : Exchangeable l? Written text)
    (hwritten : ∀ text, Written text → Written' text) : Exchangeable l? Written' text := by
  obtain ⟨l, mid, hl, hfront, hexchange⟩ := h
  exact ⟨l, mid, hl, hfront, fun text' htext' => hwritten text' (hexchange text' htext')⟩

/-- A tree that takes something off a text has a leaf in front if the text starts with no
bar and no opening parenthesis. -/
theorem Node.exchangeable {mode : CaptureMode} {c : Char} {text : List Char} (hopen : c ≠ '(')
    (hbar : c ≠ '|') : (node : Node) → node.Normal → ∀ {rest}, node.Spells mode (c :: text) rest →
    node.isPart = true ∨ rest ≠ c :: text →
    Leaf.Exchangeable node.firstLeaf? (node.Spells mode · rest) (c :: text)
  | .empty, _, _, h, hend => by
    rcases hend with hpart | hrest
    · cases hpart
    · exact absurd h.symm hrest
  | .leaf l, _, rest, h, _ => ⟨l, rest, rfl, h, fun _ htext' => htext'⟩
  | .group _ _, _, _, ⟨_, hopens, _⟩, _ => by
    cases hopens <;> exact absurd rfl hopen
  | .concat [], hnormal, _, _, _ => absurd hnormal.1 (by simp)
  | .concat (part :: _), hnormal, _, ⟨mid, hpart, hparts⟩, _ =>
    have hisPart : part.isPart = true := hnormal.2.1 part List.mem_cons_self
    (Node.exchangeable hopen hbar part hnormal.2.2.1 hpart (.inl hisPart)).mono
      fun _ htext => ⟨mid, htext, hparts⟩
  | .alternate [], hnormal, _, _, _ => absurd hnormal.1 (by simp)
  | .alternate [_], hnormal, _, _, _ => absurd hnormal.1 (by simp)
  | .alternate (branch :: _ :: _), hnormal, _, ⟨mid, hbranch, hbranches⟩, _ =>
    -- a branch in front may be empty, but then the text would start with its bar
    have hrest : '|' :: mid ≠ c :: text := fun h => hbar (List.cons.inj h).1.symm
    (Node.exchangeable hopen hbar branch hnormal.2.2.1 hbranch (.inr hrest)).mono
      fun _ htext => ⟨mid, htext, hbranches⟩
  | .repetition body _, hnormal, _, ⟨marks, hbody, htimes⟩, _ =>
    have hisPart : body.isPart = true := by
      have hrepeatable := hnormal.1
      cases body <;> first | rfl | cases hrepeatable
    (Node.exchangeable hopen hbar body hnormal.2.2 hbody (.inl hisPart)).mono
      fun _ htext => ⟨marks, htext, htimes⟩

/-! ## Characters and items behind a backslash -/

section Backslash
variable {c d : Char} {text rest : List Char}

theorem memberSpells_cons_iff (hbracket : c ≠ ']') (hbackslash : c ≠ '\\') :
    MemberSpells d (c :: text) rest ↔ d = c ∧ rest = text := by
  constructor
  · intro h
    cases h with
    | plain => exact ⟨rfl, rfl⟩
    | escaped => exact absurd rfl hbackslash
  · rintro ⟨rfl, rfl⟩
    exact .plain _ hbracket hbackslash

/-- Behind a backslash, a character that is no letter and no digit stands for itself. -/
theorem memberSpells_backslash_iff (hc : c.isAlphanum = false) :
    MemberSpells d ('\\' :: c :: text) rest ↔ d = c ∧ rest = text := by
  have hself : MemberSpells c ('\\' :: c :: text) text := .escaped (.itself text hc)
  constructor
  · intro h
    have hread := h.readSetAtom
    rw [hself.readSetAtom] at hread
    cases hread
    exact ⟨rfl, rfl⟩
  · rintro ⟨rfl, rfl⟩
    exact hself

/-- A backslash in front of a sign that has no meaning of its own changes no item. -/
theorem SetItem.spells_backslash_iff (hc : c.isAlphanum = false) (hbracket : c ≠ ']')
    (hbackslash : c ≠ '\\') {item : SetItem} :
    item.Spells ('\\' :: c :: text) rest ↔ item.Spells (c :: text) rest := by
  have hmember {d : Char} {mid : List Char} :
      MemberSpells d ('\\' :: c :: text) mid ↔ MemberSpells d (c :: text) mid := by
    rw [memberSpells_backslash_iff hc, memberSpells_cons_iff hbracket hbackslash]
  constructor
  · intro h
    generalize hstart : '\\' :: c :: text = start at h
    cases h with
    | char h hdash =>
      subst hstart
      exact .char (hmember.1 h) hdash
    | range hfirst hlast =>
      subst hstart
      exact .range (hmember.1 hfirst) hlast
    | shorthand kind =>
      obtain rfl := (List.cons.inj (List.cons.inj hstart).2).1
      cases kind <;> cases hc
    | complement kind =>
      obtain rfl := (List.cons.inj (List.cons.inj hstart).2).1
      cases kind <;> cases hc
  · intro h
    cases h with
    | char h hdash => exact .char (hmember.2 h) hdash
    | range hfirst hlast => exact .range (hmember.2 hfirst) hlast
    | shorthand | complement => exact absurd rfl hbackslash

theorem ItemsSpell.backslash_iff (hc : c.isAlphanum = false) (hbracket : c ≠ ']')
    (hbackslash : c ≠ '\\') {items : List SetItem} :
    ItemsSpell items ('\\' :: c :: text) rest ↔ ItemsSpell items (c :: text) rest := by
  have hitem {item : SetItem} {mid : List Char} :
      item.Spells ('\\' :: c :: text) mid ↔ item.Spells (c :: text) mid :=
    SetItem.spells_backslash_iff hc hbracket hbackslash
  constructor
  · intro h
    cases h with
    | cons h hitems => exact .cons (hitem.1 h) hitems
  · intro h
    cases h with
    | nil => exact absurd rfl hbracket
    | cons h hitems => exact .cons (hitem.2 h) hitems

end Backslash

/-! ## A closing bracket in front -/

section Bracket
variable {items : List SetItem} {text rest : List Char}

/-- Without a backslash, the bracket is a character of the set whatever follows. -/
theorem firstItemsSpell_bracket_iff :
    FirstItemsSpell items (']' :: text) rest ↔
      ∃ items', items = .char ']' :: items' ∧ ItemsSpell items' text rest := by
  constructor
  · intro h
    cases h with
    | ordinary hne h =>
      cases h with
      | nil => exact absurd rfl hne
      | cons hitem =>
        obtain ⟨d, tail, hstart, hd⟩ := hitem.uncons
        exact absurd (List.cons.inj hstart).1.symm hd
    | bracket h => exact ⟨_, rfl, h⟩
  · rintro ⟨items', rfl, h⟩
    exact .bracket h

/-- Behind a backslash, the bracket is a character of the set, or the first end of a range
where one follows. -/
theorem SetItem.Spells.escapedBracket {item : SetItem}
    (h : item.Spells ('\\' :: ']' :: text) rest) :
    (item = .char ']' ∧ rest = text ∧ ¬StartsRangeEnd text) ∨
      ((∃ last, item = .range ']' last) ∧ StartsRangeEnd text) := by
  generalize hstart : '\\' :: ']' :: text = start at h
  cases h with
  | char h hdash =>
    subst hstart
    obtain ⟨rfl, rfl⟩ := (memberSpells_backslash_iff rfl).1 h
    exact .inl ⟨rfl, rfl, hdash⟩
  | range hfirst hlast =>
    subst hstart
    obtain ⟨rfl, rfl⟩ := (memberSpells_backslash_iff rfl).1 hfirst
    obtain ⟨d, tail, rfl, hd⟩ := hlast.uncons
    exact .inr ⟨⟨_, rfl⟩, d, tail, rfl, hd⟩
  | shorthand kind | complement kind => cases kind <;> cases hstart

/-- Where no range follows, the bracket behind a backslash is a character of the set. -/
theorem firstItemsSpell_escapedBracket_iff (hdash : ¬StartsRangeEnd text) :
    FirstItemsSpell items ('\\' :: ']' :: text) rest ↔
      ∃ items', items = .char ']' :: items' ∧ ItemsSpell items' text rest := by
  constructor
  · intro h
    cases h with
    | ordinary _ h =>
      cases h with
      | cons hitem hitems =>
        obtain ⟨rfl, rfl, -⟩ | ⟨-, hrange⟩ := hitem.escapedBracket
        · exact ⟨_, rfl, hitems⟩
        · exact absurd hrange hdash
  · rintro ⟨items', rfl, h⟩
    have hitem : SetItem.Spells (.char ']') ('\\' :: ']' :: text) text :=
      .char ((memberSpells_backslash_iff rfl).2 ⟨rfl, rfl⟩) hdash
    exact .ordinary (List.cons_ne_nil _ _) (.cons hitem h)

/-- Where a range follows, the bracket behind a backslash is its first end. -/
theorem FirstItemsSpell.ne_bracket_of_range (hrange : StartsRangeEnd text)
    (h : FirstItemsSpell items ('\\' :: ']' :: text) rest) (items' : List SetItem) :
    items ≠ .char ']' :: items' := by
  rintro rfl
  cases h with
  | ordinary _ h =>
    cases h with
    | cons hitem =>
      obtain ⟨-, -, hdash⟩ | ⟨⟨last, hitem⟩, -⟩ := hitem.escapedBracket
      · exact hdash hrange
      · cases hitem

end Bracket

namespace Pattern
variable {mode : CaptureMode} {text text' : List Char} {p : Pattern}

/-- Every pattern that is read from one of the texts is read from the other. -/
def ReadAlike (mode : CaptureMode) (text text' : List Char) : Prop :=
  ∀ p, parse mode text = .ok p ↔ parse mode text' = .ok p

/-- No pattern is read from the text. -/
def Refused (mode : CaptureMode) (text : List Char) : Prop := ∀ p, parse mode text ≠ .ok p

theorem ReadAlike.toOption_eq (h : ReadAlike mode text text') :
    (parse mode text).toOption = (parse mode text').toOption := by
  cases hp : parse mode text with
  | ok p => rw [(h p).1 hp]
  | error e =>
    cases hp' : parse mode text' with
    | ok p =>
      rw [(h p).2 hp'] at hp
      cases hp
    | error e' => rfl

/-- The text of a pattern starts with its first leaf. -/
theorem exchangeable_of_parse {c : Char} (hopen : c ≠ '(') (hbar : c ≠ '|')
    (h : parse mode (c :: text) = .ok p) :
    Leaf.Exchangeable p.root.firstLeaf? (p.root.Spells mode · []) (c :: text) := by
  obtain ⟨hnormal, hspells⟩ := parse_eq_ok_iff.1 h
  exact Node.exchangeable hopen hbar p.root hnormal.root hspells (.inr (List.cons_ne_nil _ _).symm)

/-- Texts that start with the same leaves are read alike. -/
theorem readAlike_of_leaves {c : Char} (hopen : c ≠ '(') (hbar : c ≠ '|')
    (h : ∀ l mid, Leaf.Spells l (c :: text) mid ↔ Leaf.Spells l (c :: text') mid) :
    ReadAlike mode (c :: text) (c :: text') := by
  have hread {text text' : List Char}
      (h : ∀ l mid, Leaf.Spells l (c :: text) mid → Leaf.Spells l (c :: text') mid) {p : Pattern}
      (hp : parse mode (c :: text) = .ok p) : parse mode (c :: text') = .ok p := by
    obtain ⟨l, mid, -, hl, hexchange⟩ := exchangeable_of_parse hopen hbar hp
    exact parse_eq_ok_iff.2 ⟨(parse_eq_ok_iff.1 hp).1, hexchange _ (h l mid hl)⟩
  intro p
  exact ⟨hread fun l mid => (h l mid).1, hread fun l mid => (h l mid).2⟩

/-! ## Sets with a closing bracket in front -/

/-- The text of a set from its opening bracket on. -/
def setText (negated : Bool) (text : List Char) : List Char :=
  '[' :: if negated then '^' :: text else text

theorem leaf_spells_setText_iff {l : Leaf} {negated : Bool} {rest : List Char}
    (hcaret : ∀ tail, text ≠ '^' :: tail) :
    l.Spells (setText negated text) rest ↔
      ∃ items, l = .set items negated ∧ FirstItemsSpell items text rest := by
  cases negated with
  | false =>
    constructor
    · intro h
      rw [setText, if_neg Bool.false_ne_true] at h
      cases h with
      | char h =>
        cases h with
        | plain hc => exact absurd (by decide) hc
      | set h => exact ⟨_, rfl, h⟩
      | outside => exact absurd rfl (hcaret _)
    · rintro ⟨items, rfl, h⟩
      exact .set h hcaret
  | true =>
    constructor
    · intro h
      rw [setText, if_pos rfl] at h
      cases h with
      | char h =>
        cases h with
        | plain hc => exact absurd (by decide) hc
      | set _ hcaret => exact absurd rfl (hcaret _)
      | outside h => exact ⟨_, rfl, h⟩
    · rintro ⟨items, rfl, h⟩
      exact .outside h

/-- Sets with the same items are read alike, whatever follows them. -/
theorem readAlike_setText (negated : Bool) (hcaret : ∀ tail, text ≠ '^' :: tail)
    (hcaret' : ∀ tail, text' ≠ '^' :: tail)
    (h : ∀ items rest, FirstItemsSpell items text rest ↔ FirstItemsSpell items text' rest) :
    ReadAlike mode (setText negated text) (setText negated text') := by
  refine readAlike_of_leaves (by decide) (by decide) fun l mid => ?_
  calc l.Spells (setText negated text) mid
      ↔ ∃ items, l = .set items negated ∧ FirstItemsSpell items text mid :=
        leaf_spells_setText_iff hcaret
    _ ↔ ∃ items, l = .set items negated ∧ FirstItemsSpell items text' mid := by simp only [h]
    _ ↔ l.Spells (setText negated text') mid := (leaf_spells_setText_iff hcaret').symm

/-- The items of the set that stands in front of a pattern. -/
theorem exists_items_of_parse {negated : Bool} (hcaret : ∀ tail, text ≠ '^' :: tail)
    (h : parse mode (setText negated text) = .ok p) :
    ∃ items rest, p.root.firstLeaf? = some (.set items negated) ∧
      FirstItemsSpell items text rest := by
  obtain ⟨l, rest, hfirst, hl, -⟩ := exchangeable_of_parse (by decide) (by decide) h
  obtain ⟨items, rfl, hitems⟩ := (leaf_spells_setText_iff hcaret).1 hl
  exact ⟨items, rest, hfirst, hitems⟩

section Bracket
variable (mode : CaptureMode) (negated : Bool) {rest : List Char}

/-- Where no range follows, a closing bracket in front is read as behind a backslash. -/
theorem readAlike_of_not_range (hdash : ¬StartsRangeEnd rest) :
    ReadAlike mode (setText negated (']' :: rest)) (setText negated ('\\' :: ']' :: rest)) := by
  refine readAlike_setText negated (by simp) (by simp) fun items mid => ?_
  rw [firstItemsSpell_bracket_iff, firstItemsSpell_escapedBracket_iff hdash]

/-- Where a range follows, no pattern is read from both texts. -/
theorem not_both_read_of_range (hrange : StartsRangeEnd rest)
    (h : parse mode (setText negated (']' :: rest)) = .ok p) :
    parse mode (setText negated ('\\' :: ']' :: rest)) ≠ .ok p := by
  intro h'
  obtain ⟨items, mid, hfirst, hitems⟩ := exists_items_of_parse (by simp) h
  obtain ⟨items', mid', hfirst', hitems'⟩ := exists_items_of_parse (by simp) h'
  rw [hfirst] at hfirst'
  cases hfirst'
  obtain ⟨others, hothers, -⟩ := firstItemsSpell_bracket_iff.1 hitems
  exact hitems'.ne_bracket_of_range hrange others hothers

/-- A dash behind a closing bracket in front is read as behind a backslash, too. -/
theorem readAlike_of_dash :
    ReadAlike mode (setText negated (']' :: '-' :: rest))
      (setText negated ('\\' :: ']' :: '\\' :: '-' :: rest)) := by
  have hdash : ¬StartsRangeEnd ('\\' :: '-' :: rest) := by simp [StartsRangeEnd]
  refine readAlike_setText negated (by simp) (by simp) fun items mid => ?_
  rw [firstItemsSpell_bracket_iff, firstItemsSpell_escapedBracket_iff hdash]
  simp only [ItemsSpell.backslash_iff (c := '-') rfl (by decide) (by decide)]

/-- **A closing bracket in front of a set starts no range.** It is read like the bracket
behind a backslash exactly if no end of a range follows, or neither text is read at all;
a dash that follows it is always read like the dash behind a backslash. -/
theorem leadingBracket_readAlike_iff (rest : List Char) :
    (ReadAlike mode (setText negated (']' :: rest)) (setText negated ('\\' :: ']' :: rest)) ↔
      ¬StartsRangeEnd rest ∨ Refused mode (setText negated (']' :: rest)) ∧
        Refused mode (setText negated ('\\' :: ']' :: rest))) ∧
      ReadAlike mode (setText negated (']' :: '-' :: rest))
        (setText negated ('\\' :: ']' :: '\\' :: '-' :: rest)) := by
  refine ⟨⟨fun halike => ?_, ?_⟩, readAlike_of_dash mode negated⟩
  · by_cases hrange : StartsRangeEnd rest
    · have hrefused : Refused mode (setText negated (']' :: rest)) := fun p hp =>
        not_both_read_of_range mode negated hrange hp ((halike p).1 hp)
      exact .inr ⟨hrefused, fun p hp => hrefused p ((halike p).2 hp)⟩
    · exact .inl hrange
  · rintro (hdash | ⟨hrefused, hrefused'⟩)
    · exact readAlike_of_not_range mode negated hdash
    · exact fun p => iff_of_false (hrefused p) (hrefused' p)

/-- The two ways to write the bracket differ in front of a range: one set has three
characters, the other one a range. -/
theorem leadingBracket_not_readAlike :
    ¬∀ (mode : CaptureMode) (negated : Bool) (rest : List Char),
      ReadAlike mode (setText negated (']' :: rest)) (setText negated ('\\' :: ']' :: rest)) := by
  intro h
  have hread := (h .extract false ['-', 'a', ']']).toOption_eq
  have hfirst := congrArg (Option.map (·.root.firstLeaf?)) hread
  revert hfirst
  decide +kernel

end Bracket

end Pattern
end DeviceRegex
