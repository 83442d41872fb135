import DeviceRegex.Pattern.Parse
import DeviceRegex.Proofs.Pattern.CountedQuantifier

/-!
# The grammar of patterns

All ways to write a pattern, read from left to right. Each relation holds between what
is written, a text that starts with a way to write it, and the text behind that. The
text behind matters where the next character would change what was written.

## Main definitions

* `EscapeSpells`, `CharSpells`, `MemberSpells` — characters, after a backslash, outside
  sets and inside them.
* `SetItem.Spells`, `ItemsSpell` — the items of a set.
* `Leaf.Spells`, `Quantifier.Spells`, `GroupOpens` — leaves, quantifiers and the
  openings of groups.
* `Node.Spells` — trees.
-/
namespace DeviceRegex

open Pattern

/-! ## Characters -/

/-- The letters that name control characters, inside and outside sets. -/
def controlLetters : List (Char × Char) :=
  [('n', '\n'), ('t', '\t'), ('r', '\r'), ('f', '\x0c'), ('v', '\x0b'), ('a', '\x07'),
    ('e', '\x1b')]

/-- The first character of a text is an octal digit. -/
def StartsOctal (text : List Char) : Prop :=
  ∃ c rest, text = c :: rest ∧ (Text.octalDigit? c).isSome

/-- The ways to write a character after a backslash. -/
inductive EscapeSpells (inSet : Bool) : Char → List Char → List Char → Prop where
  /-- A letter that names a control character. -/
  | control {letter c : Char} (rest : List Char) (h : (letter, c) ∈ controlLetters) :
      EscapeSpells inSet c (letter :: rest) rest
  | backspace (rest : List Char) (h : inSet = true) :
      EscapeSpells inSet '\x08' ('b' :: rest) rest
  /-- A zero and up to two more octal digits, as many as there are. -/
  | zero {rest : List Char} (h : ¬StartsOctal rest) :
      EscapeSpells inSet (Char.ofNat 0) ('0' :: rest) rest
  | oneDigit {d : Char} {value : Nat} {rest : List Char} (hd : Text.octalDigit? d = some value)
      (h : ¬StartsOctal rest) : EscapeSpells inSet (Char.ofNat value) ('0' :: d :: rest) rest
  | twoDigits {d e : Char} {high low : Nat} (rest : List Char)
      (hd : Text.octalDigit? d = some high) (he : Text.octalDigit? e = some low) :
      EscapeSpells inSet (Char.ofNat (8 * high + low)) ('0' :: d :: e :: rest) rest
  /-- The code point in two hexadecimal digits after `x`, or four after `u`. -/
  | codePoint {c mark : Char} {digits : List Char} (rest : List Char)
      (hmark : mark = 'x' ∧ digits.length = 2 ∨ mark = 'u' ∧ digits.length = 4)
      (hvalue : Text.hexValue? 0 digits = some c.toNat) :
      EscapeSpells inSet c (mark :: (digits ++ rest)) rest
  /-- Any character but ASCII letters and digits stands for itself. -/
  | itself {c : Char} (rest : List Char) (h : c.isAlphanum = false) :
      EscapeSpells inSet c (c :: rest) rest

/-- The characters with a meaning of their own outside sets. A brace has one only where
a counted quantifier starts. -/
def specialChars : List Char := ['|', '(', ')', '[', '.', '^', '$', '\\', '*', '+', '?']

/-- The ways to write a character outside sets. -/
inductive CharSpells : Char → List Char → List Char → Prop where
  | plain {c : Char} {rest : List Char} (hc : c ∉ specialChars)
      (hbrace : c = '{' → ¬StartsCounted rest) : CharSpells c (c :: rest) rest
  | escaped {c : Char} {text rest : List Char} (h : EscapeSpells false c text rest) :
      CharSpells c ('\\' :: text) rest

/-- The ways to write a character inside sets, except for a closing bracket in front. -/
inductive MemberSpells : Char → List Char → List Char → Prop where
  | plain {c : Char} (rest : List Char) (hbracket : c ≠ ']') (hbackslash : c ≠ '\\') :
      MemberSpells c (c :: rest) rest
  | escaped {c : Char} {text rest : List Char} (h : EscapeSpells true c text rest) :
      MemberSpells c ('\\' :: text) rest

/-! ## Sets -/

/-- A dash with the end of a range behind it. A dash in front of the closing bracket
stands for itself. -/
def StartsRangeEnd (text : List Char) : Prop := ∃ c rest, text = '-' :: c :: rest ∧ c ≠ ']'

/-- The ways to write an item of a set. -/
inductive SetItem.Spells : SetItem → List Char → List Char → Prop where
  | char {c : Char} {text rest : List Char} (h : MemberSpells c text rest)
      (hdash : ¬StartsRangeEnd rest) : Spells (.char c) text rest
  | range {first last : Char} {text upper rest : List Char}
      (hfirst : MemberSpells first text ('-' :: upper)) (hlast : MemberSpells last upper rest) :
      Spells (.range first last) text rest
  | shorthand (kind : Shorthand) (rest : List Char) :
      Spells (.shorthand kind) ('\\' :: kind.letter :: rest) rest
  | complement (kind : Shorthand) (rest : List Char) :
      Spells (.complement kind) ('\\' :: kind.complementLetter :: rest) rest

/-- The ways to write items one after the other, up to the closing bracket. -/
inductive ItemsSpell : List SetItem → List Char → List Char → Prop where
  | nil (rest : List Char) : ItemsSpell [] (']' :: rest) rest
  | cons {item : SetItem} {items : List SetItem} {text mid rest : List Char}
      (hitem : item.Spells text mid) (hitems : ItemsSpell items mid rest) :
      ItemsSpell (item :: items) text rest

/-- The ways to write the items of a set, where a closing bracket in front stands for
itself. -/
inductive FirstItemsSpell : List SetItem → List Char → List Char → Prop where
  | ordinary {items : List SetItem} {text rest : List Char} (hne : items ≠ [])
      (h : ItemsSpell items text rest) : FirstItemsSpell items text rest
  | bracket {items : List SetItem} {text rest : List Char} (h : ItemsSpell items text rest) :
      FirstItemsSpell (.char ']' :: items) (']' :: text) rest

/-! ## Leaves, quantifiers and groups -/

/-- The ways to write a leaf. -/
inductive Leaf.Spells : Leaf → List Char → List Char → Prop where
  | char {c : Char} {text rest : List Char} (h : CharSpells c text rest) :
      Spells (.char c) text rest
  | dot (rest : List Char) : Spells .dot ('.' :: rest) rest
  | set {items : List SetItem} {text rest : List Char} (h : FirstItemsSpell items text rest)
      (hcaret : ∀ tail, text ≠ '^' :: tail) : Spells (.set items false) ('[' :: text) rest
  | outside {items : List SetItem} {text rest : List Char} (h : FirstItemsSpell items text rest) :
      Spells (.set items true) ('[' :: '^' :: text) rest
  | shorthand (kind : Shorthand) (rest : List Char) :
      Spells (.set [.shorthand kind] false) ('\\' :: kind.letter :: rest) rest
  | complement (kind : Shorthand) (rest : List Char) :
      Spells (.set [.shorthand kind] true) ('\\' :: kind.complementLetter :: rest) rest
  | caret (rest : List Char) : Spells (.assertion .caret) ('^' :: rest) rest
  | dollar (rest : List Char) : Spells (.assertion .dollar) ('$' :: rest) rest
  | textStart (rest : List Char) : Spells (.assertion .textStart) ('\\' :: 'A' :: rest) rest
  | textEnd {letter : Char} (rest : List Char) (h : letter = 'Z' ∨ letter = 'z') :
      Spells (.assertion .textEnd) ('\\' :: letter :: rest) rest
  | wordBoundary (rest : List Char) :
      Spells (.assertion .wordBoundary) ('\\' :: 'b' :: rest) rest
  | notWordBoundary (rest : List Char) :
      Spells (.assertion .notWordBoundary) ('\\' :: 'B' :: rest) rest

/-- The ways to write the bounds of a quantifier. -/
inductive BoundsSpell : Nat → Option Nat → List Char → List Char → Prop where
  | star (rest : List Char) : BoundsSpell 0 none ('*' :: rest) rest
  | plus (rest : List Char) : BoundsSpell 1 none ('+' :: rest) rest
  | optional (rest : List Char) : BoundsSpell 0 (some 1) ('?' :: rest) rest
  | counted {s : CountedShape} (hs : s.Valid) (rest : List Char) :
      BoundsSpell s.minCount s.maxCount? ('{' :: (s.text ++ rest)) rest

/-- The ways to write a quantifier: its bounds, and a question mark if it is lazy. -/
inductive Quantifier.Spells : Quantifier → List Char → List Char → Prop where
  | greedy {min : Nat} {max : Option Nat} {text rest : List Char}
      (h : BoundsSpell min max text rest) : Spells ⟨min, max, true⟩ text rest
  | lazy {min : Nat} {max : Option Nat} {text rest : List Char}
      (h : BoundsSpell min max text ('?' :: rest)) : Spells ⟨min, max, false⟩ text rest

/-- The ways to open a group. Where no groups are kept, a plain parenthesis opens a
group without a number. -/
inductive GroupOpens : CaptureMode → Option Nat → List Char → List Char → Prop where
  | numbered (mode : CaptureMode) (index : Nat) (rest : List Char) :
      GroupOpens mode (some index) ('(' :: rest) rest
  | plain (mode : CaptureMode) (rest : List Char) :
      GroupOpens mode none ('(' :: '?' :: ':' :: rest) rest
  | dropped (rest : List Char) : GroupOpens .nonCapture none ('(' :: rest) rest

/-! ## Trees -/

mutual
/-- The ways to write a tree. -/
def Node.Spells (mode : CaptureMode) : Node → List Char → List Char → Prop
  | .empty, text, rest => text = rest
  | .leaf l, text, rest => l.Spells text rest
  | .group index body, text, rest =>
    ∃ inner, GroupOpens mode index text inner ∧ body.Spells mode inner (')' :: rest)
  | .concat parts, text, rest => Node.SpellAll mode parts text rest
  | .alternate branches, text, rest => Node.SpellBranches mode branches text rest
  | .repetition body times, text, rest =>
    ∃ marks, body.Spells mode text marks ∧ times.Spells marks rest

/-- The ways to write trees one after the other. -/
def Node.SpellAll (mode : CaptureMode) : List Node → List Char → List Char → Prop
  | [], text, rest => text = rest
  | node :: nodes, text, rest =>
    ∃ mid, node.Spells mode text mid ∧ Node.SpellAll mode nodes mid rest

/-- The ways to write trees with bars between them. -/
def Node.SpellBranches (mode : CaptureMode) : List Node → List Char → List Char → Prop
  | [], text, rest => text = rest
  | [node], text, rest => node.Spells mode text rest
  | node :: nodes, text, rest =>
    ∃ mid, node.Spells mode text ('|' :: mid) ∧ Node.SpellBranches mode nodes mid rest
end

end DeviceRegex
