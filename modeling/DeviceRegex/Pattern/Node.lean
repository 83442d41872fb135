import DeviceRegex.Charset.Basic

/-!
# Patterns as trees

A pattern is a tree whose leaves match one character or test a position, and whose
inner nodes group, join, choose and repeat.
-/
namespace DeviceRegex

/-- Tests of a position, which match no character. -/
inductive Assertion where
  /-- The start of the text or of a line, written `^`. -/
  | caret
  /-- The end of the text or of a line, written `$`. -/
  | dollar
  /-- The start of the text, written `\A`. -/
  | textStart
  /-- The end of the text, written `\Z` or `\z`. -/
  | textEnd
  /-- The edge of a word, written `\b`. -/
  | wordBoundary
  /-- No edge of a word, written `\B`. -/
  | notWordBoundary
deriving DecidableEq, Repr

/-- The leaves of a pattern. -/
inductive Leaf where
  /-- One character that stands for itself. -/
  | char (c : Char)
  /-- Any character. -/
  | dot
  /-- A character in a set, or outside it if `negated`. -/
  | set (items : List SetItem) (negated : Bool)
  | assertion (test : Assertion)
deriving DecidableEq, Repr

/-- The leaf tests a position. -/
def Leaf.isAssertion : Leaf → Bool
  | assertion _ => true
  | char _ | dot | set .. => false

/-- How often a part may be repeated, and whether more is preferred to less. -/
structure Quantifier where
  min : Nat
  /-- The most repetitions; none for no limit. -/
  max : Option Nat
  greedy : Bool
deriving DecidableEq, Repr

/-- A pattern. -/
inductive Node where
  /-- Matches the empty text. -/
  | empty
  | leaf (leaf : Leaf)
  /-- A parenthesized group; a group whose range is kept has a number. -/
  | group (index : Option Nat) (body : Node)
  /-- All parts, one after the other. -/
  | concat (parts : List Node)
  /-- One of the branches, an earlier one preferred. -/
  | alternate (branches : List Node)
  | repetition (body : Node) (times : Quantifier)
deriving Repr

namespace Node

/-- The node is a single test of a position, which cannot be repeated. -/
def isAssertion : Node → Bool
  | leaf l => l.isAssertion
  | _ => false

/-- The node of a sequence of parts: the empty node, the only part, or all joined. -/
def ofParts : List Node → Node
  | [] => empty
  | [part] => part
  | parts => concat parts

/-- The node of a nonempty list of branches: the only branch, or a choice. -/
def ofBranches : List Node → Node
  | [branch] => branch
  | branches => alternate branches

end Node
end DeviceRegex
