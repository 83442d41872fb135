import DeviceRegex.Proofs.Pattern.Reading

/-!
# Reading undoes writing

Whatever was read before, a part of a text that writes a normal tree adds that tree to
what was read, counts its numbered groups and leaves the open groups as they were. Where
the tree ends does not depend on more of the text behind it than that no quantifier
follows.

## Main definitions

* `OpenAlternation.addParts`, `OpenAlternation.addBranches` — an alternation after more
  of it is read.
* `Reads` — what reading a part of a text does to any state.
-/
namespace DeviceRegex

open Pattern

namespace Pattern.OpenAlternation

/-- The alternation after parts of its last branch are read. -/
def addParts (o : OpenAlternation) (parts : List Node) : OpenAlternation :=
  { o with parts := parts.reverse ++ o.parts }

/-- The alternation after branches are read, the first of which continues the last one. -/
def addBranches (o : OpenAlternation) : List Node → OpenAlternation
  | [] => o
  | [branch] => o.addParts branch.parts
  | branch :: branches => (o.addParts branch.parts).bar.addBranches branches

/-- Branches that are put together again from their parts are all there in the end. -/
theorem close_addBranches {o : OpenAlternation} (ho : o.parts = []) {branches : List Node}
    (hne : branches ≠ []) (hbranches : ∀ branch ∈ branches, Node.ofParts branch.parts = branch) :
    (o.addBranches branches).close = Node.ofBranches (o.branches.reverse ++ branches) := by
  induction branches generalizing o with
  | nil => exact absurd rfl hne
  | cons branch branches ih =>
    obtain ⟨hbranch, hrest⟩ := List.forall_mem_cons.1 hbranches
    have hbar : (o.addParts branch.parts).bar = ⟨branch :: o.branches, []⟩ := by
      simp [addParts, bar, ho, hbranch]
    cases branches with
    | nil => simp [addBranches, close, hbar]
    | cons next branches =>
      rw [addBranches, ih (by rw [hbar]) (by simp) hrest, hbar]
      · simp
      · simp

end Pattern.OpenAlternation

/-- A normal body is what is there after it is read. -/
theorem Node.close_addBranches_branches {body : Node} (h : body.Normal) :
    (OpenAlternation.empty.addBranches body.branches).close = body := by
  have hbranches : body.branches ≠ [] ∧
      ∀ branch ∈ body.branches, ofParts branch.parts = branch := by
    cases body with
    | alternate branches =>
      obtain ⟨hlen, hflat, hall⟩ := h
      refine ⟨List.ne_nil_of_length_pos (Nat.lt_of_lt_of_le Nat.two_pos hlen), ?_⟩
      intro branch hbranch
      exact ofParts_parts (normalAll_iff.1 hall branch hbranch) (hflat branch hbranch)
    | _ => simpa [branches] using ofParts_parts h rfl
  rw [OpenAlternation.close_addBranches rfl hbranches.1 hbranches.2]
  exact ofBranches_branches h

/-! ## What reading does -/

/-- The elements of the text up to `rest` have groups with these numbers and of this
depth, and change the alternation that is being read. -/
def Reads (mode : CaptureMode) (numbers : List Nat) (depth : Nat)
    (change : OpenAlternation → OpenAlternation) (text rest : List Char) : Prop :=
  ∀ st : State, st.stack.length + depth ≤ Engine.maxNesting →
    Numbered mode (st.groups + 1) numbers →
    st.run mode text =
      (⟨st.groups + numbers.length, st.stack, change st.current⟩ : State).run mode rest

theorem Pattern.State.run_cons {mode : CaptureMode} {st st' : State} {c : Char}
    {text rest : List Char} (h : st.step mode c text = .ok (st', rest)) :
    st.run mode (c :: text) = st'.run mode rest := by
  rw [State.run]
  split <;> simp_all

namespace Reads
variable {mode : CaptureMode} {numbers numbers' : List Nat} {depth depth' : Nat}
  {change change' : OpenAlternation → OpenAlternation} {text mid rest rest' : List Char}
  {part : Node}

theorem refl (mode : CaptureMode) (text : List Char) : Reads mode [] 0 id text text :=
  fun _ _ _ => rfl

theorem trans (h : Reads mode numbers depth change text mid)
    (h' : Reads mode numbers' depth' change' mid rest) :
    Reads mode (numbers ++ numbers') (max depth depth') (change' ∘ change) text rest := by
  intro st hst hnumbers
  obtain ⟨hfirst, hsecond⟩ := Numbered.append_iff.1 hnumbers
  rw [h st (by omega) hfirst, h' _ (by simp only; omega)]
  · simp [Nat.add_assoc]
  · simpa only [Nat.add_right_comm] using hsecond

theorem bar (mode : CaptureMode) (rest : List Char) :
    Reads mode [] 0 OpenAlternation.bar ('|' :: rest) rest :=
  fun _ _ _ => State.run_cons rfl

/-- A leaf is read with the quantifier behind it. -/
theorem leaf {l : Leaf} (h : l.Spells text rest) (hl : l.Normal)
    (hquantify : quantify (.leaf l) rest = .ok (part, rest')) :
    Reads mode [] 0 (·.push part) text rest' := by
  intro st _ _
  obtain ⟨c, tail, rfl, hbar, hopen, hclose, hread⟩ := h.readLeaf hl
  refine State.run_cons ?_
  simp [State.step, State.readPart, hread, hquantify, bind, Except.bind, pure, Except.pure]

/-- The opening of a group is read, if more groups may be open. -/
theorem openGroup {index : Option Nat} {inner : List Char} (h : GroupOpens mode index text inner)
    (hinner : bounds? inner = .ok none) {st : State}
    (hdepth : st.stack.length < Engine.maxNesting)
    (hindex : Numbered mode (st.groups + 1) index.toList) :
    ∃ opening, st.run mode text =
      (⟨st.groups + index.toList.length, ⟨opening, index, st.current⟩ :: st.stack, .empty⟩ :
        State).run mode inner := by
  have hlimit : ¬Engine.maxNesting ≤ st.stack.length := Nat.not_le.2 hdepth
  have hmark (tail : List Char) : inner ≠ '?' :: tail := by
    rintro rfl
    cases hinner
  cases h with
  | numbered index =>
    obtain ⟨rfl, rfl, -⟩ := Numbered.cons_iff.1 hindex
    refine ⟨'(' :: inner, State.run_cons ?_⟩
    simp [State.step, State.openGroup, hlimit, State.openNumbered, hmark]
  | plain =>
    refine ⟨'(' :: '?' :: ':' :: inner, State.run_cons ?_⟩
    simp [State.step, State.openGroup, hlimit, State.openPlain]
  | dropped =>
    refine ⟨'(' :: inner, State.run_cons ?_⟩
    simp [State.step, State.openGroup, hlimit, State.openPlain, hmark]

/-- A group is read with the quantifier behind it, if its body is read in it. -/
theorem group {index : Option Nat} {body : Node} {inner : List Char}
    (hopens : GroupOpens mode index text inner) (hinner : bounds? inner = .ok none)
    (hbody : Reads mode body.numbers body.depth (·.addBranches body.branches) inner (')' :: rest))
    (hnormal : body.Normal)
    (hquantify : quantify (.group index body) rest = .ok (part, rest')) :
    Reads mode (Node.group index body).numbers (Node.group index body).depth (·.push part) text
      rest' := by
  intro st hst hnumbers
  simp only [Node.numbers, Node.depth] at hst hnumbers ⊢
  obtain ⟨hindex, hnumbers⟩ := Numbered.append_iff.1 hnumbers
  obtain ⟨opening, hopen⟩ := openGroup hopens hinner (by omega) hindex
  rw [hopen, hbody]
  · refine State.run_cons ?_
    simp [State.step, State.closeGroup, Node.close_addBranches_branches hnormal, hquantify, bind,
      Except.bind, pure, Except.pure, Nat.add_assoc]
  · simp only [List.length_cons]
    omega
  · simpa only [Nat.add_right_comm] using hnumbers

end Reads

/-! ## Where no quantifier starts -/

theorem bounds?_bar (rest : List Char) : bounds? ('|' :: rest) = .ok none := rfl

theorem bounds?_close (rest : List Char) : bounds? (')' :: rest) = .ok none := rfl

section
variable {mode : CaptureMode} {node : Node} {nodes : List Node} {text rest : List Char}

/-- What may be repeated starts with no quantifier. -/
theorem Node.bounds?_of_isRepeatable (hnode : node.isRepeatable)
    (h : node.Spells mode text rest) : bounds? text = .ok none := by
  cases node with
  | leaf l => exact Leaf.Spells.bounds?_eq_none h
  | group index body =>
    obtain ⟨inner, hopens, -⟩ := h
    cases hopens <;> rfl
  | _ => cases hnode

/-- A part of a sequence starts with no quantifier. -/
theorem Node.bounds?_of_isPart (hpart : node.isPart) (hnormal : node.Normal)
    (h : node.Spells mode text rest) : bounds? text = .ok none := by
  cases node with
  | leaf l => exact Leaf.Spells.bounds?_eq_none h
  | group index body => exact bounds?_of_isRepeatable rfl h
  | repetition body times =>
    obtain ⟨marks, hbody, -⟩ := h
    exact bounds?_of_isRepeatable hnormal.1 hbody
  | _ => cases hpart

theorem Node.bounds?_of_spellAll (hparts : ∀ part ∈ nodes, part.isPart)
    (hnormal : Node.NormalAll nodes) (h : Node.SpellAll mode nodes text rest)
    (hrest : bounds? rest = .ok none) : bounds? text = .ok none := by
  cases nodes with
  | nil =>
    obtain rfl : text = rest := h
    exact hrest
  | cons node nodes =>
    obtain ⟨mid, hnode, -⟩ := h
    exact bounds?_of_isPart (hparts node List.mem_cons_self) hnormal.1 hnode

/-- A branch starts with no quantifier if none follows it. -/
theorem Node.bounds?_of_branch (hbranch : node.isAlternate = false) (hnormal : node.Normal)
    (h : node.Spells mode text rest) (hrest : bounds? rest = .ok none) :
    bounds? text = .ok none := by
  cases node with
  | empty =>
    obtain rfl : text = rest := h
    exact hrest
  | concat parts => exact bounds?_of_spellAll hnormal.2.1 hnormal.2.2 h hrest
  | alternate branches => cases hbranch
  | _ => exact bounds?_of_isPart rfl hnormal h

/-- A body starts with no quantifier if none follows it. -/
theorem Node.bounds?_of_spells (hnormal : node.Normal) (h : node.Spells mode text rest)
    (hrest : bounds? rest = .ok none) : bounds? text = .ok none := by
  cases node with
  | alternate branches =>
    obtain ⟨hlen, hflat, hall⟩ := hnormal
    match branches, hlen with
    | branch :: next :: branches, _ =>
      obtain ⟨mid, hbranch, -⟩ := h
      exact bounds?_of_branch (hflat branch List.mem_cons_self) hall.1 hbranch (bounds?_bar mid)
  | _ => exact bounds?_of_branch rfl hnormal h hrest

end

/-! ## Trees -/

namespace Pattern.OpenAlternation

theorem addBranches_of_isPart (o : OpenAlternation) {part : Node} (h : part.isPart) :
    o.addBranches part.branches = o.push part := by
  cases part <;> first | rfl | cases h

theorem addParts_push (o : OpenAlternation) (part : Node) (parts : List Node) :
    (o.push part).addParts parts = o.addParts (part :: parts) := by
  simp [addParts, push]

theorem addBranches_of_isAlternate_eq_false (o : OpenAlternation) {branch : Node}
    (h : branch.isAlternate = false) : o.addBranches branch.branches = o.addParts branch.parts := by
  cases branch <;> first | rfl | cases h

end Pattern.OpenAlternation

mutual
/-- A normal tree is read where it was written. -/
theorem Node.reads {mode : CaptureMode} : (node : Node) → node.Normal → ∀ {text rest},
    node.Spells mode text rest → bounds? rest = .ok none →
    Reads mode node.numbers node.depth (·.addBranches node.branches) text rest
  | .empty, _, _, _, h, _ => by
    obtain rfl := h
    exact .refl mode _
  | .leaf l, hnormal, _, _, h, hrest =>
    .leaf h hnormal (quantify_of_bounds?_eq_none hrest _)
  | .group index body, hnormal, _, rest, ⟨inner, hopens, hbody⟩, hrest => by
    have ih := Node.reads body hnormal hbody (bounds?_close rest)
    have hbodyNormal : body.Normal := hnormal
    have hinner := Node.bounds?_of_spells hbodyNormal hbody (bounds?_close rest)
    exact .group hopens hinner ih hnormal (quantify_of_bounds?_eq_none hrest _)
  | .repetition (.leaf l) times, hnormal, _, _, ⟨marks, hbody, htimes⟩, hrest => by
    -- the quantifier is read in one step with the part before it, so the tree of that part
    -- is no case of the induction
    have hrepeatable : Node.isAssertion (.leaf l) = false := by
      simpa [Node.isRepeatable, Node.isAssertion] using hnormal.1
    exact .leaf hbody hnormal.2.2 (htimes.quantify hnormal.2.1 hrest hrepeatable)
  | .repetition (.group index body) times, hnormal, _, _, ⟨marks, ⟨inner, hopens, hbody⟩, htimes⟩,
    hrest => by
    have ih := Node.reads body hnormal.2.2 hbody (bounds?_close _)
    have hbodyNormal : body.Normal := hnormal.2.2
    have hinner := Node.bounds?_of_spells hbodyNormal hbody (bounds?_close _)
    exact .group hopens hinner ih hnormal.2.2 (htimes.quantify hnormal.2.1 hrest rfl)
  | .repetition .empty _, hnormal, _, _, _, _ => by cases hnormal.1
  | .repetition (.concat _) _, hnormal, _, _, _, _ => by cases hnormal.1
  | .repetition (.alternate _) _, hnormal, _, _, _, _ => by cases hnormal.1
  | .repetition (.repetition ..) _, hnormal, _, _, _, _ => by cases hnormal.1
  | .concat parts, hnormal, _, _, h, hrest =>
    Node.readsAll parts hnormal.2.1 hnormal.2.2 h hrest
  | .alternate branches, hnormal, _, _, h, hrest =>
    Node.readsBranches branches hnormal.2.1 hnormal.2.2 h hrest

/-- Normal parts are read where they were written one after the other. -/
theorem Node.readsAll {mode : CaptureMode} : (nodes : List Node) →
    (∀ part ∈ nodes, part.isPart) → Node.NormalAll nodes → ∀ {text rest},
    Node.SpellAll mode nodes text rest → bounds? rest = .ok none →
    Reads mode (Node.numbersAll nodes) (Node.depthAll nodes) (·.addParts nodes) text rest
  | [], _, _, _, _, h, _ => by
    obtain rfl := h
    exact .refl mode _
  | node :: nodes, hparts, hnormal, _, _, ⟨mid, hnode, hnodes⟩, hrest => by
    obtain ⟨hpart, hparts⟩ := List.forall_mem_cons.1 hparts
    have hmid := Node.bounds?_of_spellAll hparts hnormal.2 hnodes hrest
    have h := (Node.reads node hnormal.1 hnode hmid).trans
      (Node.readsAll nodes hparts hnormal.2 hnodes hrest)
    simpa only [Function.comp_def, Node.numbersAll, Node.depthAll,
      OpenAlternation.addBranches_of_isPart _ hpart, OpenAlternation.addParts_push] using h

/-- Normal branches are read where they were written with bars between them. -/
theorem Node.readsBranches {mode : CaptureMode} : (nodes : List Node) →
    (∀ branch ∈ nodes, branch.isAlternate = false) → Node.NormalAll nodes → ∀ {text rest},
    Node.SpellBranches mode nodes text rest → bounds? rest = .ok none →
    Reads mode (Node.numbersAll nodes) (Node.depthAll nodes) (·.addBranches nodes) text rest
  | [], _, _, _, _, h, _ => by
    obtain rfl := h
    exact .refl mode _
  | [node], hflat, hnormal, _, _, h, hrest => by
    have h := Node.reads node hnormal.1 h hrest
    simpa [Node.numbersAll, Node.depthAll, OpenAlternation.addBranches,
      OpenAlternation.addBranches_of_isAlternate_eq_false _ (hflat node List.mem_cons_self)]
      using h
  | node :: next :: nodes, hflat, hnormal, _, _, ⟨mid, hnode, hnodes⟩, hrest => by
    obtain ⟨hbranch, hflat⟩ := List.forall_mem_cons.1 hflat
    have h := ((Node.reads node hnormal.1 hnode (bounds?_bar mid)).trans (.bar mode mid)).trans
      (Node.readsBranches (next :: nodes) hflat hnormal.2 hnodes hrest)
    simpa [Function.comp_def, Node.numbersAll, Node.depthAll, OpenAlternation.addBranches,
      OpenAlternation.addBranches_of_isAlternate_eq_false _ hbranch] using h
end

/-- A text that writes a normal pattern is read as that pattern. -/
theorem Pattern.parse_eq_of_spells {mode : CaptureMode} {p : Pattern} (hp : p.Normal mode)
    {text : List Char} (h : p.root.Spells mode text []) : parse mode text = .ok p := by
  have hread := Node.reads p.root hp.root h rfl State.initial
    (by simpa [State.initial] using hp.depth_le) hp.numbered
  have hclose := Node.close_addBranches_branches hp.root
  rw [parse, hread]
  simp only [State.run, State.finish, State.initial, hclose, bind, Except.bind, Nat.zero_add,
    ← hp.groups_eq]

end DeviceRegex
