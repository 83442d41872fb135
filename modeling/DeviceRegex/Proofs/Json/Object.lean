import DeviceRegex.Proofs.Json.Scalar

/-!
# Objects are read back

An object whose values are neither arrays nor objects is read member by member, whatever
blanks stand between its parts.

## Main definitions

* `Json.Member` — a key with a value and a text that writes the value.
* `Json.Spacing` — the blanks before keys, before values and before the closing brace.
* `Json.Spacing.object` — the text of an object.
-/
namespace DeviceRegex.Json

/-- A member of an object: a key, and a value with the text that writes it. -/
structure Member where
  key : String
  text : String
  value : Json
  writes : Writes text.toList value

/-- The member as it is read. -/
def Member.entry (m : Member) : Option String × Json := (some m.key, m.value)

/-- Blanks between the parts of an object. -/
structure Spacing where
  beforeKey : List Char
  beforeValue : List Char
  beforeEnd : List Char
  blank_beforeKey : ∀ c ∈ beforeKey, isBlank c
  blank_beforeValue : ∀ c ∈ beforeValue, isBlank c
  blank_beforeEnd : ∀ c ∈ beforeEnd, isBlank c

namespace Spacing

/-- The text of a member, from the blanks before its key on. -/
def member (sp : Spacing) (m : Member) : List Char :=
  sp.beforeKey ++ (quote m.key).toList ++ ':' :: (sp.beforeValue ++ m.text.toList)

/-- The text behind a value, with the members that follow. -/
def following (sp : Spacing) : List Member → List Char
  | [] => sp.beforeEnd ++ ['}']
  | m :: ms => ',' :: sp.member m ++ sp.following ms

/-- The text of an object with at least one member. -/
def object (sp : Spacing) (m : Member) (ms : List Member) : List Char :=
  '{' :: sp.member m ++ sp.following ms

end Spacing

/-- The members of an object stand between commas. The first blanks before a key may be
taken as part of the separator. -/
theorem Spacing.member_append_following (sp : Spacing) (lead indent : List Char)
    (h : sp.beforeKey = lead ++ indent) (m : Member) (ms : List Member) :
    sp.member m ++ sp.following ms =
      lead ++ ((',' :: lead).intercalate ((m :: ms).map fun m =>
        indent ++ (quote m.key).toList ++ ':' :: (sp.beforeValue ++ m.text.toList)) ++
          (sp.beforeEnd ++ ['}'])) := by
  induction ms generalizing m with
  | nil => simp [member, following, h]
  | cons next ms ih =>
    rw [following, List.cons_append, ih next]
    simp [member, h, List.intercalate_cons_cons]

/-! ## Single steps -/

theorem skipBlanks_append {blanks text : List Char} {c : Char} (h : ∀ d ∈ blanks, isBlank d)
    (hc : isBlank c = false) : skipBlanks (blanks ++ c :: text) = c :: text := by
  rw [skipBlanks, List.dropWhile_append_of_pos h, List.dropWhile_cons_of_neg (by simp [hc])]

theorem skipBlanks_cons {c : Char} (hc : isBlank c = false) (text : List Char) :
    skipBlanks (c :: text) = c :: text := List.dropWhile_cons_of_neg (by simp [hc])

theorem EndsScalar.of_isBlank {c : Char} (h : isBlank c) : EndsScalar c := by
  simp only [isBlank, Bool.or_eq_true, beq_iff_eq] at h
  rcases h with ((rfl | rfl) | rfl) | rfl <;> exact ⟨by decide, by decide, by decide⟩

section
variable {stack : List Frame} {members : List (Option String × Json)} {key key' : Option String}
variable {text inside rest : List Char} {c : Char} {v : Json}

theorem readValue_of_readScalar (h : skipBlanks text = c :: inside) (hc : c ≠ '[' ∧ c ≠ '{')
    (hscalar : readScalar (c :: inside) = some (v, rest)) :
    readValue stack text = complete stack v rest := by
  rw [readValue]
  split
  · rename_i hstart
    cases h.symm.trans hstart
    exact absurd rfl hc.1
  · rename_i hstart
    cases h.symm.trans hstart
    exact absurd rfl hc.2
  · split <;> simp_all

theorem readValue_of_readKey (h : skipBlanks text = '{' :: inside)
    (hkey : readKey inside = some (key, rest)) :
    readValue stack text = readValue (.object [] key :: stack) rest := by
  rw [readValue]
  split
  · simp_all
  · rename_i hstart
    cases h.symm.trans hstart
    split
    · -- a key does not start with a closing brace
      rename_i hclose
      simp [readKey, hclose] at hkey
    · split <;> simp_all
  · simp_all

theorem complete_next (h : skipBlanks text = ',' :: inside)
    (hkey : readKey inside = some (key', rest)) :
    complete (.object members key :: stack) v text =
      readValue (.object ((key, v) :: members) key' :: stack) rest := by
  rw [complete]
  split
  · rename_i hstart
    cases h.symm.trans hstart
    split <;> simp_all
  all_goals simp_all

theorem complete_close (h : skipBlanks text = '}' :: rest) :
    complete (.object members key :: stack) v text =
      complete stack (.object ((key, v) :: members).reverse) rest := by
  rw [complete]
  split <;> simp_all

end

/-! ## Whole objects -/

namespace Spacing
variable (sp : Spacing) (m : Member) (ms : List Member)

/-- The key of a member is read up to its value. -/
theorem readKey_member (text : List Char) :
    readKey (sp.member m ++ text) = some (some m.key, sp.beforeValue ++ (m.text.toList ++ text)) := by
  have hquote : skipBlanks (sp.member m ++ text) =
      '"' :: (m.key.toList.flatMap escapeChar ++
        '"' :: ':' :: (sp.beforeValue ++ (m.text.toList ++ text))) := by
    rw [member, toList_quote, List.append_assoc, List.append_assoc, List.cons_append,
      skipBlanks_append sp.blank_beforeKey (by decide)]
    simp
  have hcolon : isBlank ':' = false := by decide
  simp [readKey, hquote, readString_quote, skipBlanks_cons hcolon]

/-- What follows a value ends it. -/
theorem exists_following_eq_cons (rest : List Char) :
    ∃ c text, sp.following ms ++ rest = c :: text ∧ EndsScalar c := by
  cases ms with
  | nil =>
    cases hblanks : sp.beforeEnd with
    | nil => exact ⟨'}', rest, by simp [following, hblanks], ⟨by decide, by decide, by decide⟩⟩
    | cons c blanks =>
      have hc : isBlank c := sp.blank_beforeEnd c (by simp [hblanks])
      exact ⟨c, blanks ++ '}' :: rest, by simp [following, hblanks], .of_isBlank hc⟩
  | cons m ms => exact ⟨',', _, rfl, ⟨by decide, by decide, by decide⟩⟩

/-- The value of a member is read up to what follows it. -/
theorem readValue_member (stack : List Frame) (rest : List Char) :
    readValue stack (sp.beforeValue ++ (m.text.toList ++ (sp.following ms ++ rest))) =
      complete stack m.value (sp.following ms ++ rest) := by
  obtain ⟨c, text, hfollowing, hc⟩ := sp.exists_following_eq_cons ms rest
  obtain ⟨first, tail, htext, hblank, hfirst⟩ := m.writes.starts
  have hscalar := m.writes.reads c text hc
  rw [hfollowing, htext, List.cons_append]
  rw [htext, List.cons_append] at hscalar
  exact readValue_of_readScalar (skipBlanks_append sp.blank_beforeValue hblank) hfirst hscalar

/-- The members that follow a value are read one after another, up to the closing brace. -/
theorem complete_following (stack : List Frame) (members : List (Option String × Json))
    (key : Option String) (v : Json) (rest : List Char) :
    complete (.object members key :: stack) v (sp.following ms ++ rest) =
      complete stack (.object (((key, v) :: members).reverse ++ ms.map Member.entry)) rest := by
  induction ms generalizing members key v with
  | nil =>
    have hend : skipBlanks (sp.following [] ++ rest) = '}' :: rest := by
      rw [following, List.append_assoc]
      exact skipBlanks_append sp.blank_beforeEnd (by decide)
    rw [complete_close hend, List.map_nil, List.append_nil]
  | cons m ms ih =>
    have hcomma : skipBlanks (sp.following (m :: ms) ++ rest) =
        ',' :: (sp.member m ++ (sp.following ms ++ rest)) := by
      rw [following, List.cons_append, List.cons_append, List.append_assoc]
      exact skipBlanks_cons (by decide) _
    rw [complete_next hcomma (sp.readKey_member m _), sp.readValue_member m ms, ih]
    simp [Member.entry]

/-- **The text of an object is read as the object.** -/
theorem parse_object :
    parse (String.ofList (sp.object m ms)) = some (.object ((m :: ms).map Member.entry)) := by
  have hbrace : skipBlanks (sp.object m ms) = '{' :: (sp.member m ++ (sp.following ms ++ [])) := by
    rw [object, List.append_nil, List.cons_append]
    exact skipBlanks_cons (by decide) _
  have hread : readValue [] (sp.object m ms) =
      some (.object ((m :: ms).map Member.entry), []) := by
    rw [readValue_of_readKey hbrace (sp.readKey_member m _), sp.readValue_member m ms,
      sp.complete_following, complete]
    rfl
  simp [parse, hread, skipBlanks]

end Spacing

end DeviceRegex.Json
