import DeviceRegex.Program.InfoText
import DeviceRegex.Proofs.Json.Object
import DeviceRegex.Proofs.Program.FlagsExchange

/-!
# Facts about programs are read back from JSON text

Both forms of the text are one object with the same members and different blanks, and every
member is read as the value that it was written for.

## Main definitions

* `ProgramInfo.entries` — the members of the object, with the values that they write.
* `ProgramInfo.compact`, `ProgramInfo.pretty` — the blanks of the two forms.
-/
namespace DeviceRegex

namespace ProgramInfo
variable (i : ProgramInfo)

/-! ## The members of the object -/

/-- A member whose value is a string. -/
def stringMember (key value : String) : Json.Member :=
  ⟨key, Json.quote value, .string (some value), Json.writes_quote value⟩

/-- A member whose value is a size. -/
def sizeMember (key : String) (value : Size) : Json.Member :=
  ⟨key, Text.decimal value.toNat, .number (Nat.toDigits 10 value.toNat),
    Json.writes_decimal value.toNat⟩

/-- The members of the object behind the first one, in the order of writing. -/
def otherEntries : List Json.Member :=
  [stringMember "flags" i.flags.exchangeText,
    stringMember "capture" i.capture.name,
    sizeMember "instructions_count" i.instructions,
    sizeMember "groups_count" i.groups,
    stringMember "tier" i.tier.name,
    sizeMember "thread_state_size" i.threadState]

/-- The members of the object, in the order of writing. -/
def entries : List Json.Member := stringMember "pattern" i.pattern :: i.otherEntries

theorem members_eq : i.members = i.entries.map fun m => (m.key, m.text) := rfl

theorem keys_eq : keys = i.entries.map (·.key) := rfl

/-! ## The two forms of the text -/

/-- No blanks. -/
def compact : Json.Spacing := ⟨[], [], [], by simp, by simp, by simp⟩

/-- A line for each member, and a blank before each value. -/
def pretty : Json.Spacing :=
  ⟨['\n', ' ', ' '], [' '], ['\n'], by simp [Json.isBlank], by simp [Json.isBlank],
    by simp [Json.isBlank]⟩

theorem toList_compactText :
    i.compactText.toList = compact.object (stringMember "pattern" i.pattern) i.otherEntries := by
  rw [Json.Spacing.object, List.cons_append, compact.member_append_following [] [] rfl,
    compactText, members_eq, ← entries]
  simp [compact, String.toList_intercalate, Function.comp_def]

theorem toList_prettyText :
    i.prettyText.toList = pretty.object (stringMember "pattern" i.pattern) i.otherEntries := by
  rw [Json.Spacing.object, List.cons_append,
    pretty.member_append_following ['\n'] [' ', ' '] rfl, prettyText, members_eq, ← entries]
  simp [pretty, String.toList_intercalate, Function.comp_def]

/-! ## Reading the members -/

theorem string?_stringMember (key value : String) :
    string? (stringMember key value).value = some value := rfl

theorem size?_sizeMember (key : String) (value : Size) :
    size? (sizeMember key value).value = some value := by
  have hdigits : (Nat.toDigits 10 value.toNat).all Char.isDigit :=
    List.all_eq_true.2 fun c => Nat.isDigit_of_mem_toDigits (by decide) (by decide)
  rw [sizeMember, size?, if_pos hdigits, Nat.ofDigitChars_ten_toDigits]
  exact Size.ofNat?_eq_some_iff.2 rfl

theorem flags?_stringMember (key : String) (flags : Flags) :
    flags? (stringMember key flags.exchangeText).value = some flags :=
  flags.ofExchangeText?_exchangeText

theorem choice?_capture (key : String) (capture : CaptureMode) :
    choice? [.extract, .nonCapture] CaptureMode.name (stringMember key capture.name).value =
      some capture := by
  cases capture <;> rfl

theorem choice?_tier (key : String) (tier : Tier) :
    choice? [.small, .medium, .large] Tier.name (stringMember key tier.name).value = some tier := by
  cases tier <;> rfl

/-- The values of the members give the facts. -/
theorem ofValues?_entries : ofValues? (i.entries.map (·.value)) = some i := by
  simp only [entries, otherEntries, List.map_cons, List.map_nil, ofValues?, string?_stringMember,
    flags?_stringMember, choice?_capture, choice?_tier, size?_sizeMember]
  rfl

/-- Among members with different keys, every key finds the value of its own member. -/
theorem member?_entry {ms : List Json.Member} (hkeys : (ms.map (·.key)).Nodup) {m : Json.Member}
    (hm : m ∈ ms) : member? (ms.map Json.Member.entry) m.key = some m.value := by
  have hfilter : (ms.map Json.Member.entry).filter (·.1 = some m.key) = [m.entry] := by
    induction ms with
    | nil => cases hm
    | cons first ms ih =>
      obtain ⟨hfirst, hrest⟩ := List.nodup_cons.1 hkeys
      rcases List.mem_cons.1 hm with rfl | hm
      · have hnone : (ms.map Json.Member.entry).filter (·.1 = some m.key) = [] := by
          rw [List.filter_eq_nil_iff]
          rintro _ hentry
          obtain ⟨other, hother, rfl⟩ := List.mem_map.1 hentry
          have hne : other.key ≠ m.key := fun heq =>
            hfirst (List.mem_map.2 ⟨other, hother, heq⟩)
          simpa [Json.Member.entry] using hne
        simp [Json.Member.entry, hnone]
      · have hne : first.key ≠ m.key := fun heq =>
          hfirst (List.mem_map.2 ⟨m, hm, heq.symm⟩)
        rw [List.map_cons, List.filter_cons_of_neg (by simpa [Json.Member.entry] using hne)]
        exact ih hrest hm
  rw [member?, hfilter]
  rfl

theorem mapM_member?_entries {ms : List Json.Member} (hkeys : (ms.map (·.key)).Nodup) :
    (ms.map (·.key)).mapM (member? (ms.map Json.Member.entry)) = some (ms.map (·.value)) := by
  have hfind : ∀ m ∈ ms, member? (ms.map Json.Member.entry) m.key = some m.value :=
    fun _ => member?_entry hkeys
  -- the members to look for are a part of those to look in
  generalize ms.map Json.Member.entry = members at hfind
  clear hkeys
  induction ms with
  | nil => rfl
  | cons m ms ih =>
    rw [List.map_cons, List.mapM_cons, hfind m List.mem_cons_self,
      ih fun m hm => hfind m (List.mem_cons_of_mem _ hm)]
    rfl

/-- The object of all members is read as the facts. -/
theorem ofJson?_entries : ofJson? (.object (i.entries.map Json.Member.entry)) = some i := by
  have hstrings : (i.entries.map Json.Member.entry).all (·.1.isSome) := by
    simp [Json.Member.entry]
  have hkeys : (i.entries.map (·.key)).Nodup := by
    rw [← keys_eq]
    decide
  rw [ofJson?, if_pos hstrings, keys_eq i, mapM_member?_entries hkeys]
  exact i.ofValues?_entries

/-- A text of the object, with blanks anywhere between its parts, is read as the facts. -/
theorem parse?_of_toList_eq {sp : Json.Spacing} {text : String}
    (h : text.toList = sp.object (stringMember "pattern" i.pattern) i.otherEntries) :
    parse? text = some i := by
  have htext := String.ofList_toList (s := text)
  rw [h] at htext
  rw [parse?, ← htext, sp.parse_object]
  exact i.ofJson?_entries

/-- **Facts about a program are read back from their text.** Whatever the pattern, the bits
of the flags, the mode, the sizes and the tier are, both forms of the text are read as the
facts for which they were written. In particular facts that were read from any text can be
written and read again. -/
theorem parse?_undoes_writing :
    (∀ i : ProgramInfo, parse? i.compactText = some i ∧ parse? i.prettyText = some i) ∧
      ∀ (text : String) (i : ProgramInfo), parse? text = some i →
        parse? i.compactText = some i ∧ parse? i.prettyText = some i := by
  have hread (i : ProgramInfo) : parse? i.compactText = some i ∧ parse? i.prettyText = some i :=
    ⟨i.parse?_of_toList_eq i.toList_compactText, i.parse?_of_toList_eq i.toList_prettyText⟩
  exact ⟨hread, fun _ i _ => hread i⟩

end ProgramInfo
end DeviceRegex
