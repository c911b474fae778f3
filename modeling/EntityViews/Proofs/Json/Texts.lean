import EntityViews.Proofs.Json.Collapsed
import EntityViews.Source.JsonText
import Mathlib.Tactic.IntervalCases

/-! What the text of a value tells.
A value without numbers is told by its text from all other such values. The text also tells where
it ends, whatever stands behind it, so the texts of items and members tell these one by one.
-/

namespace EntityViews.Json

-----------------------------------------------------------------------------------------
-- Strings in quotes
-----------------------------------------------------------------------------------------

/-- The four digits that are written for a control character are read back. -/
theorem readHex_control {code : Nat} (control : code < 0x20) (rest : List Char)
    : Text.readHex 4 0 ('0' :: '0' :: hexDigit (code / 16) :: hexDigit (code % 16) :: rest)
      = some (code, rest) := by
  interval_cases code <;> rfl

/-- A character is written as it stands, or behind a backslash so that it is read back. -/
theorem escapeChar_cases (c : Char)
    : escapeChar c = [c] ∧ c ≠ '"' ∧ c ≠ '\\' ∧ 0x20 ≤ c.toNat
      ∨ ∃ marked,
          escapeChar c = '\\' :: marked
          ∧ ∀ rest, JsonText.readEscape (marked ++ rest) = some (c, rest) := by
  unfold escapeChar
  split_ifs with quote backslash backspace formFeed lineFeed carriageReturn tab control
  -- Each of the common ones has a letter of its own.
  iterate 7 · exact Or.inr ⟨_, rfl, fun _ => by subst c; rfl⟩
  · refine Or.inr ⟨_, rfl, fun rest => ?_⟩
    simp only [List.cons_append, List.nil_append, JsonText.readEscape, JsonText.readUnicode,
      readHex_control control]
    simp
    omega
  · exact Or.inl ⟨rfl, quote, backslash, Nat.le_of_not_lt control⟩

/-- A written character is the first that is read back. -/
theorem readString_escapeChar (c : Char) (fuel : Nat) (rest : List Char)
    : JsonText.readString (fuel + 1) (escapeChar c ++ rest)
      = (JsonText.readString fuel rest).map fun more => (c :: more.1, more.2) := by
  rcases escapeChar_cases c with ⟨plain, quote, backslash, visible⟩ | ⟨marked, escape, read⟩
  · have control : ¬ c.toNat < 0x20 := Nat.not_lt.mpr visible
    simp [plain, JsonText.readString, quote, backslash, control, Option.map_eq_bind]
  · simp [escape, JsonText.readString, read, Option.map_eq_bind]

/-- The characters in quotes are read back up to the closing one, by induction along them. -/
theorem readString_escaped (chars : List Char) (more : Nat) (rest : List Char)
    : JsonText.readString (chars.length + more + 1) (chars.flatMap escapeChar ++ '"' :: rest)
      = some (chars, rest) := by
  induction chars with
  | nil => rfl
  | cons c chars ih =>
      have fuel : (c :: chars).length + more + 1 = chars.length + more + 1 + 1 := by
        rw [List.length_cons]
        omega
      rw [fuel, List.flatMap_cons, List.append_assoc, readString_escapeChar, ih]
      rfl

theorem toList_quote (text : String) (rest : List Char)
    : (quote text).toList ++ rest
      = '"' :: (text.toList.flatMap escapeChar ++ '"' :: rest) := by
  simp [quote]

/-- A string in quotes tells its characters and where it ends. -/
theorem quote_append_inj {text other : String} {rest further : List Char}
    (same : (quote text).toList ++ rest = (quote other).toList ++ further)
    : text = other ∧ rest = further := by
  have read (text : String) (more : Nat) (rest : List Char)
      : JsonText.readString (text.toList.length + more + 1)
          ((quote text).toList ++ rest).tail
        = some (text.toList, rest) := by
    rw [← readString_escaped text.toList more rest, toList_quote]
    rfl
  have first := read text other.toList.length rest
  have second := read other text.toList.length further
  rw [Nat.add_comm other.toList.length, ← same, first] at second
  obtain ⟨characters, behind⟩ := Prod.mk.inj (Option.some.inj second)
  exact ⟨String.toList_inj.mp characters, behind⟩

-----------------------------------------------------------------------------------------
-- Texts between commas
-----------------------------------------------------------------------------------------

/-- The text of the entry tells it from all others of the sort, and tells where it ends. -/
def Delimited {α : Type} (sort : α → Prop) (text : α → String) (entry : α) : Prop :=
  ∀ other,
    sort other
    → ∀ rest further : List Char,
        (text entry).toList ++ rest = (text other).toList ++ further
        → entry = other ∧ rest = further

/-- Blanks and line breaks, which may stand around entries. -/
def IsGap (gap : List Char) : Prop :=
  ∀ c ∈ gap, c ∈ ['\n', ' ']

/-- What is no gap starts behind a gap as it does without. -/
theorem IsGap.head?_append_ne {gap : List Char} (h : IsGap gap) {c d : Char}
    (visible : c ∉ ['\n', ' ']) (differs : d ≠ c) (tail : List Char)
    : (gap ++ d :: tail).head? ≠ some c := by
  cases gap with
  | nil => simpa using differs
  | cons blank gap =>
      rintro ⟨⟩
      exact visible (h c List.mem_cons_self)

/-- Texts between commas, with a gap before each of them and one behind the last. -/
def enclosed (before behind : List Char) : List String → List Char
  | [] => []
  | first :: others =>
      before ++ first.toList ++ (others.flatMap fun text => ',' :: (before ++ text.toList))
        ++ behind

section Enclosed

variable {α : Type} {sort : α → Prop} {text : α → String} {before behind : List Char}
  {closing : Char} {entries others : List α} {rest further : List Char}

/-- Texts behind commas tell their entries, up to where no comma stands. -/
theorem eq_of_commas (each : ∀ entry ∈ entries, Delimited sort text entry)
    (sorts : ∀ other ∈ others, sort other) (ends : rest.head? ≠ some ',')
    (closes : further.head? ≠ some ',')
    (same
      : (entries.flatMap fun entry => ',' :: (before ++ (text entry).toList)) ++ rest
        = (others.flatMap fun other => ',' :: (before ++ (text other).toList)) ++ further)
    : entries = others ∧ rest = further := by
  induction entries generalizing others with
  | nil =>
      cases others with
      | nil => exact ⟨rfl, same⟩
      | cons other others => exact absurd (congrArg List.head? same) ends
  | cons entry entries ih =>
      cases others with
      | nil => exact absurd (congrArg List.head? same).symm closes
      | cons other others =>
          obtain ⟨first, later⟩ := List.forall_mem_cons.mp each
          obtain ⟨sorted, remaining⟩ := List.forall_mem_cons.mp sorts
          simp only [List.flatMap_cons, List.cons_append, List.append_assoc] at same
          have texts := List.append_cancel_left (List.cons.inj same).2
          obtain ⟨rfl, tails⟩ := first other sorted _ _ texts
          obtain ⟨rfl, behind⟩ := ih later remaining tails
          exact ⟨rfl, behind⟩

/-- Enclosed texts tell their entries, if none of them starts like what closes them. -/
theorem eq_of_enclosed (each : ∀ entry ∈ entries, Delimited sort text entry)
    (known : ∀ entry ∈ entries, sort entry) (sorts : ∀ other ∈ others, sort other)
    (gap : IsGap before) (last : IsGap behind) (visible : closing ∉ ['\n', ' '])
    (comma : closing ≠ ',')
    (opens
      : ∀ entry, sort entry → ∃ c tail, (text entry).toList = c :: tail ∧ c ≠ closing)
    (same
      : enclosed before behind (entries.map text) ++ closing :: rest
        = enclosed before behind (others.map text) ++ closing :: further)
    : entries = others ∧ rest = further := by
  have starts (entry : α) (sorted : sort entry) (texts : List String) (tail : List Char)
      : (enclosed before behind (text entry :: texts) ++ tail).head? ≠ some closing := by
    obtain ⟨c, chars, first, differs⟩ := opens entry sorted
    simp only [enclosed, first, List.append_assoc, List.cons_append]
    exact gap.head?_append_ne visible differs _
  cases entries with
  | nil =>
      cases others with
      | nil => exact ⟨rfl, (List.cons.inj same).2⟩
      | cons other others =>
          have sorted := sorts other List.mem_cons_self
          exact absurd (congrArg List.head? same).symm (starts other sorted _ _)
  | cons entry entries =>
      cases others with
      | nil =>
          have sorted := known entry List.mem_cons_self
          exact absurd (congrArg List.head? same) (starts entry sorted _ _)
      | cons other others =>
          obtain ⟨first, later⟩ := List.forall_mem_cons.mp each
          obtain ⟨sorted, remaining⟩ := List.forall_mem_cons.mp sorts
          simp only [List.map_cons, enclosed, List.flatMap_map, List.append_assoc] at same
          obtain ⟨rfl, tails⟩ := first other sorted _ _ (List.append_cancel_left same)
          have ends (tail : List Char) : (behind ++ closing :: tail).head? ≠ some ',' :=
            last.head?_append_ne (by decide) comma tail
          obtain ⟨rfl, closes⟩ := eq_of_commas later remaining (ends rest) (ends further) tails
          exact ⟨rfl, (List.cons.inj (List.append_cancel_left closes)).2⟩

end Enclosed

-----------------------------------------------------------------------------------------
-- Layouts of texts
-----------------------------------------------------------------------------------------

/-- What stands behind the name of a member. -/
def memberText (colon : String) (text : Json → String) (entry : String × Json) : String :=
  quote entry.1 ++ colon ++ text entry.2

/-- At each level, the text of a value encloses the texts of its items or members at the next, in
gaps that depend on the levels.
-/
structure LaidOut (gap : Nat → List Char) (colon : String) (text : Nat → Json → String)
    : Prop where
  isGap (level : Nat) : IsGap (gap level)
  plain (level : Nat) (value : Json) (array : ∀ items, value ≠ .array items)
    (object : ∀ members, value ≠ .object members)
    : text level value = value.compact
  array (level : Nat) (items : List Json)
    : (text level (.array items)).toList
      = '[' :: (enclosed (gap (level + 1)) (gap level) (items.map (text (level + 1))) ++ [']'])
  object (level : Nat) (members : Members Json)
    : (text level (.object members)).toList
      = '\x7b' :: (enclosed (gap (level + 1)) (gap level)
          (members.map (memberText colon (text (level + 1)))) ++ ['\x7d'])

/-- Behind the first text each one stands behind a separator. -/
theorem toList_intercalate_cons (separator first : String) (texts : List String)
    : (separator.intercalate (first :: texts)).toList
      = first.toList ++ texts.flatMap fun text => separator.toList ++ text.toList := by
  induction texts generalizing first with
  | nil => simp
  | cons next texts ih =>
      rw [String.intercalate_cons_cons, String.toList_append, ih]
      simp

theorem toList_intercalate_comma (texts : List String)
    : (",".intercalate texts).toList = enclosed [] [] texts := by
  cases texts with
  | nil => rfl
  | cons first texts =>
      rw [toList_intercalate_cons]
      simp [enclosed]

/-- On one line there are no gaps. -/
theorem laidOut_compact : LaidOut (fun _ => []) ":" fun _ => compact where
  isGap level := nofun
  plain level value _ _ := rfl
  array level items := by
    rw [compact, compactItems_eq_map, String.toList_append, String.toList_append,
      toList_intercalate_comma]
    rfl
  object level members := by
    have texts : compactMembers members = members.map (memberText ":" compact) :=
      compactMembers_eq_map members
    rw [compact, texts, String.toList_append, String.toList_append, toList_intercalate_comma]
    rfl

theorem isGap_lineAt (level : Nat) : IsGap (lineAt level).toList := by
  intro c member
  rw [lineAt, String.toList_ofList] at member
  rcases List.mem_cons.mp member with rfl | blank
  · decide
  · rw [List.eq_of_mem_replicate blank]
    decide

theorem indentedItems_eq_map (level : Nat) (items : List Json)
    : indentedItems level items = items.map (indented level) := by
  induction items with
  | nil => rfl
  | cons item rest ih => rw [indentedItems, ih, List.map_cons]

theorem indentedMembers_eq_map (level : Nat) (members : Members Json)
    : indentedMembers level members = members.map (memberText ": " (indented level)) := by
  induction members with
  | nil => rfl
  | cons entry rest ih =>
      rw [indentedMembers, ih, List.map_cons]
      rfl

theorem toList_block (opening closing : String) (level : Nat) (entries : List String)
    : (block opening closing level entries).toList
      = opening.toList
        ++ (enclosed (lineAt (level + 1)).toList (lineAt level).toList entries
          ++ closing.toList) := by
  cases entries with
  | nil => simp [block, enclosed]
  | cons first entries =>
      rw [block, if_neg (by simp), String.toList_append, String.toList_append,
        String.toList_append, String.toList_append, toList_intercalate_cons]
      simp [enclosed]

/-- On lines of their own, entries stand behind a line break and as many blanks as the level asks.
-/
theorem laidOut_indented : LaidOut (fun level => (lineAt level).toList) ": " indented where
  isGap := isGap_lineAt
  plain level value array object := by
    cases value with
    | null | number value | string value => rfl
    | boolean value => cases value <;> rfl
    | array items => exact absurd rfl (array items)
    | object members => exact absurd rfl (object members)
  array level items := by
    rw [indented, toList_block, indentedItems_eq_map]
    rfl
  object level members := by
    rw [indented, toList_block, indentedMembers_eq_map]
    rfl

-----------------------------------------------------------------------------------------
-- Values without numbers
-----------------------------------------------------------------------------------------

/-- No number stands anywhere in the value. -/
inductive Numberless : Json → Prop
  | null : Numberless .null
  | boolean (value : Bool) : Numberless (.boolean value)
  | string (value : String) : Numberless (.string value)
  | array {items : List Json} (each : ∀ item ∈ items, Numberless item)
    : Numberless (.array items)
  | object {members : List (String × Json)} (each : ∀ entry ∈ members, Numberless entry.2)
    : Numberless (.object members)

theorem numberless_strings (values : List String) : (strings values).Numberless := by
  refine .array fun item member => ?_
  obtain ⟨value, _, rfl⟩ := List.mem_map.mp member
  exact .string value

theorem numberless_given {α : Type} {name : String} {write : α → Json} {value? : Option α}
    (h : ∀ value, (write value).Numberless)
    : ∀ entry ∈ given name (value?.map write), entry.2.Numberless := by
  cases value? with
  | none => simp [given]
  | some value => exact List.forall_mem_singleton.mpr (h value)

/-- The character that the text of a value starts with, unless it is a number. -/
def opening? : Json → Option Char
  | .null => some 'n'
  | .boolean true => some 't'
  | .boolean false => some 'f'
  | .number _ => none
  | .string _ => some '"'
  | .array _ => some '['
  | .object _ => some '\x7b'

namespace LaidOut

variable {gap : Nat → List Char} {colon : String} {text : Nat → Json → String}

theorem string (laid : LaidOut gap colon text) (level : Nat) (value : String)
    : text level (.string value) = quote value :=
  laid.plain level (.string value) nofun nofun

/-- A text starts with the character that its value opens with. -/
theorem exists_opening (laid : LaidOut gap colon text) {value : Json} (h : value.Numberless)
    (level : Nat)
    : ∃ c tail, value.opening? = some c ∧ (text level value).toList = c :: tail := by
  cases h with
  | null => exact ⟨'n', _, rfl, by rw [laid.plain level .null nofun nofun]; rfl⟩
  | boolean value =>
      rw [laid.plain level (.boolean value) nofun nofun]
      cases value <;> exact ⟨_, _, rfl, rfl⟩
  | string value =>
      rw [laid.string, ← List.append_nil (quote value).toList]
      exact ⟨'"', _, rfl, toList_quote value []⟩
  | array each => exact ⟨'[', _, rfl, laid.array level _⟩
  | object each => exact ⟨'\x7b', _, rfl, laid.object level _⟩

/-- Values whose texts start the same open alike. -/
theorem opening?_eq (laid : LaidOut gap colon text) {value other : Json} (h : value.Numberless)
    (ho : other.Numberless) {level : Nat} {rest further : List Char}
    (same : (text level value).toList ++ rest = (text level other).toList ++ further)
    : value.opening? = other.opening? := by
  obtain ⟨c, tail, opens, wording⟩ := laid.exists_opening h level
  obtain ⟨d, more, begins, words⟩ := laid.exists_opening ho level
  rw [wording, words] at same
  rw [opens, begins, (List.cons.inj same).1]

/-- No value opens like the end of an array. -/
theorem exists_cons_ne (laid : LaidOut gap colon text) {value : Json} (h : value.Numberless)
    (level : Nat)
    : ∃ c tail, (text level value).toList = c :: tail ∧ c ≠ ']' := by
  obtain ⟨c, tail, opens, wording⟩ := laid.exists_opening h level
  refine ⟨c, tail, wording, ?_⟩
  rintro rfl
  cases h with
  | boolean value => cases value <;> simp [opening?] at opens
  | null | string | array | object => simp [opening?] at opens

/-- A member is told by its text if its value is. -/
theorem delimited_memberText {level : Nat} {entry : String × Json}
    (h : Delimited Numberless (text level) entry.2)
    : Delimited (fun other => other.2.Numberless) (memberText colon (text level)) entry := by
  intro other numberless rest further same
  simp only [memberText, String.toList_append, List.append_assoc] at same
  obtain ⟨name, behind⟩ := quote_append_inj same
  obtain ⟨value, rest⟩ := h other.2 numberless _ _ (List.append_cancel_left behind)
  exact ⟨Prod.ext name value, rest⟩

/-- The text of a member starts with a quote. -/
theorem exists_cons_memberText (colon : String) (text : Json → String) (entry : String × Json)
    : ∃ c tail, (memberText colon text entry).toList = c :: tail ∧ c ≠ '\x7d' := by
  rw [memberText, String.append_assoc, String.toList_append, toList_quote]
  exact ⟨'"', _, rfl, by decide⟩

/-- An array is told by its text if its items are. -/
theorem delimited_array (laid : LaidOut gap colon text) {level : Nat} {items : List Json}
    (each : ∀ item ∈ items, item.Numberless)
    (told : ∀ item ∈ items, Delimited Numberless (text (level + 1)) item)
    : Delimited Numberless (text level) (.array items) := by
  intro other numberless rest further same
  have opens := laid.opening?_eq (.array each) numberless same
  cases numberless with
  | @array others sorts =>
      rw [laid.array, laid.array, List.cons_append, List.cons_append, List.append_assoc,
        List.append_assoc] at same
      obtain ⟨rfl, behind⟩ := eq_of_enclosed told each sorts (laid.isGap _) (laid.isGap _)
        (by decide) (by decide) (fun _ numberless => laid.exists_cons_ne numberless _)
        (List.cons.inj same).2
      exact ⟨rfl, behind⟩
  | boolean value => cases value <;> simp [opening?] at opens
  | null | string | object => simp [opening?] at opens

/-- An object is told by its text if its values are. -/
theorem delimited_object (laid : LaidOut gap colon text) {level : Nat} {members : Members Json}
    (each : ∀ entry ∈ members, entry.2.Numberless)
    (told : ∀ entry ∈ members, Delimited Numberless (text (level + 1)) entry.2)
    : Delimited Numberless (text level) (.object members) := by
  intro other numberless rest further same
  have opens := laid.opening?_eq (.object each) numberless same
  cases numberless with
  | @object others sorts =>
      rw [laid.object, laid.object, List.cons_append, List.cons_append, List.append_assoc,
        List.append_assoc] at same
      obtain ⟨rfl, behind⟩ := eq_of_enclosed
        (fun entry member => delimited_memberText (told entry member)) each sorts
        (laid.isGap _) (laid.isGap _) (by decide) (by decide)
        (fun entry _ => exists_cons_memberText colon (text (level + 1)) entry)
        (List.cons.inj same).2
      exact ⟨rfl, behind⟩
  | boolean value => cases value <;> simp [opening?] at opens
  | null | string | array => simp [opening?] at opens

/-- A value without numbers is told by its text, and so is the end of that text, by induction over
the value: values of other kinds open otherwise.
-/
theorem delimited (laid : LaidOut gap colon text) {value : Json} (h : value.Numberless)
    (level : Nat)
    : Delimited Numberless (text level) value := by
  induction h generalizing level with
  | null =>
      intro other numberless rest further same
      have opens := laid.opening?_eq .null numberless same
      cases numberless with
      | null => exact ⟨rfl, List.append_cancel_left same⟩
      | boolean value => cases value <;> simp [opening?] at opens
      | string | array | object => simp [opening?] at opens
  | boolean value =>
      intro other numberless rest further same
      have opens := laid.opening?_eq (.boolean value) numberless same
      cases numberless with
      | boolean another =>
          obtain rfl : value = another := by
            cases value <;> cases another <;> first | rfl | simp [opening?] at opens
          exact ⟨rfl, List.append_cancel_left same⟩
      | null | string | array | object => cases value <;> simp [opening?] at opens
  | string value =>
      intro other numberless rest further same
      have opens := laid.opening?_eq (.string value) numberless same
      cases numberless with
      | string another =>
          rw [laid.string, laid.string] at same
          obtain ⟨characters, behind⟩ := quote_append_inj same
          exact ⟨congrArg Json.string characters, behind⟩
      | boolean value => cases value <;> simp [opening?] at opens
      | null | array | object => simp [opening?] at opens
  | array each ih => exact laid.delimited_array each fun item member => ih item member _
  | object each ih => exact laid.delimited_object each fun entry member => ih entry member _

end LaidOut

variable {value other : Json}

/-- Values without numbers have different texts if they differ. -/
theorem Numberless.compact_inj (h : value.Numberless) (ho : other.Numberless)
    : value.compact = other.compact ↔ value = other :=
  ⟨fun same => (laidOut_compact.delimited h 0 other ho [] [] (by rw [same])).1,
    congrArg compact⟩

/-- Values without numbers have different indented texts if they differ. -/
theorem Numberless.pretty_inj (h : value.Numberless) (ho : other.Numberless)
    : value.pretty = other.pretty ↔ value = other :=
  ⟨fun same => (laidOut_indented.delimited h 0 other ho [] []
      (congrArg (fun text => text.toList ++ []) same)).1,
    congrArg pretty⟩

end EntityViews.Json
