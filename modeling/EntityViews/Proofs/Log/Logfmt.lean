import EntityViews.Log.Event
import Mathlib.Data.List.Basic

/-! Log lines of keys and values, read back.
A reader skips three words and takes the quoted text behind them for the message; a backslash
there stands before a character that is meant as it is. Only the quotes of a message are marked
so, hence it is read back exactly if it holds no backslash.
-/

namespace EntityViews.Log

namespace Logfmt

/-- What a quoted text says, from behind its opening quote on. The first quote without a backslash
before it has to be the last character.
-/
def readQuoted : List Char → Option (List Char)
  | [] => none
  | c :: rest =>
      if c = '"' then if rest = [] then some [] else none
      else if c = '\\' then
        match rest with
        | [] => none
        | meant :: rest => (readQuoted rest).map (meant :: ·)
      else (readQuoted rest).map (c :: ·)

/-- The text behind its first word and the blank after it. -/
def skipWord (chars : List Char) : List Char :=
  (chars.dropWhile (· ≠ ' ')).drop 1

/-- The message of a line: the quoted value of its fourth word, up to the end of the line. -/
def message? (line : String) : Option String :=
  ((skipWord (skipWord (skipWord line.toList))).dropPrefix? "message=\"".toList).bind
    fun value => (readQuoted value).map String.ofList

end Logfmt

/-- Whether a character ends a line. -/
def isBreak (c : Char) : Bool :=
  c = '\n' || c = '\r'

/-- Whether a character is a control character. -/
def isControl (c : Char) : Bool :=
  c.toNat < 0x20 || (0x7F ≤ c.toNat && c.toNat ≤ 0x9F)

/-- No blank and no control character is in the name, as in those of the parts of a program. -/
def IsPlainName (name : String) : Prop :=
  ∀ c ∈ name.toList, c ≠ ' ' ∧ isControl c = false

namespace Logfmt

/-- The characters of a message with a backslash before each quote. -/
def escaped (message : List Char) : List Char :=
  message.flatMap fun c => if c = '"' then ['\\', '"'] else [c]

/-- What a reader takes a message for. Its backslashes are lost; one of them hides the quote at the
end if it is the last character, and shows a quote if it stands before one.
-/
def takenFor : List Char → Option (List Char)
  | [] => some []
  | c :: rest =>
      if c = '\\' then
        match rest with
        | [] => none
        | next :: rest => if next = '"' then none else (takenFor rest).map (next :: ·)
      else (takenFor rest).map (c :: ·)

theorem escaped_cons (c : Char) (rest : List Char)
    : escaped (c :: rest) = (if c = '"' then ['\\', '"'] else [c]) ++ escaped rest :=
  List.flatMap_cons

theorem readQuoted_closing (c : Char) (rest : List Char)
    : readQuoted ('"' :: c :: rest) = none := by
  simp [readQuoted]

theorem readQuoted_marked (meant : Char) (rest : List Char)
    : readQuoted ('\\' :: meant :: rest) = (readQuoted rest).map (meant :: ·) := by
  simp [readQuoted]

theorem readQuoted_plain {c : Char} (unquoted : c ≠ '"') (unmarked : c ≠ '\\')
    (rest : List Char)
    : readQuoted (c :: rest) = (readQuoted rest).map (c :: ·) := by
  cases rest <;> simp [readQuoted, unquoted, unmarked]

theorem takenFor_plain {c : Char} (unmarked : c ≠ '\\') (rest : List Char)
    : takenFor (c :: rest) = (takenFor rest).map (c :: ·) := by
  cases rest <;> simp [takenFor, unmarked]

/-- Every message is read as what it is taken for, by induction along the message. -/
theorem readQuoted_escaped (message : List Char)
    : readQuoted (escaped message ++ ['"']) = takenFor message := by
  fun_induction takenFor message with
  | case1 => rfl
  | case2 => rfl
  | case3 rest =>
      obtain ⟨next, others, behind⟩ := List.exists_cons_of_ne_nil
        (List.append_ne_nil_of_right_ne_nil (escaped rest) (List.cons_ne_nil '"' []))
      simp [escaped_cons, readQuoted_marked, behind, readQuoted_closing]
  | case4 next rest unquoted ih => simp [escaped_cons, readQuoted_marked, unquoted, ih]
  | case5 c rest unmarked ih =>
      by_cases quote : c = '"'
      · simp [escaped_cons, readQuoted_marked, quote, ih]
      · simp [escaped_cons, readQuoted_plain quote unmarked, quote, ih]

/-- A message is taken for nothing longer than itself, by induction along the message. -/
theorem length_le_of_takenFor {message taken : List Char} (h : takenFor message = some taken)
    : taken.length ≤ message.length := by
  fun_induction takenFor message generalizing taken with
  | case1 => exact Option.some.inj h ▸ Nat.le_refl _
  | case2 => contradiction
  | case3 => contradiction
  | case4 next rest unquoted ih =>
      obtain ⟨text, found, rfl⟩ := Option.map_eq_some_iff.mp h
      exact Nat.le_succ_of_le (Nat.succ_le_succ (ih found))
  | case5 c rest unmarked ih =>
      obtain ⟨text, found, rfl⟩ := Option.map_eq_some_iff.mp h
      exact Nat.succ_le_succ (ih found)

/-- A message is taken for itself exactly if it holds no backslash: where one is lost, what is
found is shorter.
-/
theorem takenFor_eq_self_iff {message : List Char}
    : takenFor message = some message ↔ '\\' ∉ message := by
  induction message with
  | nil => simp [takenFor]
  | cons c rest ih =>
      by_cases marked : c = '\\'
      · subst marked
        simp only [List.mem_cons, true_or, not_true, iff_false]
        intro same
        cases rest with
        | nil => contradiction
        | cons next rest =>
            simp only [takenFor, if_true] at same
            split at same
            · contradiction
            · obtain ⟨text, found, shown⟩ := Option.map_eq_some_iff.mp same
              obtain ⟨-, rfl⟩ := List.cons.inj shown
              exact absurd (length_le_of_takenFor found) (Nat.not_succ_le_self rest.length)
      · have other : '\\' ≠ c := Ne.symm marked
        simp [takenFor_plain marked, other, ih]

/-- No line break is added to a message by its backslashes, nor one of its own changed. -/
theorem filter_isBreak_escaped (message : List Char)
    : (escaped message).filter isBreak = message.filter isBreak := by
  induction message with
  | nil => rfl
  | cons c rest ih =>
      rw [escaped_cons, List.filter_append, ih]
      split
      · rename_i quote
        subst quote
        rfl
      · rw [← List.filter_append]
        rfl

end Logfmt

/-- No blank and no line break is among the characters. -/
def IsWord (chars : List Char) : Prop :=
  ∀ c ∈ chars, c ≠ ' ' ∧ isBreak c = false

theorem isWord_append_iff {first second : List Char}
    : IsWord (first ++ second) ↔ IsWord first ∧ IsWord second :=
  List.forall_mem_append

theorem IsWord.filter_isBreak {word : List Char} (h : IsWord word) (rest : List Char)
    : (word ++ rest).filter isBreak = rest.filter isBreak := by
  have unbroken : word.filter isBreak = [] :=
    List.filter_eq_nil_iff.mpr fun c member => by simp [(h c member).2]
  rw [List.filter_append, unbroken, List.nil_append]

theorem IsWord.skipWord {word : List Char} (h : IsWord word) (rest : List Char)
    : Logfmt.skipWord (word ++ ' ' :: rest) = rest := by
  have letters : ∀ c ∈ word, decide (c ≠ ' ') = true := fun c member => by simp [(h c member).1]
  rw [Logfmt.skipWord, List.dropWhile_append_of_pos letters]
  rfl

theorem isWord_of_isDigit {chars : List Char} (h : ∀ c ∈ chars, c.isDigit = true)
    : IsWord chars := by
  intro c member
  have digit := h c member
  refine ⟨by rintro rfl; contradiction, ?_⟩
  refine Bool.eq_false_iff.mpr fun line => ?_
  have ends : c = '\n' ∨ c = '\r' := by simpa [isBreak] using line
  rcases ends with rfl | rfl <;> contradiction

/-- Numbers are written in digits. -/
theorem isWord_padded (width value : Nat) : IsWord (Text.padded width value).toList := by
  refine isWord_of_isDigit fun c member => ?_
  simp only [Text.padded, String.toList_ofList, List.mem_append] at member
  rcases member with filled | digit
  · exact (List.mem_replicate.mp filled).2 ▸ rfl
  · exact Nat.isDigit_of_mem_toDigits (by decide) (by decide) digit

theorem isWord_dateText (time : Timestamp) : IsWord time.dateText.toList := by
  have year (year : Int) : IsWord (Timestamp.yearText year).toList := by
    unfold Timestamp.yearText
    split
    · exact isWord_padded 4 _
    · rw [String.toList_append, isWord_append_iff]
      refine ⟨?_, isWord_padded 4 _⟩
      split <;> simp [IsWord, isBreak]
  have hyphen : IsWord "-".toList := by simp [IsWord, isBreak]
  simp only [Timestamp.dateText, String.toList_append, isWord_append_iff, toString]
  exact ⟨⟨⟨⟨year _, hyphen⟩, isWord_padded 2 _⟩, hyphen⟩, isWord_padded 2 _⟩

theorem isWord_clockText (time : Timestamp) : IsWord time.clockText.toList := by
  have colon : IsWord ":".toList := by simp [IsWord, isBreak]
  simp only [Timestamp.clockText, String.toList_append, isWord_append_iff, toString]
  exact ⟨⟨⟨⟨isWord_padded 2 _, colon⟩, isWord_padded 2 _⟩, colon⟩, isWord_padded 2 _⟩

theorem isWord_fractionText (time : Timestamp) : IsWord time.fractionText.toList := by
  have point : IsWord ".".toList := by simp [IsWord, isBreak]
  have behindPoint (width value : Nat) : IsWord ("." ++ Text.padded width value).toList := by
    rw [String.toList_append, isWord_append_iff]
    exact ⟨point, isWord_padded width value⟩
  unfold Timestamp.fractionText
  dsimp only
  split
  · simp [IsWord]
  · split
    · exact behindPoint 3 _
    · split
      · exact behindPoint 6 _
      · exact behindPoint 9 _

/-- A time is written as one word. -/
theorem isWord_exact (time : Timestamp) : IsWord time.exact.toList := by
  have mark : IsWord "T".toList := by simp [IsWord, isBreak]
  have offset : IsWord "+00:00".toList := by simp [IsWord, isBreak]
  simp only [Timestamp.exact, String.toList_append, isWord_append_iff]
  exact ⟨⟨⟨⟨isWord_dateText time, mark⟩, isWord_clockText time⟩, isWord_fractionText time⟩, offset⟩

/-- A plain name is one word. -/
theorem IsPlainName.isWord {name : String} (h : IsPlainName name) : IsWord name.toList := by
  intro c member
  obtain ⟨visible, printed⟩ := h c member
  refine ⟨visible, Bool.eq_false_iff.mpr fun line => ?_⟩
  have ends : c = '\n' ∨ c = '\r' := by simpa [isBreak] using line
  rcases ends with rfl | rfl <;> contradiction

theorem isWord_stampPair (time : Timestamp)
    : IsWord ("timestamp=".toList ++ time.exact.toList) :=
  isWord_append_iff.mpr ⟨by simp [IsWord, isBreak], isWord_exact time⟩

theorem isWord_levelPair (severity : Severity)
    : IsWord ("level=".toList ++ severity.label.toList) := by
  refine isWord_append_iff.mpr ⟨by simp [IsWord, isBreak], ?_⟩
  cases severity <;> simp [Severity.label, IsWord, isBreak]

theorem isWord_targetPair {target : String} (plain : IsPlainName target)
    : IsWord ("target=".toList ++ target.toList) :=
  isWord_append_iff.mpr ⟨by simp [IsWord, isBreak], plain.isWord⟩

namespace Entry

variable (entry : Entry) (time : Timestamp)

theorem lineWith_logfmt (stamp : String)
    : entry.lineWith stamp .logfmt
      = "timestamp=" ++ stamp ++ " level=" ++ entry.severity.label ++ " target=" ++ entry.target
        ++ " message=" ++ "\"" ++ escapeQuotes entry.message ++ "\"" :=
  rfl

/-- A line is made of three words and the message in quotes. -/
theorem toList_line_logfmt
    : (entry.line time .logfmt).toList
      = ("timestamp=".toList ++ time.exact.toList)
        ++ ' ' :: (("level=".toList ++ entry.severity.label.toList)
        ++ ' ' :: (("target=".toList ++ entry.target.toList)
        ++ ' ' :: ("message=\"".toList ++ (Logfmt.escaped entry.message.toList ++ ['"'])))) := by
  have level : " level=".toList = ' ' :: "level=".toList := by simp
  have target : " target=".toList = ' ' :: "target=".toList := by simp
  have opening : " message=".toList ++ "\"".toList = ' ' :: "message=\"".toList := by simp
  have closing : "\"".toList = ['"'] := by simp
  have quoted : (escapeQuotes entry.message).toList = Logfmt.escaped entry.message.toList :=
    String.toList_ofList
  rw [line, lineWith_logfmt]
  simp only [LineFormat.stamp, String.toList_append]
  rw [quoted, level, target, List.append_assoc _ " message=".toList, opening, closing]
  simp only [List.append_assoc, List.cons_append]

variable {entry time} (plain : IsPlainName entry.target)

include plain

/-- Behind its three words a line holds the message in quotes. -/
theorem message?_line_logfmt
    : Logfmt.message? (entry.line time .logfmt)
      = (Logfmt.takenFor entry.message.toList).map String.ofList := by
  have opened (quoted : List Char)
      : ("message=\"".toList ++ quoted).dropPrefix? "message=\"".toList = some quoted :=
    List.dropPrefix?_eq_some_iff.mpr ⟨_, rfl, BEq.rfl⟩
  rw [Logfmt.message?, toList_line_logfmt, (isWord_stampPair time).skipWord,
    (isWord_levelPair entry.severity).skipWord, (isWord_targetPair plain).skipWord, opened,
    Option.bind_some, Logfmt.readQuoted_escaped]

/-- A line breaks where its message does. -/
theorem filter_isBreak_line_logfmt
    : (entry.line time .logfmt).toList.filter isBreak
      = entry.message.toList.filter isBreak := by
  have blank (rest : List Char) : (' ' :: rest).filter isBreak = rest.filter isBreak := rfl
  have key : IsWord "message=\"".toList := by simp [IsWord, isBreak]
  have closing : ['"'].filter isBreak = [] := rfl
  rw [toList_line_logfmt, (isWord_stampPair time).filter_isBreak, blank,
    (isWord_levelPair entry.severity).filter_isBreak, blank,
    (isWord_targetPair plain).filter_isBreak, blank, key.filter_isBreak, List.filter_append,
    Logfmt.filter_isBreak_escaped, closing, List.append_nil]

/-- A line breaks just where its message does, and the message is read back from it exactly if no
backslash is in it.
-/
theorem line_readsBack
    : (entry.line time .logfmt).toList.filter isBreak = entry.message.toList.filter isBreak
      ∧ (Logfmt.message? (entry.line time .logfmt) = some entry.message
        ↔ '\\' ∉ entry.message.toList) := by
  refine ⟨filter_isBreak_line_logfmt plain, ?_⟩
  rw [message?_line_logfmt plain, ← Logfmt.takenFor_eq_self_iff, Option.map_eq_some_iff]
  constructor
  · intro reads
    obtain ⟨taken, found, same⟩ := reads
    obtain rfl : taken = entry.message.toList := by rw [← same, String.toList_ofList]
    exact found
  · exact fun found => ⟨_, found, String.ofList_toList⟩

end Entry

theorem isPlainName_target (event : Event) : IsPlainName event.target := by
  cases event <;> simp [Event.target, IsPlainName, isControl]

/-- A depth in quotes is read back as it is noted. A path in its place is not, and a line break in
its place breaks the line.
-/
theorem depthIgnored_readsBack
    : Logfmt.message? ((Event.depthIgnored "\"two\"").entry.line ⟨0, 0⟩ .logfmt)
        = some (Event.depthIgnored "\"two\"").message
      ∧ Logfmt.message? ((Event.depthIgnored "C:\\").entry.line ⟨0, 0⟩ .logfmt)
        ≠ some (Event.depthIgnored "C:\\").message
      ∧ ((Event.depthIgnored "2\n").entry.line ⟨0, 0⟩ .logfmt).toList.filter isBreak
        = ['\n'] := by
  have said (text : String)
      : (Event.depthIgnored text).entry.message
        = "Ignoring SCHEMATA_MAX_DEPTH=" ++ text ++ ": not a number" :=
    rfl
  have plain (text : String) : IsPlainName (Event.depthIgnored text).entry.target :=
    isPlainName_target (.depthIgnored text)
  refine ⟨(Entry.line_readsBack (plain "\"two\"")).2.mpr ?quotes,
    mt (Entry.line_readsBack (plain "C:\\")).2.mp ?path,
    (Entry.line_readsBack (plain "2\n")).1.trans ?line⟩
  case quotes => rw [said]; simp
  case path => rw [said]; simp
  case line => rw [said]; simp [isBreak]

end EntityViews.Log
