import EntityViews.Proofs.Source.Records
import EntityViews.Proofs.Source.Tables
import EntityViews.Settings.File
import Mathlib

/-! Where each setting comes from.
The environment goes before the file and the file before the default, for every setting on its
own and whatever else the file holds.
-/

namespace EntityViews

open Source

/-- The settings that a file gives; it may leave out any of them. -/
structure GivenSettings where
  maxDepth? : Option Nat := none
  fileMark? : Option String := none
  level? : Option String := none
  format? : Option String := none

/-- A table gives these settings under their headings, of which it may leave out any. Whatever
else stands there makes no difference.
-/
structure GivenSettings.WrittenIn (given : GivenSettings) (table : Members Source) : Prop where
  views
    : ∃ part? : Option (Members Source),
        table.lookup "schema" = part?.map (fun part => .object part true)
        ∧ (part?.getD []).lookup "max_depth"
          = given.maxDepth?.map (fun depth => .integer depth)
        ∧ (part?.getD []).lookup "file_annotation_key" = given.fileMark?.map .string
  log
    : ∃ part? : Option (Members Source),
        table.lookup "logging" = part?.map (fun part => .object part true)
        ∧ (part?.getD []).lookup "level" = given.level?.map .string
        ∧ (part?.getD []).lookup "format" = given.format?.map .string
  fits : ∀ depth, given.maxDepth? = some depth → depth < Nat.pow 2 64

/-- What a file gives: nothing if it is absent, else what the table of its text gives. -/
inductive GivenSettings.FoundAt (files : Files) (path : String) : GivenSettings → Prop where
  | absent {problem : FileError} (h : files path = .missing problem) : FoundAt files path {}
  | table {text : String} {table : Members Source} {given : GivenSettings}
    (h : files path = .text text) (read : Reading.ofText .toml text = ⟨.object table true, true⟩)
    (written : given.WrittenIn table)
    : FoundAt files path given

/-- The settings that a file gives, with the defaults for what it leaves out. -/
def GivenSettings.orDefault (given : GivenSettings) : Settings :=
  {
    views := {
      maxDepth? := given.maxDepth?,
      fileMark := given.fileMark?.getD "customSwaggerProps"
    },
    log := { level := given.level?.getD "warn", format := given.format?.getD "human" }
  }

variable {part table : Members Source} {given : GivenSettings}

theorem readOptional_readSize {depth : Nat} (fits : depth < Nat.pow 2 64)
    : readOptional readSize (.integer depth) = .ok (some depth) := by
  have admitted : 0 ≤ (depth : Int) ∧ (depth : Int).toNat < Nat.pow 2 64 :=
    ⟨Int.natCast_nonneg depth, fits⟩
  simp only [readOptional, readSize, if_pos admitted]
  rfl

theorem ViewSettings.readNamed_depth (settings : ViewSettings) {depth : Nat}
    (fits : depth < Nat.pow 2 64)
    : record.readNamed settings ("max_depth", .integer depth)
      = .ok { settings with maxDepth? := some depth } := by
  simp [record, Record.readNamed, readOptional_readSize fits]

theorem ViewSettings.read_record (names : part.names.Nodup)
    (depth : part.lookup "max_depth" = given.maxDepth?.map (fun depth => .integer depth))
    (fits : ∀ depth, given.maxDepth? = some depth → depth < Nat.pow 2 64)
    (mark : part.lookup "file_annotation_key" = given.fileMark?.map .string)
    : record.read .toml {} (.object part true) = .ok given.orDefault.views := by
  obtain ⟨⟨maxDepth?, fileMark⟩, read⟩ :
      ∃ settings, record.read .toml {} (.object part true) = .ok settings := by
    refine Record.exists_read rfl names fun field member source found state => ?_
    simp only [record, List.mem_cons, List.not_mem_nil, or_false] at member
    obtain rfl | rfl := member
    · obtain ⟨depth, given, rfl⟩ := Option.map_eq_some_iff.mp (depth ▸ found)
      exact ⟨_, by simp only [readOptional_readSize (fits depth given)]; rfl⟩
    · obtain ⟨mark, given, rfl⟩ := Option.map_eq_some_iff.mp (mark ▸ found)
      exact ⟨_, rfl⟩
  have depthRead : maxDepth? = (given.maxDepth?.map some).getD none := by
    refine Record.part_of_read ViewSettings.maxDepth? some ?_ ?_ names depth read
    · simp +contextual [record, Except.bind_eq_ok_iff]
    · intro depth state later given h
      rw [readNamed_depth state (fits depth given)] at h
      exact Except.ok.inj h ▸ rfl
  have markRead : fileMark = (given.fileMark?.map id).getD "customSwaggerProps" := by
    refine Record.part_of_read ViewSettings.fileMark id ?_ ?_ names mark read
    · simp +contextual [record, Except.bind_eq_ok_iff]
    · simp +contextual [record, Record.readNamed, readText]
  rw [read, depthRead, markRead]
  cases depth : given.maxDepth? <;> simp [GivenSettings.orDefault, depth]

theorem LogSettings.read_record (names : part.names.Nodup)
    (level : part.lookup "level" = given.level?.map .string)
    (format : part.lookup "format" = given.format?.map .string)
    : record.read .toml {} (.object part true) = .ok given.orDefault.log := by
  obtain ⟨⟨levelRead, formatRead⟩, read⟩ :
      ∃ settings, record.read .toml {} (.object part true) = .ok settings := by
    refine Record.exists_read rfl names fun field member source found state => ?_
    simp only [record, List.mem_cons, List.not_mem_nil, or_false] at member
    obtain rfl | rfl := member
    · obtain ⟨level, given, rfl⟩ := Option.map_eq_some_iff.mp (level ▸ found)
      exact ⟨_, rfl⟩
    · obtain ⟨format, given, rfl⟩ := Option.map_eq_some_iff.mp (format ▸ found)
      exact ⟨_, rfl⟩
  have levelRead : levelRead = (given.level?.map id).getD "warn" := by
    refine Record.part_of_read LogSettings.level id ?_ ?_ names level read
    · simp +contextual [record, Except.bind_eq_ok_iff]
    · simp +contextual [record, Record.readNamed, readText]
  have formatRead : formatRead = (given.format?.map id).getD "human" := by
    refine Record.part_of_read LogSettings.format id ?_ ?_ names format read
    · simp +contextual [record, Except.bind_eq_ok_iff]
    · simp +contextual [record, Record.readNamed, readText]
  rw [read, levelRead, formatRead]
  simp [GivenSettings.orDefault]

theorem Text.numberOf_eq_ofDigitChars {digits : List Char} (h : ∀ c ∈ digits, c.isDigit)
    : numberOf 10 digits = Nat.ofDigitChars 10 digits 0 := by
  rw [Nat.ofDigitChars_eq_foldl]
  refine List.foldl_ext _ _ _ fun value c member => ?_
  have digit : '0' ≤ c ∧ c ≤ '9' := by simpa [Char.isDigit, Char.le_def] using h c member
  rw [hexValue?, if_pos digit, Option.getD_some]

/-- Digits that write a size: there are some, all of them decimal, and the size fits 64 bits. -/
structure WritesSize (digits : List Char) (size : Nat) : Prop where
  nonempty : digits ≠ []
  decimal : ∀ c ∈ digits, c.isDigit
  value : Nat.ofDigitChars 10 digits 0 = size
  fits : size < Nat.pow 2 64

theorem decimalSize?_eq_some_iff {digits : List Char} {size : Nat}
    : decimalSize? digits = some size ↔ WritesSize digits size := by
  simp only [decimalSize?, Option.ite_none_left_eq_some, not_or, Option.ite_none_right_eq_some,
    Option.some.injEq, List.isEmpty_iff, Bool.not_eq_true', Bool.not_eq_false, List.all_eq_true]
  constructor
  · intro read
    obtain ⟨⟨nonempty, decimal⟩, fits, rfl⟩ := read
    exact ⟨nonempty, decimal, (Text.numberOf_eq_ofDigitChars decimal).symm, fits⟩
  · intro written
    obtain ⟨nonempty, decimal, rfl, fits⟩ := written
    rw [Text.numberOf_eq_ofDigitChars decimal]
    exact ⟨⟨nonempty, decimal⟩, fits, rfl⟩

/-- A word is read as a size exactly if digits write that size, perhaps behind a plus. -/
theorem parseSize?_eq_some_iff {word : String} {size : Nat}
    : parseSize? word = some size
      ↔ ∃ digits,
          (word.toList = digits ∨ word.toList = '+' :: digits) ∧ WritesSize digits size := by
  unfold parseSize?
  split
  · rename_i rest signed
    rw [decimalSize?_eq_some_iff, signed]
    constructor
    · intro written
      exact ⟨rest, .inr rfl, written⟩
    · intro found
      obtain ⟨digits, rfl | same, written⟩ := found
      -- A plus is no digit.
      · have sign := written.decimal '+' List.mem_cons_self
        contradiction
      · exact (List.cons.inj same).2 ▸ written
  · rename_i unsigned
    rw [decimalSize?_eq_some_iff]
    constructor
    · intro written
      exact ⟨word.toList, .inl rfl, written⟩
    · intro found
      obtain ⟨digits, rfl | signed, written⟩ := found
      · exact written
      · exact absurd signed (unsigned digits)

/-- The decimal digits of a number that fits 64 bits are read as that number. -/
theorem parseSize?_repr {size : Nat} (fits : size < Nat.pow 2 64)
    : parseSize? size.repr = some size :=
  parseSize?_eq_some_iff.mpr
    ⟨Nat.toDigits 10 size, .inl Nat.toList_repr,
      {
        nonempty := Nat.toDigits_ne_nil,
        decimal := fun _ digit => Nat.isDigit_of_mem_toDigits (by decide) (by decide) digit,
        value := Nat.ofDigitChars_ten_toDigits,
        fits
      }⟩

theorem ViewSettings.under_eq (settings : ViewSettings) (environment : Environment)
    : settings.under environment
      = (
          {
            maxDepth? := (environment.maxDepth?.bind parseSize?).or settings.maxDepth?,
            fileMark := environment.fileMark?.getD settings.fileMark
          },
          (environment.maxDepth?.filter fun word => (parseSize? word).isNone).toList.map
            .depthIgnored
        ) := by
  unfold under
  cases environment.maxDepth? with
  | none => rfl
  | some word => cases parsed : parseSize? word <;> simp [parsed, Option.filter]

namespace Settings

theorem read_record (distinct : (Source.object table true).Distinct)
    (written : given.WrittenIn table)
    : record.read .toml {} (.object table true) = .ok given.orDefault := by
  obtain ⟨⟨schema?, schema, depth, mark⟩, ⟨logging?, logging, level, format⟩, fits⟩ := written
  have viewsRead (part : Members Source) (h : schema? = some part)
      : ViewSettings.record.read .toml {} (.object part true) = .ok given.orDefault.views := by
    subst h
    exact ViewSettings.read_record (distinct.of_lookup schema).names depth fits mark
  have logRead (part : Members Source) (h : logging? = some part)
      : LogSettings.record.read .toml {} (.object part true) = .ok given.orDefault.log := by
    subst h
    exact LogSettings.read_record (distinct.of_lookup logging).names level format
  obtain ⟨⟨views, log⟩, read⟩ :
      ∃ settings, record.read .toml {} (.object table true) = .ok settings := by
    refine Record.exists_read rfl distinct.names fun field member source found state => ?_
    simp only [record, List.mem_cons, List.not_mem_nil, or_false] at member
    obtain rfl | rfl := member
    · obtain ⟨part, given, rfl⟩ := Option.map_eq_some_iff.mp (schema ▸ found)
      exact ⟨_, by simp only [viewsRead part given]; rfl⟩
    · obtain ⟨part, given, rfl⟩ := Option.map_eq_some_iff.mp (logging ▸ found)
      exact ⟨_, by simp only [logRead part given]; rfl⟩
  have viewsGiven : views = (schema?.map fun _ => given.orDefault.views).getD {} := by
    refine Record.part_of_read Settings.views _ ?_ ?_ distinct.names schema read
    · simp +contextual [record, Except.bind_eq_ok_iff]
    · simp +contextual [record, Record.readNamed, viewsRead]
  have logGiven : log = (logging?.map fun _ => given.orDefault.log).getD {} := by
    refine Record.part_of_read Settings.log _ ?_ ?_ distinct.names logging read
    · simp +contextual [record, Except.bind_eq_ok_iff]
    · simp +contextual [record, Record.readNamed, logRead]
  -- A missing heading is read like an empty table under it.
  have viewsWhole : views = given.orDefault.views := by
    cases schema? with
    | none =>
        have empty := ViewSettings.read_record (by simp) depth fits mark
        exact viewsGiven.trans (Except.ok.inj empty)
    | some part => exact viewsGiven
  have logWhole : log = given.orDefault.log := by
    cases logging? with
    | none =>
        have empty := LogSettings.read_record (by simp) level format
        exact logGiven.trans (Except.ok.inj empty)
    | some part => exact logGiven
  rw [read, viewsWhole, logWhole]

theorem ofText_eq {text : String}
    (read : Reading.ofText .toml text = ⟨.object table true, true⟩)
    (written : given.WrittenIn table)
    : ofText text = .ok given.orDefault := by
  have distinct : (Source.object table true).Distinct := by
    have whole := TomlText.distinct_read text
    rwa [show TomlText.read text = _ from read] at whole
  unfold ofText Reading.decode
  rw [read, read_record distinct written]
  rfl

theorem ofFileIfThere_eq {files : Files} {path : String} (h : given.FoundAt files path)
    : ofFileIfThere files path = .ok given.orDefault := by
  cases h with
  | absent h => simp [ofFileIfThere, FileContent.isThere, h, GivenSettings.orDefault]
  | table h read written =>
      simp [ofFileIfThere, ofFile, FileContent.isThere, FileContent.read, h,
        ofText_eq read written]

/-- The settings of a file that is absent, or a table that gives any of them, are those of the
environment where it says them, else those of the file where it gives them, else the defaults.
A depth in the environment that is no number is noted and else counts as not being there.
-/
theorem load_precedence {files : Files} {path : String} (h : given.FoundAt files path)
    (value? : String → Option String)
    : load files path (.ofLookup value?)
      = .ok
        (
          {
            views := {
              maxDepth? :=
                ((value? "SCHEMATA_MAX_DEPTH").bind parseSize?).or given.maxDepth?,
              fileMark :=
                ((value? "SCHEMATA_FILE_ANNOTATION_KEY").or given.fileMark?).getD
                  "customSwaggerProps"
            },
            log := {
              level := ((value? "SCHEMATA_LOG_LEVEL").or given.level?).getD "warn",
              format := ((value? "SCHEMATA_LOG_FORMAT").or given.format?).getD "human"
            }
          },
          ((value? "SCHEMATA_MAX_DEPTH").filter fun word => (parseSize? word).isNone).toList.map
            .depthIgnored
        ) := by
  rw [load, ofFileIfThere_eq h]
  simp only [Except.map_ok, under, ViewSettings.under_eq, LogSettings.under, Option.getD_or,
    GivenSettings.orDefault, Environment.ofLookup]

/-- A file that gives every setting, and holds what no setting is called. -/
def pressFile : String :=
  "[schema]\nmax_depth = 3\nfile_annotation_key = \"upload\"\nowner = \"press\"\n\n"
    ++ "[logging]\nlevel = \"info\"\nformat = \"json\"\n"

def pressFiles : Files := fun path =>
  if path = usualFile then .text pressFile else .missing .notFound

/-- What the file of the press gives. -/
def pressGiven : GivenSettings :=
  {
    maxDepth? := some 3,
    fileMark? := some "upload",
    level? := some "info",
    format? := some "json"
  }

theorem pressFile_reads
    : ∃ table,
        Reading.ofText .toml pressFile = ⟨.object table true, true⟩
        ∧ pressGiven.WrittenIn table := by
  refine
    ⟨[
        (
          "schema",
          .object
            [
              ("max_depth", .integer 3), ("file_annotation_key", .string "upload"),
              ("owner", .string "press")
            ]
            true
        ),
        ("logging", .object [("level", .string "info"), ("format", .string "json")] true)
      ],
      ?read, ?written⟩
  case read => cbv
  case written =>
    exact ⟨⟨some _, rfl, rfl, rfl⟩, ⟨some _, rfl, rfl, rfl⟩, by simp [pressGiven]⟩

/-- Variables that give a depth, in these words, and the level of the log. -/
def pressVariables (depth name : String) : Option String :=
  [("SCHEMATA_MAX_DEPTH", depth), ("SCHEMATA_LOG_LEVEL", "debug")].lookup name

/-- The press goes by the depth of its variables if that is a number, and else by the depth of its
file. The level is that of its variables, and the rest is as the file gives it.
-/
theorem pressFile_loads
    : load pressFiles usualFile (.ofLookup (pressVariables "12"))
        = .ok
          (
            {
              views := { maxDepth? := some 12, fileMark := "upload" },
              log := { level := "debug", format := "json" }
            },
            []
          )
      ∧ load pressFiles usualFile (.ofLookup (pressVariables "deep"))
        = .ok
          (
            {
              views := { maxDepth? := some 3, fileMark := "upload" },
              log := { level := "debug", format := "json" }
            },
            [.depthIgnored "deep"]
          ) := by
  obtain ⟨table, read, written⟩ := pressFile_reads
  have found : pressGiven.FoundAt pressFiles usualFile := .table rfl read written
  exact ⟨load_precedence found (pressVariables "12"),
    load_precedence found (pressVariables "deep")⟩

end Settings

end EntityViews
