import EntityViews.Declaration.Reader
import EntityViews.Proofs.Json.Written

/-! Which JSON values the readers accept, and what they make of them.
An object is read part by part: the member of a name decides alone on its part of the result,
and a member that is left out stands for a default.
-/

namespace EntityViews

namespace Json

/-- How a word out of several is written as a value. -/
abbrev Spelling := Json → String → Prop

def IsFlag (value : Json) (flag : Bool) : Prop :=
  value = .boolean flag

def IsText (value : Json) (text : String) : Prop :=
  value = .string text

def IsTexts (value : Json) (texts : List String) : Prop :=
  value = strings texts

/-- The value is an integer of 32 bits without a sign. -/
def IsNumber (value : Json) (number : UInt32) : Prop :=
  value = word number

/-- The value is the word itself. -/
def IsWord : Spelling :=
  fun value word => value = .string word

/-- The value chooses the word: it is the word itself, or an object whose only member has the
word for its name and null for its value.
-/
inductive Chooses : Spelling
  | word (word : String) : Chooses (.string word) word
  | member (word : String) : Chooses (.object [(word, .null)]) word

/-- The value may be null in place of one that is written. -/
inductive Nullable {α : Type} (written : Json → α → Prop) : Json → Option α → Prop
  | null : Nullable written .null none
  | given {value : Json} {result : α} (h : written value result)
    : Nullable written value (some result)

/-- A reader accepts the values that are written for a result, and gives that result. -/
abbrev Accepts {α : Type} (read : Json → Except Mismatch α) (written : Json → α → Prop)
    : Prop :=
  ∀ value result, read value = .ok result ↔ written value result

theorem accepts_readFlag : Accepts readFlag IsFlag := by
  intro value flag
  cases value <;> simp [readFlag, unlike, IsFlag]

theorem accepts_readText : Accepts readText IsText := by
  intro value text
  cases value <;> simp [readText, unlike, IsText]

theorem accepts_readTexts : Accepts readTexts IsTexts := by
  intro value texts
  cases value with
  | array items =>
      simp only [readTexts, IsTexts, strings, array.injEq, List.mapM_eq_ok_iff,
        accepts_readText _ _, IsText]
      rw [← List.forall₂_map_right_iff (R := fun item value => item = value),
        List.forall₂_eq_eq_eq]
  | null | boolean _ | number _ | string _ | object _ =>
      simp [readTexts, unlike, IsTexts, strings]

theorem accepts_readWord : Accepts readWord IsNumber := by
  intro value result
  cases value with
  | number value =>
      cases value with
      | real value => simp [readWord, unlike, IsNumber, word, natural]
      | integer value =>
          have small : result.toNat < UInt32.size := result.toNat_lt
          simp only [readWord, IsNumber, word, natural, number.injEq, Number.integer.injEq]
          constructor
          · intro read
            split at read
            · rename_i within
              have same : (UInt32.ofNat value.toNat).toNat = value.toNat :=
                UInt32.toNat_ofNat_of_lt within.2
              rw [Except.ok.inj read] at same
              omega
            · contradiction
          · rintro rfl
            rw [if_pos ⟨by omega, by simpa using small⟩, Int.toNat_natCast, UInt32.ofNat_toNat]
  | null | boolean _ | string _ | array _ | object _ =>
      simp [readWord, unlike, IsNumber, word, natural]

/-- A value that may be null is read as it is written, if null is not written itself. -/
theorem Accepts.optional {α : Type} {read : Json → Except Mismatch α}
    {written : Json → α → Prop} (h : Accepts read written)
    (present : ∀ result, ¬ written .null result)
    : Accepts (readOptional read) (Nullable written) := by
  intro value result?
  constructor
  · intro reads
    unfold readOptional at reads
    split at reads
    · obtain rfl := Except.ok.inj reads
      exact .null
    · obtain ⟨result, found, rfl⟩ := Except.map_eq_ok_iff.mp reads
      exact .given ((h _ _).mp found)
  · rintro (_ | ⟨given⟩)
    · rfl
    · unfold readOptional
      split
      · exact absurd given (present _)
      · exact Except.map_eq_ok_iff.mpr ⟨_, (h _ _).mpr given, rfl⟩

/-- No value is written for two things. -/
def Unambiguous {α : Type} (written : Json → α → Prop) : Prop :=
  ∀ value first second, written value first → written value second → first = second

theorem Accepts.unambiguous {α : Type} {read : Json → Except Mismatch α}
    {written : Json → α → Prop} (h : Accepts read written)
    : Unambiguous written := by
  intro value first second isFirst isSecond
  have same : Except.ok first = Except.ok second :=
    ((h value first).mpr isFirst).symm.trans ((h value second).mpr isSecond)
  exact Except.ok.inj same

theorem accepts_optionalFlag : Accepts (readOptional readFlag) (Nullable IsFlag) :=
  accepts_readFlag.optional (by simp [IsFlag])

theorem accepts_optionalText : Accepts (readOptional readText) (Nullable IsText) :=
  accepts_readText.optional (by simp [IsText])

theorem accepts_optionalTexts : Accepts (readOptional readTexts) (Nullable IsTexts) :=
  accepts_readTexts.optional (by simp [IsTexts, strings])

theorem accepts_optionalWord : Accepts (readOptional readWord) (Nullable IsNumber) :=
  accepts_readWord.optional (by simp [IsNumber, word, natural])

section Choices

variable {value : Json}

theorem choice?_eq_some_iff {word : String}
    : value.choice? = some word ↔ Chooses value word := by
  constructor
  · intro chosen
    unfold choice? at chosen
    split at chosen
    · obtain rfl := Option.some.inj chosen
      exact .word _
    · obtain rfl := Option.some.inj chosen
      exact .member _
    · contradiction
  · rintro (_ | _) <;> rfl

/-- A word is chosen exactly if it is read from the word that the value chooses. -/
theorem bind_choice?_eq_some_iff {α : Type} {parse? : String → Option α} {name : α → String}
    (h : ∀ word result, parse? word = some result ↔ word = name result) {result : α}
    : value.choice?.bind parse? = some result ↔ Chooses value (name result) := by
  simp [Option.bind_eq_some_iff, choice?_eq_some_iff, h]

end Choices

/-- A member that may be left out is written or stands for the default. -/
inductive Declared {α : Type} (written : Json → α → Prop) (default : α)
    : Option Json → α → Prop
  | absent : Declared written default none default
  | given {value : Json} {result : α} (h : written value result)
    : Declared written default (some value) result

theorem Declared.written {α : Type} {written : Json → α → Prop} {default result : α}
    {value? : Option Json} {value : Json} (h : Declared written default value? result)
    (found : value? = some value)
    : written value result := by
  cases h with
  | absent => contradiction
  | given declared => exact Option.some.inj found ▸ declared

/-- A part of what is read from an object: the name of its member, how that is written, and what
the part is if the member is left out.
-/
structure Part (σ : Type) where
  {type : Type}
  name : String
  written : Json → type → Prop
  default : type
  get : σ → type

namespace Part

variable {σ : Type}

/-- The part is what the members of an object declare. -/
def IsDeclared (part : Part σ) (members : Members Json) (state : σ) : Prop :=
  Declared part.written part.default (members.lookup part.name) (part.get state)

/-- A member of its name makes the part what it is written as, and any other leaves the part. -/
def IsSet (part : Part σ) (member : String × Json) (before after : σ) : Prop :=
  if member.1 = part.name then part.written member.2 (part.get after)
  else part.get after = part.get before

/-- Members declare a part in one way. -/
theorem IsDeclared.unique {part : Part σ} {members : Members Json} {first second : σ}
    (unambiguous : Unambiguous part.written) (hf : part.IsDeclared members first)
    (hs : part.IsDeclared members second)
    : part.get first = part.get second := by
  unfold IsDeclared at hf hs
  generalize members.lookup part.name = value? at hf hs
  generalize part.get first = one at hf ⊢
  generalize part.get second = other at hs ⊢
  cases hf with
  | absent =>
      cases hs
      rfl
  | given isFirst =>
      cases hs with
      | given isSecond => exact unambiguous _ _ _ isFirst isSecond

end Part

end Json

namespace Reads

variable {ε σ : Type} {step : σ → String × Json → Except ε σ} {members : Members Json}
  {before after : σ}

/-- Every member has been taken at some point, by induction over the members. -/
theorem exists_step (h : Reads step members before after) {member : String × Json}
    (known : member ∈ members)
    : ∃ state later, step state member = .ok later := by
  induction members generalizing before with
  | nil => contradiction
  | cons first rest ih =>
      rw [Reads, List.foldlM_cons, Except.bind_eq_ok_iff] at h
      obtain ⟨between, taken, reads⟩ := h
      rcases List.mem_cons.mp known with rfl | later
      · exact ⟨before, between, taken⟩
      · exact ih reads later

section Parts

variable {part : Json.Part σ}
  (sets : ∀ state member later, step state member = .ok later → part.IsSet member state later)

include sets

/-- Without a member of its name a part stays as it is. -/
theorem part_of_not_mem (h : Reads step members before after)
    (absent : part.name ∉ members.names)
    : part.get after = part.get before := by
  refine List.foldlM_keeps (P := fun state => part.get state = part.get before) ?_ rfl h
  intro member known state later kept taken
  have different : member.1 ≠ part.name := by
    intro same
    exact absent (same ▸ List.mem_map_of_mem known)
  have same : part.get later = part.get state := by
    simpa [Json.Part.IsSet, different] using sets state member later taken
  rw [same, kept]

/-- The member of its name decides alone on a part, by induction over the members: before that
member the part is the default, and behind it the part is final.
-/
theorem isDeclared (names : members.names.Nodup) (h : Reads step members before after)
    (unset : part.get before = part.default)
    : part.IsDeclared members after := by
  induction members generalizing before with
  | nil =>
      obtain rfl := Except.ok.inj h
      unfold Json.Part.IsDeclared
      rw [unset]
      exact .absent
  | cons member rest ih =>
      obtain ⟨key, value⟩ := member
      obtain ⟨fresh, distinct⟩ := List.nodup_cons.mp names
      rw [Reads, List.foldlM_cons, Except.bind_eq_ok_iff] at h
      obtain ⟨between, taken, reads⟩ := h
      have first := sets before (key, value) between taken
      unfold Json.Part.IsDeclared
      by_cases same : key = part.name
      · subst same
        rw [List.lookup_cons_self, part_of_not_mem sets reads fresh]
        exact .given (by simpa [Json.Part.IsSet] using first)
      · have differs : (part.name == key) = false := by simpa using Ne.symm same
        have kept : part.get between = part.get before := by
          simpa [Json.Part.IsSet, same] using first
        rw [List.lookup_cons, differs]
        exact ih distinct reads (kept.trans unset)

end Parts

/-- A reader that takes members one by one, each for its part, reads the members of an object
just as they declare the parts. Something else may be known of the result before.
-/
theorem iff_isDeclared {known : List String} {parts : List (Json.Part σ)} {P : σ → Prop}
    (start : P before ∧ ∀ part ∈ parts, part.get before = part.default)
    (sets
      : ∀ state member later,
          step state member = .ok later
          → (P state → P later)
            ∧ member.1 ∈ known
            ∧ ∀ part ∈ parts, part.IsSet member state later)
    (takes
      : ∀ state name value,
          name ∈ known
          → (∀ part ∈ parts, part.name = name → ∃ result, part.written value result)
          → ∃ later, step state (name, value) = .ok later)
    (unambiguous : ∀ part ∈ parts, Json.Unambiguous part.written)
    (complete
      : ∀ first second,
          P first
          → P second
          → (∀ part ∈ parts, part.get first = part.get second)
          → first = second)
    (names : members.names.Nodup)
    : Reads step members before after
      ↔ P after
        ∧ (∀ name ∈ members.names, name ∈ known)
        ∧ ∀ part ∈ parts, part.IsDeclared members after := by
  have declares {after : σ} (h : Reads step members before after)
      : P after
        ∧ (∀ name ∈ members.names, name ∈ known)
        ∧ ∀ part ∈ parts, part.IsDeclared members after := by
    refine ⟨?kept, ?known, ?parts⟩
    case kept =>
      exact List.foldlM_keeps (fun member _ state later kept taken =>
        (sets state member later taken).1 kept) start.1 h
    case known =>
      intro name named
      obtain ⟨value, member⟩ := Members.mem_names.mp named
      obtain ⟨state, later, taken⟩ := h.exists_step member
      exact (sets state (name, value) later taken).2.1
    case parts =>
      intro part member
      exact h.isDeclared (fun state member later taken =>
        (sets state member later taken).2.2 part ‹_›) names (start.2 part member)
  constructor
  · exact declares
  · rintro ⟨holds, allKnown, declared⟩
    have each : ∀ member ∈ members, ∀ state, ∃ later, step state member = .ok later := by
      rintro ⟨name, value⟩ member state
      have found : members.lookup name = some value :=
        (Members.lookup_eq_some_iff names).mpr member
      refine takes state name value (allKnown name (Members.mem_names.mpr ⟨value, member⟩)) ?_
      rintro part isPart rfl
      exact ⟨_, (declared part isPart).written found⟩
    obtain ⟨later, reads⟩ := List.exists_foldlM_eq_ok each before
    obtain ⟨laterHolds, _, laterDeclared⟩ := declares reads
    have same : later = after := by
      refine complete later after laterHolds holds fun part member => ?_
      exact (laterDeclared part member).unique (unambiguous part member) (declared part member)
    exact same ▸ reads

end Reads

end EntityViews
