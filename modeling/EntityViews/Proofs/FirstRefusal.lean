import Mathlib.Data.List.Forall2

/-! Computations that stop at the first refusal.
A list is worked through in order: it succeeds entry by entry, or fails with the error of the
first entry that fails while all entries before it succeed.
-/

namespace Except

variable {ε δ α β : Type}

@[simp]
theorem ok_bind (value : α) (next : α → Except ε β) : (Except.ok value >>= next) = next value :=
  rfl

@[simp]
theorem error_bind (problem : ε) (next : α → Except ε β)
    : (Except.error problem >>= next) = .error problem :=
  rfl

@[simp]
theorem pure_eq_ok (value : α) : (pure value : Except ε α) = .ok value := rfl

/-- A computation that has no value fails. -/
theorem exists_ok_iff {outcome : Except ε α}
    : (∃ value, outcome = .ok value) ↔ ∀ problem, outcome ≠ .error problem := by
  cases outcome <;> simp

/-- A computation in two parts succeeds when both of them do. -/
theorem bind_eq_ok_iff {first : Except ε α} {next : α → Except ε β} {result : β}
    : (first >>= next) = .ok result ↔ ∃ value, first = .ok value ∧ next value = .ok result := by
  cases first <;> simp

/-- A computation in two parts fails in the first part or in the second. -/
theorem bind_eq_error_iff {first : Except ε α} {next : α → Except ε β} {problem : ε}
    : (first >>= next) = .error problem
      ↔ first = .error problem ∨ ∃ value, first = .ok value ∧ next value = .error problem := by
  cases first <;> simp

@[simp]
theorem mapError_ok (f : ε → δ) (value : α) : (Except.ok value).mapError f = .ok value := rfl

@[simp]
theorem mapError_error (f : ε → δ) (problem : ε)
    : (Except.error problem : Except ε α).mapError f = .error (f problem) :=
  rfl

@[simp]
theorem mapError_eq_ok_iff {f : ε → δ} {outcome : Except ε α} {value : α}
    : outcome.mapError f = .ok value ↔ outcome = .ok value := by
  cases outcome <;> simp

@[simp]
theorem mapError_eq_error_iff {f : ε → δ} {outcome : Except ε α} {problem : δ}
    : outcome.mapError f = .error problem
      ↔ ∃ cause, outcome = .error cause ∧ f cause = problem := by
  cases outcome <;> simp

@[simp]
theorem map_eq_ok_iff {f : α → β} {outcome : Except ε α} {result : β}
    : f <$> outcome = .ok result ↔ ∃ value, outcome = .ok value ∧ f value = result := by
  cases outcome <;> simp

@[simp]
theorem map_eq_error_iff {f : α → β} {outcome : Except ε α} {problem : ε}
    : f <$> outcome = .error problem ↔ outcome = .error problem := by
  cases outcome <;> simp

end Except

namespace List

variable {ε δ α β : Type}

/-- Each entry is paired with a value, by induction over the pairs. -/
theorem exists_mem_of_forall₂ {R : α → β → Prop} {entries : List α} {values : List β}
    (h : Forall₂ R entries values) {entry : α} (member : entry ∈ entries)
    : ∃ value ∈ values, R entry value := by
  induction h with
  | nil => contradiction
  | cons first _ ih =>
      rcases mem_cons.mp member with rfl | later
      · exact ⟨_, mem_cons_self, first⟩
      · obtain ⟨value, found, related⟩ := ih later
        exact ⟨value, mem_cons_of_mem _ found, related⟩

/-- Pairs that are paired on go together, by induction over the first ones. -/
theorem forall₂_trans {γ : Type} {R : α → β → Prop} {S : β → γ → Prop} {T : α → γ → Prop}
    {entries : List α} {values : List β} {results : List γ} (hr : Forall₂ R entries values)
    (hs : Forall₂ S values results)
    (h : ∀ entry value result, R entry value → S value result → T entry result)
    : Forall₂ T entries results := by
  induction hr generalizing results with
  | nil =>
      cases hs
      exact .nil
  | cons first _ ih =>
      cases hs with
      | cons second others => exact .cons (h _ _ _ first second) (ih others)

/-- A traversal succeeds exactly with the values of its entries, in order. -/
theorem mapM_eq_ok_iff {f : α → Except ε β} {entries : List α} {values : List β}
    : entries.mapM f = .ok values
      ↔ Forall₂ (fun entry value => f entry = .ok value) entries values := by
  induction entries generalizing values with
  | nil => simp [eq_comm]
  | cons entry rest ih =>
      simp only [mapM_cons, Except.bind_eq_ok_iff, Except.pure_eq_ok, Except.ok.injEq, ih,
        forall₂_cons_left_iff]
      constructor
      · intro succeeds
        obtain ⟨value, first, others, later, rfl⟩ := succeeds
        exact ⟨value, others, first, later, rfl⟩
      · intro pairs
        obtain ⟨value, others, first, later, rfl⟩ := pairs
        exact ⟨value, first, others, later, rfl⟩

/-- A traversal that may find nothing succeeds exactly with what it finds for its entries. -/
theorem mapM_eq_some_iff {f : α → Option β} {entries : List α} {values : List β}
    : entries.mapM f = some values
      ↔ Forall₂ (fun entry value => f entry = some value) entries values := by
  induction entries generalizing values with
  | nil => simp [eq_comm]
  | cons entry rest ih =>
      simp only [mapM_cons, Option.bind_eq_bind, Option.bind_eq_some_iff, Option.pure_def,
        Option.some.injEq, ih, forall₂_cons_left_iff]
      constructor
      · intro succeeds
        obtain ⟨value, first, others, later, rfl⟩ := succeeds
        exact ⟨value, others, first, later, rfl⟩
      · intro pairs
        obtain ⟨value, others, first, later, rfl⟩ := pairs
        exact ⟨value, first, others, later, rfl⟩

/-- A traversal that succeeds holds the value of each entry. -/
theorem exists_mem_of_mapM_eq_ok {f : α → Except ε β} {entries : List α} {values : List β}
    (h : entries.mapM f = .ok values) {entry : α} (member : entry ∈ entries)
    : ∃ value ∈ values, f entry = .ok value :=
  exists_mem_of_forall₂ (mapM_eq_ok_iff.mp h) member

/-- A traversal that succeeds holds nothing but values of entries. -/
theorem exists_entry_of_mapM_eq_ok {f : α → Except ε β} {entries : List α} {values : List β}
    (h : entries.mapM f = .ok values) {value : β} (member : value ∈ values)
    : ∃ entry ∈ entries, f entry = .ok value :=
  exists_mem_of_forall₂ (mapM_eq_ok_iff.mp h).flip member

/-- A traversal succeeds with some values exactly when every entry does. -/
theorem exists_mapM_eq_ok_iff {f : α → Except ε β} {entries : List α}
    : (∃ values, entries.mapM f = .ok values)
      ↔ ∀ entry ∈ entries, ∃ value, f entry = .ok value := by
  induction entries with
  | nil => simp
  | cons entry rest ih =>
      simp only [mapM_cons, Except.bind_eq_ok_iff, Except.pure_eq_ok, Except.ok.injEq,
        mem_cons, forall_eq_or_imp, ← ih]
      constructor
      · intro succeeds
        obtain ⟨_, value, first, others, later, rfl⟩ := succeeds
        exact ⟨⟨value, first⟩, others, later⟩
      · intro each
        obtain ⟨⟨value, first⟩, others, later⟩ := each
        exact ⟨_, value, first, others, later, rfl⟩

/-- A traversal fails exactly with the error of an entry before which every entry succeeds. -/
theorem mapM_eq_error_iff {f : α → Except ε β} {entries : List α} {problem : ε}
    : entries.mapM f = .error problem
      ↔ ∃ before entry after,
          entries = before ++ entry :: after
          ∧ (∀ earlier ∈ before, ∃ value, f earlier = .ok value)
          ∧ f entry = .error problem := by
  induction entries with
  | nil => simp
  | cons head rest ih =>
      simp only [mapM_cons, Except.bind_eq_error_iff, Except.pure_eq_ok, reduceCtorEq,
        and_false, exists_false, or_false, ih]
      constructor
      · intro fails
        rcases fails with first | ⟨value, first, before, entry, after, rfl, earlier, failed⟩
        · exact ⟨[], head, rest, rfl, by simp, first⟩
        · refine ⟨head :: before, entry, after, rfl, ?_, failed⟩
          simpa using ⟨⟨value, first⟩, earlier⟩
      · intro first
        obtain ⟨before, entry, after, split, earlier, failed⟩ := first
        cases before with
        | nil =>
            obtain ⟨rfl, rfl⟩ := cons.inj split
            exact Or.inl failed
        | cons first before =>
            obtain ⟨rfl, rfl⟩ := cons.inj split
            obtain ⟨value, succeeded⟩ := earlier head (by simp)
            exact Or.inr ⟨value, succeeded, before, entry, after, rfl,
              fun other member => earlier other (mem_cons_of_mem _ member), failed⟩

/-- Relabelling the errors of the entries relabels the error of the traversal. -/
theorem mapM_mapError (f : α → Except ε β) (g : ε → δ) (entries : List α)
    : entries.mapM (fun entry => (f entry).mapError g) = (entries.mapM f).mapError g := by
  induction entries with
  | nil => rfl
  | cons entry rest ih =>
      simp only [mapM_cons, ih]
      cases f entry with
      | error problem => rfl
      | ok value => cases rest.mapM f <;> rfl

/-- Where each entry comes to a changed value, the traversal comes to the changed values. -/
theorem mapM_eq_map_mapM {f g : α → Except ε β} {change : β → β} {entries : List α}
    (same : ∀ entry ∈ entries, g entry = change <$> f entry)
    : entries.mapM g = map change <$> entries.mapM f := by
  induction entries with
  | nil => rfl
  | cons entry rest ih =>
      obtain ⟨first, later⟩ := forall_mem_cons.mp same
      rw [mapM_cons, mapM_cons, first, ih later]
      cases f entry with
      | error problem => rfl
      | ok value => cases rest.mapM f <;> rfl

/-- A traversal for its effect succeeds exactly when every entry does. -/
theorem forM_eq_ok_iff {f : α → Except ε Unit} {entries : List α}
    : entries.forM f = .ok () ↔ ∀ entry ∈ entries, f entry = .ok () := by
  induction entries with
  | nil => simp
  | cons entry rest ih =>
      rw [forM_eq_forM] at ih ⊢
      simp only [forM_cons, Except.bind_eq_ok_iff, ih, mem_cons, forall_eq_or_imp]
      constructor
      · intro succeeds
        obtain ⟨_, first, later⟩ := succeeds
        exact ⟨first, later⟩
      · intro each
        exact ⟨(), each⟩

/-- A traversal for its effect fails exactly with the error of an entry before which every entry
succeeds.
-/
theorem forM_eq_error_iff {f : α → Except ε Unit} {entries : List α} {problem : ε}
    : entries.forM f = .error problem
      ↔ ∃ before entry after,
          entries = before ++ entry :: after
          ∧ (∀ earlier ∈ before, f earlier = .ok ())
          ∧ f entry = .error problem := by
  induction entries with
  | nil => simp
  | cons head rest ih =>
      rw [forM_eq_forM] at ih ⊢
      simp only [forM_cons, Except.bind_eq_error_iff, ih]
      constructor
      · intro fails
        rcases fails with first | ⟨_, succeeded, before, entry, after, rfl, earlier, failed⟩
        · exact ⟨[], head, rest, rfl, by simp, first⟩
        · refine ⟨head :: before, entry, after, rfl, ?_, failed⟩
          simpa using ⟨succeeded, earlier⟩
      · intro first
        obtain ⟨before, entry, after, split, earlier, failed⟩ := first
        cases before with
        | nil =>
            obtain ⟨rfl, rfl⟩ := cons.inj split
            exact Or.inl failed
        | cons first before =>
            obtain ⟨rfl, rfl⟩ := cons.inj split
            exact Or.inr ⟨(), earlier head mem_cons_self, before, entry, after, rfl,
              fun other member => earlier other (mem_cons_of_mem _ member), failed⟩

/-- A computation over the entries fails exactly in a step up to which it succeeds. -/
theorem foldlM_eq_error_iff {f : β → α → Except ε β} {entries : List α} {start : β}
    {problem : ε}
    : entries.foldlM f start = .error problem
      ↔ ∃ before entry after reached,
          entries = before ++ entry :: after
          ∧ before.foldlM f start = .ok reached
          ∧ f reached entry = .error problem := by
  induction entries generalizing start with
  | nil => simp
  | cons head rest ih =>
      rw [foldlM_cons, Except.bind_eq_error_iff]
      simp only [ih]
      constructor
      · intro fails
        rcases fails with first | ⟨next, step, before, entry, after, reached, rfl, done, failed⟩
        · exact ⟨[], head, rest, start, rfl, rfl, first⟩
        · refine ⟨head :: before, entry, after, reached, rfl, ?_, failed⟩
          rwa [foldlM_cons, step]
      · intro first
        obtain ⟨before, entry, after, reached, split, done, failed⟩ := first
        cases before with
        | nil =>
            obtain ⟨rfl, rfl⟩ := cons.inj split
            exact Or.inl (Except.ok.inj done ▸ failed)
        | cons first before =>
            obtain ⟨rfl, rfl⟩ := cons.inj split
            rw [foldlM_cons, Except.bind_eq_ok_iff] at done
            obtain ⟨next, step, later⟩ := done
            exact Or.inr ⟨next, step, before, entry, after, reached, rfl, later, failed⟩

/-- A computation over the entries succeeds if each of its steps does from everywhere, by induction
over the entries.
-/
theorem exists_foldlM_eq_ok {f : β → α → Except ε β} {entries : List α}
    (step : ∀ entry ∈ entries, ∀ before, ∃ after, f before entry = .ok after) (before : β)
    : ∃ after, entries.foldlM f before = .ok after := by
  induction entries generalizing before with
  | nil => exact ⟨before, rfl⟩
  | cons entry rest ih =>
      obtain ⟨between, first⟩ := step entry mem_cons_self before
      rw [foldlM_cons, first]
      exact ih (fun other member => step other (mem_cons_of_mem _ member)) between

/-- A computation over the entries that succeeds keeps what each of its steps keeps, by induction
over the entries.
-/
theorem foldlM_keeps {f : β → α → Except ε β} {P : β → Prop} {entries : List α}
    (step
      : ∀ entry ∈ entries, ∀ before after, P before → f before entry = .ok after → P after)
    {before after : β} (start : P before) (h : entries.foldlM f before = .ok after)
    : P after := by
  induction entries generalizing before with
  | nil =>
      obtain rfl := Except.ok.inj h
      exact start
  | cons entry rest ih =>
      rw [foldlM_cons, Except.bind_eq_ok_iff] at h
      obtain ⟨between, first, later⟩ := h
      refine ih (fun other member => step other (mem_cons_of_mem _ member)) ?_ later
      exact step entry mem_cons_self before between start first

end List
