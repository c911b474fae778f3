import EntityViews.Proofs.Entity.Compilation
import EntityViews.Proofs.Registry.Lookup
import EntityViews.Proofs.View.Unrolling

/-! How many levels an unrolling needs.
One that does not run out of levels is the same with more of them. One that needs some number
of levels passes registered models that need each smaller number, so it needs no more of them
than there are models.
-/

namespace EntityViews

variable {registry : Registry} {kind : ViewKind} {model : Model}

/-- The outcome is that a model stands a level too deep. -/
def RunsOut {α : Type} (outcome : Except Stop α) : Prop :=
  ∃ path, outcome = .error (.tooDeep path)

theorem not_runsOut_of_ok {α : Type} {outcome : Except Stop α} {value : α}
    (h : outcome = .ok value)
    : ¬ RunsOut outcome := by
  intro short
  obtain ⟨path, out⟩ := short
  rw [h] at out
  contradiction

theorem runsOut_map_below {α β : Type} {f : α → β} {name : String} {outcome : Except Stop α}
    : RunsOut (f <$> outcome.mapError (.below name)) ↔ RunsOut outcome := by
  cases outcome with
  | ok value => simp [RunsOut]
  | error stop => cases stop <;> simp [RunsOut, Stop.below]

/-- A followed relation runs out of levels exactly when its target does. -/
theorem embedTarget_runsOut_iff {unrollTarget : Model → Except Stop Document}
    {entry : String × RelationDescriptor}
    : RunsOut (embedTarget registry unrollTarget entry)
      ↔ ∃ target,
          registry.get entry.2.target = .ok target ∧ RunsOut (unrollTarget target) := by
  simp only [RunsOut, embedTarget_eq_error_iff, reduceCtorEq, and_false, exists_false, false_or]
  constructor
  · intro short
    obtain ⟨path, target, found, out⟩ := short
    exact ⟨target, found, path, out⟩
  · intro deeper
    obtain ⟨target, found, path, out⟩ := deeper
    exact ⟨path, target, found, out⟩

/-- What agrees on targets agrees on the relations to them. -/
theorem embedTarget_agrees {fewer more : Model → Except Stop Document}
    (agree : ∀ target, ¬ RunsOut (fewer target) → more target = fewer target)
    (entry : String × RelationDescriptor) (h : ¬ RunsOut (embedTarget registry fewer entry))
    : embedTarget registry more entry = embedTarget registry fewer entry := by
  rw [embedTarget_runsOut_iff] at h
  unfold embedTarget
  cases found : registry.get entry.2.target with
  | error problem => rfl
  | ok target =>
      have settled : ¬ RunsOut (fewer target) := fun out => h ⟨target, found, out⟩
      simp [agree target settled]

/-- What agrees on entries agrees on lists of them, by induction: a traversal that does not run
out gets to no entry that does.
-/
theorem mapM_agrees {α β : Type} {fewer more : α → Except Stop β}
    (agree : ∀ entry, ¬ RunsOut (fewer entry) → more entry = fewer entry) (entries : List α)
    (h : ¬ RunsOut (entries.mapM fewer))
    : entries.mapM more = entries.mapM fewer := by
  induction entries with
  | nil => rfl
  | cons entry rest ih =>
      rw [List.mapM_cons] at h
      have settled : ¬ RunsOut (fewer entry) := by
        intro short
        obtain ⟨path, out⟩ := short
        exact h ⟨path, by simp [out]⟩
      rw [List.mapM_cons, List.mapM_cons, agree entry settled]
      cases first : fewer entry with
      | error stop => rfl
      | ok value =>
          have later : ¬ RunsOut (rest.mapM fewer) := by
            intro short
            obtain ⟨path, out⟩ := short
            exact h ⟨path, by simp [first, out]⟩
          rw [ih later]

/-- An unrolling that does not run out of levels is the same with one more, by induction on the
levels.
-/
theorem unroll_succ {levels : Nat} (h : ¬ RunsOut (unroll registry kind levels model))
    : unroll registry kind (levels + 1) model = unroll registry kind levels model := by
  induction levels generalizing model with
  | zero => exact absurd ⟨_, rfl⟩ h
  | succ levels ih =>
      cases compiles : model.definition with
      | error problem => rw [unroll_refused compiles, unroll_refused compiles]
      | ok definition =>
          rw [unroll_compiled compiles, runsOut_map_below] at h
          rw [unroll_compiled compiles, unroll_compiled compiles,
            mapM_agrees (embedTarget_agrees fun _ settled => ih settled) _ h]

/-- An unrolling that does not run out of levels is the same with any more of them. -/
theorem unroll_of_le {fewer more : Nat} (le : fewer ≤ more)
    (h : ¬ RunsOut (unroll registry kind fewer model))
    : unroll registry kind more model = unroll registry kind fewer model := by
  induction le with
  | refl => rfl
  | step _ ih => rw [unroll_succ (by rwa [ih]), ih]

/-- Running out of more levels is running out of fewer. -/
theorem runsOut_of_le {fewer more : Nat} (le : fewer ≤ more)
    (h : RunsOut (unroll registry kind more model))
    : RunsOut (unroll registry kind fewer model) := by
  by_contra settled
  rw [unroll_of_le le settled] at h
  exact settled h

/-- Two numbers of levels that both suffice give one outcome. -/
theorem unroll_unique {left right : Nat} (hl : ¬ RunsOut (unroll registry kind left model))
    (hr : ¬ RunsOut (unroll registry kind right model))
    : unroll registry kind left model = unroll registry kind right model := by
  rcases Nat.le_total left right with le | le
  · exact (unroll_of_le le hl).symm
  · exact unroll_of_le le hr

/-- A compiled model runs out of levels at the first followed relation that fails: all before
it succeed, and its target runs out of one level less.
-/
theorem runsOut_succ_iff {definition : EntityDefinition}
    (h : model.definition = .ok definition) {levels : Nat}
    : RunsOut (unroll registry kind (levels + 1) model)
      ↔ ∃ before entry after target,
          definition.followed kind = before ++ entry :: after
          ∧ (∀ earlier ∈ before,
            ∃ property, embedTarget registry (unroll registry kind levels) earlier = .ok property)
          ∧ registry.get entry.2.target = .ok target
          ∧ RunsOut (unroll registry kind levels target) := by
  rw [unroll_compiled h, runsOut_map_below]
  constructor
  · intro short
    obtain ⟨path, out⟩ := short
    obtain ⟨before, entry, after, split, earlier, failed⟩ := List.mapM_eq_error_iff.mp out
    obtain ⟨target, found, deeper⟩ := embedTarget_runsOut_iff.mp ⟨path, failed⟩
    exact ⟨before, entry, after, target, split, earlier, found, deeper⟩
  · intro first
    obtain ⟨before, entry, after, target, split, earlier, found, deeper⟩ := first
    obtain ⟨path, failed⟩ := embedTarget_runsOut_iff.mpr ⟨target, found, deeper⟩
    exact ⟨path, List.mapM_eq_error_iff.mpr ⟨before, entry, after, split, earlier, failed⟩⟩

/-- The number of levels is the greatest that the model runs out of. -/
structure LastRunOut (registry : Registry) (kind : ViewKind) (levels : Nat) (model : Model)
    : Prop where
  short : RunsOut (unroll registry kind levels model)
  enough : ¬ RunsOut (unroll registry kind (levels + 1) model)

/-- A model has one greatest number of levels that it runs out of. -/
theorem LastRunOut.unique {left right : Nat} (hl : LastRunOut registry kind left model)
    (hr : LastRunOut registry kind right model)
    : left = right := by
  rcases Nat.lt_trichotomy left right with lt | same | gt
  · exact absurd (runsOut_of_le lt hr.short) hl.enough
  · exact same
  · exact absurd (runsOut_of_le gt hl.short) hr.enough

/-- One level further down stands a registered model whose greatest number is one less. It is
the target at which the levels run out: one level more gets past it, and past all before it.
-/
theorem LastRunOut.descend {levels : Nat} (h : LastRunOut registry kind (levels + 1) model)
    : ∃ target ∈ registry.models, LastRunOut registry kind levels target := by
  cases compiles : model.definition with
  | error problem =>
      obtain ⟨path, out⟩ := h.short
      simp [unroll_refused compiles] at out
  | ok definition =>
      obtain ⟨before, entry, after, target, split, earlier, found, short⟩ :=
        (runsOut_succ_iff compiles).mp h.short
      refine ⟨target, (Registry.get_eq_ok_iff.mp found).1, short, fun deeper => h.enough ?_⟩
      refine (runsOut_succ_iff compiles).mpr
        ⟨before, entry, after, target, split, ?_, found, deeper⟩
      intro other member
      obtain ⟨property, succeeds⟩ := earlier other member
      refine ⟨property, ?_⟩
      rw [← succeeds]
      exact embedTarget_agrees (fun _ settled => unroll_succ settled) other
        (not_runsOut_of_ok succeeds)

/-- Below a model stand as many registered models as it runs out of levels, each with another
greatest number, by induction on the levels.
-/
theorem LastRunOut.chain {levels : Nat} (h : LastRunOut registry kind levels model)
    : ∃ lower : List Model,
        lower.length = levels
        ∧ lower.Nodup
        ∧ lower ⊆ registry.models
        ∧ ∀ other ∈ lower, ∃ fewer < levels, LastRunOut registry kind fewer other := by
  induction levels generalizing model with
  | zero => exact ⟨[], rfl, List.nodup_nil, List.nil_subset _, by simp⟩
  | succ levels ih =>
      obtain ⟨target, registered, needs⟩ := h.descend
      obtain ⟨lower, length, distinct, known, ranks⟩ := ih needs
      have fresh : target ∉ lower := by
        intro member
        obtain ⟨fewer, lt, again⟩ := ranks target member
        exact Nat.ne_of_lt lt (again.unique needs)
      refine ⟨target :: lower, by simp [length], List.nodup_cons.mpr ⟨fresh, distinct⟩,
        List.cons_subset.mpr ⟨registered, known⟩, ?_⟩
      intro other member
      rcases List.mem_cons.mp member with rfl | member
      · exact ⟨levels, Nat.lt_succ_self _, needs⟩
      · obtain ⟨fewer, lt, rank⟩ := ranks other member
        exact ⟨fewer, Nat.lt_succ_of_lt lt, rank⟩

/-- No model runs out of more levels than there are models and is done with one more. -/
theorem LastRunOut.le_size {levels : Nat} (h : LastRunOut registry kind levels model)
    : levels ≤ registry.size := by
  obtain ⟨lower, length, distinct, known, _⟩ := h.chain
  rw [← length, ← registry.length_models]
  exact distinct.length_le_of_subset known

/-- A registered model needs a level less than others, since it is none of those below it. -/
theorem LastRunOut.lt_size {levels : Nat} (h : LastRunOut registry kind levels model)
    (registered : model ∈ registry.models)
    : levels < registry.size := by
  obtain ⟨lower, length, distinct, known, ranks⟩ := h.chain
  have fresh : model ∉ lower := by
    intro member
    obtain ⟨fewer, lt, again⟩ := ranks model member
    exact Nat.ne_of_lt lt (again.unique h)
  have bound := (List.nodup_cons.mpr ⟨fresh, distinct⟩).length_le_of_subset
    (List.cons_subset.mpr ⟨registered, known⟩)
  rwa [List.length_cons, length, registry.length_models] at bound

/-- Between levels that run out and levels that do not lies a greatest number that does. -/
theorem exists_lastRunOut {short enough : Nat}
    (hs : RunsOut (unroll registry kind short model))
    (he : ¬ RunsOut (unroll registry kind enough model))
    : ∃ levels, short ≤ levels ∧ LastRunOut registry kind levels model := by
  induction enough with
  | zero => exact absurd ⟨_, rfl⟩ he
  | succ enough ih =>
      by_cases out : RunsOut (unroll registry kind enough model)
      · refine ⟨enough, ?_, out, he⟩
        by_contra lt
        exact he (runsOut_of_le (Nat.lt_of_not_le lt) hs)
      · exact ih out

/-- A model that runs out of one level more than there are models runs out of any number. -/
theorem runsOut_forever (h : RunsOut (unroll registry kind (registry.size + 1) model))
    (levels : Nat)
    : RunsOut (unroll registry kind levels model) := by
  by_contra settled
  obtain ⟨last, le, rank⟩ := exists_lastRunOut h settled
  exact Nat.not_succ_le_self _ (Nat.le_trans le rank.le_size)

/-- A registered model that runs out of as many levels as there are models runs out of any
number.
-/
theorem runsOut_forever_of_registered (registered : model ∈ registry.models)
    (h : RunsOut (unroll registry kind registry.size model)) (levels : Nat)
    : RunsOut (unroll registry kind levels model) := by
  by_contra settled
  obtain ⟨last, le, rank⟩ := exists_lastRunOut h settled
  exact Nat.not_lt_of_le le (rank.lt_size registered)

end EntityViews
