import EntityViews.Proofs.View.Levels

/-! A limit on the depth of a view refuses it or leaves it alone.
Whatever else a limited view comes to, it comes to under any greater limit and without one. From
the number of registered models on, a limit that refuses a registered model refuses it for good.
-/

namespace EntityViews

variable {registry : Registry} {kind : ViewKind} {model : Model}

/-- An author is read together with all books. -/
def authorModel : Model :=
  {
    serial := 0,
    name := "Author",
    fields := .ofList
      [
        ("name", .scalar .string),
        ("books", .relation { kind := .oneToMany, target := .name "Book", eager := true })
      ]
  }

/-- A book is created and read together with its author. -/
def bookModel : Model :=
  {
    serial := 1,
    name := "Book",
    fields := .ofList
      [
        ("author",
          .relation
            {
              kind := .manyToOne,
              target := .name "Author",
              cascade := .every true,
              eager := true
            }),
        ("title", .scalar .string)
      ]
  }

/-- A library is created together with its books. -/
def libraryModel : Model :=
  {
    serial := 2,
    name := "Library",
    fields := .ofList
      [
        ("books",
          .relation
            { kind := .manyToMany, target := .name "Book", cascade := .only [.insert] })
      ]
  }

/-- Libraries, books and authors. Creating them ends, reading a book or an author does not. -/
def bookTrade : Registry :=
  .ofModels [authorModel, bookModel, libraryModel] (by decide)

/-- The view is refused because a model stands deeper than the limit. -/
def RefusedForDepth (outcome : Except Halt Document) : Prop :=
  ∃ limit path, outcome = .error (.refused (.depthExceeded limit path))

/-- No unrolling is refused for depth: it is refused for a field or for an unknown model. -/
theorem unroll_ne_depthExceeded {levels limit : Nat} {path : List String}
    : unroll registry kind levels model ≠ .error (.refused (.depthExceeded limit path)) := by
  intro refused
  rcases unroll_refusal refused with ⟨broken, cause⟩ | ⟨name, cause⟩
  · obtain ⟨field, _, reason⟩ := Model.definition_error cause
    simp at reason
  · obtain ⟨_, same⟩ := Registry.get_eq_error_iff.mp cause
    contradiction

/-- A limited view is refused for its depth exactly when its unrolling runs out of levels. -/
theorem refusedForDepth_iff (settings : ViewSettings) (limit : Nat) (qualifier : Option String)
    : RefusedForDepth
        (View.generate registry { settings with maxDepth? := some limit } (.base kind) model
          qualifier)
      ↔ RunsOut (unroll registry kind (limit + 1) model) := by
  rw [generate_base]
  constructor
  · intro refusal
    obtain ⟨shown, path, refused⟩ := refusal
    obtain ⟨stop, out, halt⟩ := Except.mapError_eq_error_iff.mp
      (Except.map_eq_error_iff.mp refused)
    cases stop with
    | tooDeep below => exact ⟨below, out⟩
    | refused problem =>
        obtain rfl := Halt.refused.inj halt
        exact absurd out unroll_ne_depthExceeded
  · intro short
    obtain ⟨path, out⟩ := short
    exact ⟨limit, path, by simp [levelsFor, out, Stop.toHalt]⟩

/-- An unlimited view has no end exactly when its unrolling runs out of levels. -/
theorem generate_endless_iff (settings : ViewSettings) (qualifier : Option String)
    : View.generate registry { settings with maxDepth? := none } (.base kind) model qualifier
        = .error .endless
      ↔ RunsOut (unroll registry kind (registry.size + 2) model) := by
  rw [generate_base]
  constructor
  · intro endless
    obtain ⟨stop, out, halt⟩ := Except.mapError_eq_error_iff.mp
      (Except.map_eq_error_iff.mp endless)
    cases stop with
    | tooDeep below => exact ⟨below, out⟩
    | refused problem => contradiction
  · intro short
    obtain ⟨path, out⟩ := short
    simp [levelsFor, out, Stop.toHalt]

/-- An unlimited view that has no end has none with any fuel, so the fuel it is given hides
nothing. The number of models bounds the levels of one that ends.
-/
theorem generate_endless_iff_forall_fuel (settings : ViewSettings) (qualifier : Option String)
    : View.generate registry { settings with maxDepth? := none } (.base kind) model qualifier
        = .error .endless
      ↔ ∀ fuel,
          (expand Model.definition registry none kind fuel [] qualifier model).outcome
            = .error .endless := by
  constructor
  · intro endless fuel
    obtain ⟨path, out⟩ := runsOut_forever
      (runsOut_of_le (Nat.le_succ _) ((generate_endless_iff settings qualifier).mp endless)) fuel
    rw [expand_outcome registry kind (show Leaves [] fuel fuel none from rfl)]
    simp [out, Stop.toHalt]
  · exact fun endless => endless (registry.size + 2)

/-- Outcomes that do not hang on levels mean the same under any limit. -/
theorem mapError_toHalt_of_settled {α : Type} {outcome : Except Stop α}
    (h : ¬ RunsOut outcome) (limit other : Option Nat)
    : outcome.mapError (Stop.toHalt limit []) = outcome.mapError (Stop.toHalt other []) := by
  cases outcome with
  | ok value => rfl
  | error stop =>
      cases stop with
      | refused problem => simp
      | tooDeep path => exact absurd ⟨path, rfl⟩ h

/-- A limited view that is not refused for its depth is the same under any greater limit. And
it is the same without a limit, where its expansion therefore ends.
-/
theorem generate_eq_of_not_refusedForDepth (settings : ViewSettings) (qualifier : Option String)
    {limit larger : Nat} (le : limit ≤ larger)
    (answered
      : ¬ RefusedForDepth
          (View.generate registry { settings with maxDepth? := some limit } (.base kind) model
            qualifier))
    : View.generate registry { settings with maxDepth? := some larger } (.base kind) model
          qualifier
        = View.generate registry { settings with maxDepth? := some limit } (.base kind) model
            qualifier
      ∧ View.generate registry { settings with maxDepth? := none } (.base kind) model qualifier
        = View.generate registry { settings with maxDepth? := some limit } (.base kind) model
            qualifier
      ∧ View.generate registry { settings with maxDepth? := none } (.base kind) model qualifier
        ≠ .error .endless := by
  rw [refusedForDepth_iff] at answered
  have unlimited : ¬ RunsOut (unroll registry kind (registry.size + 2) model) := fun out =>
    answered (runsOut_forever (runsOut_of_le (Nat.le_succ _) out) (limit + 1))
  have ends := mt (generate_endless_iff settings qualifier).mp unlimited
  refine ⟨?_, ?_, ends⟩
  · simp only [generate_base, levelsFor]
    rw [unroll_of_le (Nat.succ_le_succ le) answered,
      mapError_toHalt_of_settled answered (some larger) (some limit)]
  · simp only [generate_base, levelsFor]
    rw [unroll_unique unlimited answered,
      mapError_toHalt_of_settled answered none (some limit)]

/-- Creating a library embeds its books and their authors, under a limit of two or any other
above it.
-/
theorem createLibrary_limited_alike
    : 2 ≤ 7
      ∧ ¬ RefusedForDepth
        (View.generate bookTrade { maxDepth? := some 2 } (.base .create) libraryModel none)
      ∧ View.generate bookTrade { maxDepth? := some 7 } (.base .create) libraryModel none
        = View.generate bookTrade { maxDepth? := some 2 } (.base .create) libraryModel none
      ∧ View.generate bookTrade { maxDepth? := none } (.base .create) libraryModel none
        = View.generate bookTrade { maxDepth? := some 2 } (.base .create) libraryModel none
      ∧ View.generate bookTrade { maxDepth? := none } (.base .create) libraryModel none
        ≠ .error .endless := by
  have answered
      : ¬ RefusedForDepth
          (View.generate bookTrade { maxDepth? := some 2 } (.base .create) libraryModel
            none) := by
    intro refusal
    obtain ⟨limit, path, refused⟩ := refusal
    have document
        : (View.generate bookTrade { maxDepth? := some 2 } (.base .create) libraryModel
            none).isOk :=
      rfl
    rw [refused] at document
    contradiction
  exact ⟨by decide, answered,
    generate_eq_of_not_refusedForDepth {} none (by decide) answered⟩

/-- From one below the number of models on, a limit that refuses a registered model for its
depth is as good as any: every limit refuses it so, whatever the other settings.
-/
theorem refusedForDepth_of_size_le (settings : ViewSettings) (qualifier : Option String)
    {limit : Nat} (registered : model ∈ registry.models) (enough : registry.size - 1 ≤ limit)
    (refused
      : RefusedForDepth
          (View.generate registry { settings with maxDepth? := some limit } (.base kind) model
            qualifier))
    (other : ViewSettings) (another : Option String) (anyLimit : Nat)
    : RefusedForDepth
        (View.generate registry { other with maxDepth? := some anyLimit } (.base kind) model
          another) := by
  rw [refusedForDepth_iff] at refused ⊢
  have short : RunsOut (unroll registry kind registry.size model) :=
    runsOut_of_le (by omega) refused
  exact runsOut_forever_of_registered registered short (anyLimit + 1)

/-- Reading a book in full goes round from book to author and back, so no limit admits it. -/
theorem readBook_refusedForDepth
    : bookModel ∈ bookTrade.models
      ∧ bookTrade.size - 1 ≤ 2
      ∧ RefusedForDepth
        (View.generate bookTrade { maxDepth? := some 2 } (.base .full) bookModel none)
      ∧ RefusedForDepth
        (View.generate bookTrade { maxDepth? := some 7 } (.base .full) bookModel
          (some "v2")) := by
  have registered : bookModel ∈ bookTrade.models := by simp [bookTrade]
  have refused
      : RefusedForDepth
          (View.generate bookTrade { maxDepth? := some 2 } (.base .full) bookModel none) :=
    ⟨2, ["Book", "Author", "Book", "Author"], rfl⟩
  exact ⟨registered, by decide, refused,
    refusedForDepth_of_size_le {} none registered (by decide) refused {} (some "v2") 7⟩

end EntityViews
