import EntityViews.Proofs.View.Unrolling

/-! Forms beside the base views they start from.
A base view compiles its model, so a form has nothing left to fail at. A view fails as the base
view behind it does, whatever the qualifier.
-/

namespace EntityViews

/-- The base view that a view starts from. -/
def View.baseKind : View → ViewKind
  | .base kind => kind
  | .form kind => kind.base

section Generated

variable {registry : Registry} {settings : ViewSettings} {kind : ViewKind} {view : View}
  {model : Model} {qualifier : Option String}

/-- A form is made of the base document once the model is compiled again. -/
theorem generate_form (registry : Registry) (settings : ViewSettings) (kind : FormKind)
    (model : Model) (qualifier : Option String)
    : View.generate registry settings (.form kind) model qualifier
      = do
          let document ←
            View.generate registry settings (.base kind.base) model qualifier
          let definition ← model.definition.mapError .refused
          return definition.toForm settings.fileMark
            (schemaId model.name kind.label qualifier) document := by
  simp only [View.generate, View.generateWith, formViewWith, Traced.outcome_bind,
    Traced.outcome_step, Traced.outcome_ofExcept, Traced.outcome_pure, Except.ok_bind]
  rfl

/-- A form has a document exactly if its base view has one that it is made of. -/
theorem generate_form_eq_ok_iff {form : FormKind} {document : Document}
    : View.generate registry settings (.form form) model qualifier = .ok document
      ↔ ∃ created definition,
          View.generate registry settings (.base form.base) model qualifier = .ok created
          ∧ model.definition = .ok definition
          ∧ definition.toForm settings.fileMark
                (schemaId model.name form.label qualifier) created
            = document := by
  simp only [generate_form, Except.bind_eq_ok_iff, Except.mapError_eq_ok_iff,
    Except.pure_eq_ok, Except.ok.injEq, exists_and_left]

/-- A base view is refused for a model that does not compile. -/
theorem generate_base_of_refused {problem : SchemaError}
    (h : model.definition = .error problem)
    : View.generate registry settings (.base kind) model qualifier
      = .error (.refused problem) := by
  obtain ⟨levels, count⟩ : ∃ levels, levelsFor registry settings.maxDepth? = levels + 1 := by
    cases settings.maxDepth? <;> exact ⟨_, rfl⟩
  rw [generate_base, count, unroll_refused h, Except.map_eq_error_iff,
    Except.mapError_eq_error_iff]
  exact ⟨_, rfl, Stop.toHalt_refused _ _ _⟩

/-- A base view that has a document has compiled its model. -/
theorem exists_definition_of_generate {document : Document}
    (h : View.generate registry settings (.base kind) model qualifier = .ok document)
    : ∃ definition, model.definition = .ok definition := by
  refine Except.exists_ok_iff.mpr fun problem refused => ?_
  rw [generate_base_of_refused refused] at h
  contradiction

/-- The error of a base view has nothing to do with its qualifier. -/
theorem generate_base_error_iff {halt : Halt} (another : Option String)
    : View.generate registry settings (.base kind) model qualifier = .error halt
      ↔ View.generate registry settings (.base kind) model another = .error halt := by
  simp only [generate_base, Except.map_eq_error_iff]

/-- A view fails exactly as the base view does that it starts from. -/
theorem generate_error_iff {halt : Halt} (another : Option String)
    : View.generate registry settings view model qualifier = .error halt
      ↔ View.generate registry settings (.base view.baseKind) model another = .error halt := by
  cases view with
  | base kind => exact generate_base_error_iff another
  | form kind =>
      rw [generate_form, Except.bind_eq_error_iff, generate_base_error_iff another]
      refine or_iff_left ?_
      rintro ⟨document, answered, failed⟩
      obtain ⟨definition, compiles⟩ := exists_definition_of_generate answered
      rw [compiles] at failed
      contradiction

/-- A view has a document exactly when the base view does that it starts from. -/
theorem exists_generate_ok_iff (another : Option String)
    : (∃ document, View.generate registry settings view model qualifier = .ok document)
      ↔ ∃ document,
          View.generate registry settings (.base view.baseKind) model another
            = .ok document := by
  rw [Except.exists_ok_iff, Except.exists_ok_iff]
  exact forall_congr' fun halt => not_congr (generate_error_iff another)

/-- A limit lets no view go on without end. -/
theorem generate_ne_endless_of_limited (limited : settings.maxDepth?.isSome)
    : View.generate registry settings view model qualifier ≠ .error .endless := by
  obtain ⟨limit, limits⟩ := Option.isSome_iff_exists.mp limited
  intro endless
  have base := (generate_error_iff none).mp endless
  rw [generate_base, Except.map_eq_error_iff, Except.mapError_eq_error_iff] at base
  obtain ⟨stop, _, halts⟩ := base
  obtain ⟨problem, refused⟩ := stop.exists_toHalt_eq_refused limit []
  rw [limits, refused] at halts
  contradiction

end Generated

end EntityViews
