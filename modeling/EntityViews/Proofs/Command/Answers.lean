import EntityViews.Command
import EntityViews.Proofs.Journal.Work
import EntityViews.Proofs.Registry.Registration

/-! What the commands on a manifest answer.
A command loads the manifest into a registry under an empty journal. From there on it answers
what the models of the registry come to on their own.
-/

namespace EntityViews

namespace Command

variable {files : Files} {path : String} {registry : Registry} {settings : ViewSettings}
  {model : Model}

/-- What a command prints, or why it fails. -/
def answer (files : Files) (settings : ViewSettings) (command : Command)
    : Except CommandError String :=
  ((command.run files settings).run {}).1

/-- The manifest file loads into the registry. -/
def Loads (files : Files) (path : String) (registry : Registry) : Prop :=
  ((loadRegistry files path).run {}).1 = .ok registry

/-- Registering the models of a manifest compiles none of them. -/
theorem run_registerManifest (manifest : Manifest) (serial : Nat) (registry : Registry)
    (journal : Journal)
    : ∃ later,
        (Work.registerManifest manifest serial registry).run journal
          = (registry.registerAll (manifest.modelsFrom serial), later)
        ∧ later.states = journal.states := by
  cases registered : registry.registerAll (manifest.modelsFrom serial) with
  | mk extended outcome =>
      unfold Work.registerManifest Work.registerAll
      rw [registered]
      cases outcome <;> exact ⟨_, rfl, rfl⟩

/-- Loading a manifest registers its models, if no name is taken, and compiles none of them. -/
theorem run_loadRegistry {manifest : Manifest} (h : Manifest.ofFile files path = .ok manifest)
    (journal : Journal)
    : ∃ later,
        (loadRegistry files path).run.run journal
          = ((fun _ => (Registry.empty.registerAll (manifest.modelsFrom 0)).1)
              <$> (Registry.empty.registerAll (manifest.modelsFrom 0)).2.mapError
                fun problem => .model (.refused problem),
              later)
        ∧ later.states = journal.states := by
  obtain ⟨later, registers, kept⟩ := run_registerManifest manifest 0 .empty journal
  refine ⟨later, ?_, kept⟩
  unfold loadRegistry
  rw [h]
  refine (Attempt.run_bind_of_ok (Attempt.run_lift registers)).trans ?_
  cases Registry.empty.registerAll (manifest.modelsFrom 0) with
  | mk extended outcome => cases outcome <;> rfl

/-- A manifest that loads is registered as a whole, under a journal that is as it has to be. -/
theorem Loads.cases (h : Loads files path registry)
    : ∃ manifest later,
        (loadRegistry files path).run.run {} = (.ok registry, later)
        ∧ later.FaithfulTo registry.models
        ∧ registry.models = Manifest.modelsFrom manifest 0 := by
  unfold Loads at h
  cases read : Manifest.ofFile files path with
  | error problem =>
      unfold loadRegistry at h
      rw [read] at h
      contradiction
  | ok manifest =>
      obtain ⟨later, loaded, kept⟩ := run_loadRegistry read {}
      have outcome := (congrArg Prod.fst loaded).symm.trans h
      simp only [Except.map_eq_ok_iff, Except.mapError_eq_ok_iff] at outcome
      obtain ⟨_, registered, rfl⟩ := outcome
      refine ⟨manifest, later, ?_, Journal.faithfulTo_of_states_nil kept _, ?_⟩
      · rw [loaded, registered]
        rfl
      · exact Registry.models_of_registerAll (Prod.ext rfl registered)

/-- The models of a manifest have different serial numbers. -/
theorem Loads.serials (h : Loads files path registry)
    : (registry.models.map Model.serial).Nodup := by
  obtain ⟨manifest, _, _, _, models⟩ := h.cases
  rw [models, manifest.map_serial_modelsFrom]
  exact List.nodup_range'

/-- A command answers what its work on the loaded registry comes to. -/
theorem Loads.outcome (h : Loads files path registry)
    {work : Registry → Attempt CommandError String} {outcome : Except CommandError String}
    (yields : Work.Yields registry.models (work registry).run outcome)
    : ((loadRegistry files path >>= work).run {}).1 = outcome := by
  obtain ⟨_, later, loaded, faithful, _⟩ := h.cases
  obtain ⟨_, did, _⟩ := yields later faithful
  exact congrArg Prod.fst ((Attempt.run_bind_of_ok loaded).trans did)

/-- A registered model is found by its name. -/
theorem yields_findModel (registered : model ∈ registry.models)
    : Work.Yields registry.models (findModel registry model.name).run (.ok model) := by
  unfold findModel
  rw [Registry.get_eq_ok_iff.mpr ⟨registered, rfl⟩]
  exact .pure _

/-- Printing a view of a registered model prints the document, or fails as the view does. -/
theorem answer_schema (h : Loads files path registry) (registered : model ∈ registry.models)
    (view : View) (qualifier : Option String)
    : answer files settings (.schema path model.name view qualifier)
      = (fun document => document.toJson.pretty)
          <$> (View.generate registry settings view model qualifier).mapError .model := by
  refine h.outcome ((yields_findModel registered).attempt_then ?_)
  have yields := Work.Yields.view h.serials (List.Subset.refl _) registered settings view
    qualifier
  exact (yields.adapt _).attempt_map _

/-- A view is printed when it has a document. -/
theorem answer_schema_ok_iff (h : Loads files path registry)
    (registered : model ∈ registry.models) {view : View} {qualifier : Option String}
    : (∃ output, answer files settings (.schema path model.name view qualifier) = .ok output)
      ↔ ∃ document,
          View.generate registry settings view model qualifier = .ok document := by
  rw [answer_schema h registered]
  cases View.generate registry settings view model qualifier <;> simp

/-- A view that is not printed has no document, for the same reason. -/
theorem answer_schema_error_iff (h : Loads files path registry)
    (registered : model ∈ registry.models) {view : View} {qualifier : Option String}
    {error : CommandError}
    : answer files settings (.schema path model.name view qualifier) = .error error
      ↔ ∃ halt,
          View.generate registry settings view model qualifier = .error halt
          ∧ CommandError.model halt = error := by
  rw [answer_schema h registered, Except.map_eq_error_iff, Except.mapError_eq_error_iff]

/-- Printing the entity of a registered model prints it, or fails as the model does to compile.
-/
theorem answer_entity (h : Loads files path registry) (registered : model ∈ registry.models)
    : answer files settings (.entity path model.name)
      = (fun entity => entity.toJson.pretty)
          <$> model.entity.mapError fun problem => .model (.refused problem) := by
  refine h.outcome ((yields_findModel registered).attempt_then ?_)
  exact ((Work.Yields.entity h.serials registered).adapt _).attempt_map _

end Command

end EntityViews
