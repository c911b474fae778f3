import EntityViews.Proofs.Command.Answers
import EntityViews.Proofs.View.Forms
import Mathlib

/-! Checking all models of a manifest, and printing their views one by one.
A check tries the views of each model without a qualifier and stops at the first that fails. It
fails for exactly the models of which some view cannot be printed, with the words of that error.
-/

namespace EntityViews

namespace Command

variable {files : Files} {path : String} {registry : Registry} {settings : ViewSettings}
  {model : Model}

-----------------------------------------------------------------------------------------
-- Checking one model
-----------------------------------------------------------------------------------------

/-- What trying a view of a model comes to. -/
def tried (registry : Registry) (settings : ViewSettings) (model : Model) (view : View)
    : Except Halt Unit := do
  let _ ← View.generate registry settings view model none

/-- What checking a model comes to. -/
def verdict (registry : Registry) (settings : ViewSettings) (model : Model)
    : Except Halt Unit := do
  let _ ← model.definition.mapError Halt.refused
  View.all.forM (tried registry settings model)

theorem yields_checkModel (serials : (registry.models.map Model.serial).Nodup)
    (registered : model ∈ registry.models)
    : Work.Yields registry.models (checkModel registry settings model).run
        (verdict registry settings model) := by
  have compiles := (Work.Yields.definition serials registered).adapt Halt.refused
  refine compiles.attempt_bind fun _ _ => ?_
  refine Work.Yields.forM fun view _ => ?_
  have tries := Work.Yields.view serials (List.Subset.refl _) registered settings view none
  refine tries.attempt_bind fun _ _ => ?_
  exact .pure _

/-- A view that is tried fails as it does under any qualifier. -/
theorem tried_eq_error_iff {view : View} {halt : Halt} (qualifier : Option String)
    : tried registry settings model view = .error halt
      ↔ View.generate registry settings view model qualifier = .error halt := by
  have unqualified
      : tried registry settings model view = .error halt
        ↔ View.generate registry settings view model none = .error halt := by
    unfold tried
    cases View.generate registry settings view model none <;> simp
  exact unqualified.trans ((generate_error_iff none).trans (generate_error_iff none).symm)

/-- A view that is tried succeeds as it does under any qualifier. -/
theorem tried_eq_ok_iff {view : View} (qualifier : Option String)
    : tried registry settings model view = .ok ()
      ↔ ∃ document,
          View.generate registry settings view model qualifier = .ok document := by
  rw [Except.exists_ok_iff]
  simp only [ne_eq, ← tried_eq_error_iff qualifier]
  cases tried registry settings model view <;> simp

/-- A view that is tried comes to what the base view comes to that it starts from. -/
theorem tried_eq_base (view : View)
    : tried registry settings model view
      = tried registry settings model (.base view.baseKind) := by
  cases base : tried registry settings model (.base view.baseKind) with
  | error halt =>
      rw [tried_eq_error_iff none] at base ⊢
      exact (generate_error_iff none).mpr base
  | ok _ =>
      rw [tried_eq_ok_iff none] at base ⊢
      exact (exists_generate_ok_iff none).mpr base

/-- Compiling a model and trying its forms adds nothing to trying its base views. -/
theorem verdict_eq (registry : Registry) (settings : ViewSettings) (model : Model)
    : verdict registry settings model
      = ViewKind.all.forM fun kind => tried registry settings model (.base kind) := by
  unfold verdict
  cases compiles : model.definition with
  | error problem =>
      have first : tried registry settings model (.base .create) = .error (.refused problem) :=
        (tried_eq_error_iff none).mpr (generate_base_of_refused compiles)
      simp [ViewKind.all, first]
  | ok definition =>
      have forms (kind : FormKind)
          : tried registry settings model (.form kind)
            = tried registry settings model (.base kind.base) :=
        tried_eq_base (.form kind)
      simp only [View.all, ViewKind.all, List.forM_eq_forM, List.forM_cons, List.forM_nil,
        forms, FormKind.base, Except.mapError_ok, Except.ok_bind]
      cases tried registry settings model (.base .create) <;>
        cases tried registry settings model (.base .update) <;> simp

/-- A model passes when each of its views can be generated, under whatever qualifier. -/
theorem verdict_eq_ok_iff
    : verdict registry settings model = .ok ()
      ↔ ∀ view qualifier,
          ∃ document, View.generate registry settings view model qualifier = .ok document := by
  rw [verdict_eq, List.forM_eq_ok_iff]
  constructor
  · intro passes view qualifier
    rw [← tried_eq_ok_iff, tried_eq_base]
    exact passes view.baseKind (by cases view.baseKind <;> simp [ViewKind.all])
  · intro generated kind _
    exact (tried_eq_ok_iff none).mpr (generated (.base kind) none)

/-- A model fails with the error of its first base view that fails. -/
theorem verdict_eq_error_iff {halt : Halt}
    : verdict registry settings model = .error halt
      ↔ ∃ before kind after,
          ViewKind.all = before ++ kind :: after
          ∧ (∀ earlier ∈ before, tried registry settings model (.base earlier) = .ok ())
          ∧ tried registry settings model (.base kind) = .error halt := by
  rw [verdict_eq, List.forM_eq_error_iff]

-----------------------------------------------------------------------------------------
-- Checking all models
-----------------------------------------------------------------------------------------

/-- The models that fail a check, in order, each with the reason. -/
def failures (registry : Registry) (settings : ViewSettings) (models : List Model)
    : List (String × Halt) :=
  models.filterMap fun model =>
    match verdict registry settings model with
    | .ok _ => none
    | .error halt => some (model.name, halt)

theorem failures_cons_of_ok (h : verdict registry settings model = .ok ()) (rest : List Model)
    : failures registry settings (model :: rest) = failures registry settings rest := by
  rw [failures, List.filterMap_cons, h]
  rfl

theorem failures_cons_of_error {halt : Halt} (h : verdict registry settings model = .error halt)
    (rest : List Model)
    : failures registry settings (model :: rest)
      = (model.name, halt) :: failures registry settings rest := by
  rw [failures, List.filterMap_cons, h]
  rfl

/-- No model is said to fail when all of them pass. -/
theorem failures_eq_nil_iff {models : List Model}
    : failures registry settings models = []
      ↔ ∀ model ∈ models, verdict registry settings model = .ok () := by
  rw [failures, List.filterMap_eq_nil_iff]
  refine forall₂_congr fun model _ => ?_
  cases verdict registry settings model <;> simp

/-- Models are checked one after the other, by induction on them. -/
theorem yields_checkModels (serials : (registry.models.map Model.serial).Nodup)
    {models : List Model} (registered : models ⊆ registry.models)
    : Work.Yields registry.models (checkModels registry settings models)
        (failures registry settings models) := by
  induction models with
  | nil => exact .pure []
  | cons model rest ih =>
      obtain ⟨here, later⟩ := List.cons_subset.mp registered
      refine (yields_checkModel serials here).bind ?_
      cases judged : verdict registry settings model with
      | ok _ =>
          rw [failures_cons_of_ok judged]
          exact (Work.Yields.note _).bind (ih later)
      | error halt =>
          rw [failures_cons_of_error judged]
          exact (ih later).bind (.pure _)

/-- A check says how many models there are, or which of them fail. -/
theorem answer_check (h : Loads files path registry)
    : answer files settings (.check path)
      = match failures registry settings registry.models with
        | [] => .ok s!"{registry.size} models ok"
        | failed => .error (.failures failed registry.size) := by
  refine h.outcome ?_
  have checks
      : Work.Yields registry.models (checkModels registry settings registry.models)
          (failures registry settings registry.models) :=
    yields_checkModels h.serials (List.Subset.refl _)
  refine checks.lift.attempt_then ?_
  cases failures registry settings registry.models <;> exact .pure _

/-- A check passes when every model does. -/
theorem answer_check_ok_iff (h : Loads files path registry)
    : (∃ output, answer files settings (.check path) = .ok output)
      ↔ ∀ model ∈ registry.models, verdict registry settings model = .ok () := by
  rw [answer_check h, ← failures_eq_nil_iff]
  cases failures registry settings registry.models <;> simp

/-- A check that fails tells the failures. -/
theorem eq_failures_of_answer_check (h : Loads files path registry) {error : CommandError}
    (failed : answer files settings (.check path) = .error error)
    : error = .failures (failures registry settings registry.models) registry.size := by
  rw [answer_check h] at failed
  cases told : failures registry settings registry.models with
  | nil =>
      rw [told] at failed
      contradiction
  | cons first rest =>
      rw [told] at failed
      exact (Except.error.inj failed).symm

/-- The models that fail a check. -/
def failing (registry : Registry) (settings : ViewSettings) (models : List Model) : List Model :=
  models.filter fun model => !(verdict registry settings model).isOk

theorem mem_failing_iff {models : List Model}
    : model ∈ failing registry settings models
      ↔ model ∈ models ∧ ∃ halt, verdict registry settings model = .error halt := by
  unfold failing
  rw [List.mem_filter]
  cases verdict registry settings model <;> simp [Except.isOk, Except.toBool]

/-- Each model that fails has its own failure, in the same order, by induction on the models. -/
theorem forall₂_failures (settings : ViewSettings) {models : List Model}
    (registered : models ⊆ registry.models)
    : List.Forall₂
        (fun model failure =>
          model ∈ registry.models
          ∧ verdict registry settings model = .error failure.2
          ∧ failure.1 = model.name)
        (failing registry settings models) (failures registry settings models) := by
  induction models with
  | nil => exact .nil
  | cons model rest ih =>
      obtain ⟨here, later⟩ := List.cons_subset.mp registered
      cases judged : verdict registry settings model with
      | ok _ =>
          rw [failures_cons_of_ok judged]
          simpa [failing, judged, Except.isOk, Except.toBool] using ih later
      | error halt =>
          rw [failures_cons_of_error judged]
          simpa [failing, judged, here, Except.isOk, Except.toBool] using ih later

-----------------------------------------------------------------------------------------
-- A check beside the views on their own
-----------------------------------------------------------------------------------------

/-- The base view is the first of the model that cannot be printed, and the error is that of
printing it, under whatever qualifier.
-/
structure FirstFailing (files : Files) (settings : ViewSettings) (path : String)
    (model : Model) (kind : ViewKind) (error : CommandError)
    : Prop where
  fails
    : ∀ qualifier,
        answer files settings (.schema path model.name (.base kind) qualifier) = .error error
  first
    : ∃ before after,
        ViewKind.all = before ++ kind :: after
        ∧ ∀ earlier ∈ before,
            ∀ qualifier,
              ∃ output,
                answer files settings (.schema path model.name (.base earlier) qualifier)
                  = .ok output

/-- The models are those of which some view cannot be printed, in order of registration. The
lines say of each, behind its name, what printing its first failing view says.
-/
structure Reports (files : Files) (settings : ViewSettings) (path : String)
    (registry : Registry) (failed : List Model) (lines : List String)
    : Prop where
  ordered : failed.Sublist registry.models
  mem_iff
    : ∀ model ∈ registry.models,
        model ∈ failed
        ↔ ∃ view qualifier error,
            answer files settings (.schema path model.name view qualifier) = .error error
  worded
    : List.Forall₂
        (fun model line =>
          ∃ kind error,
            FirstFailing files settings path model kind error
            ∧ line = model.name ++ ": " ++ error.message)
        failed lines

/-- A check of the manifest says what printing the views of its models one by one says. Forms
fail along with their base views. Under a limit, or where all expansions end, every error is a
refusal.
-/
structure ChecksViews (files : Files) (settings : ViewSettings) (path : String)
    (registry : Registry)
    : Prop where
  passes_iff
    : (∃ output, answer files settings (.check path) = .ok output)
      ↔ ∀ model ∈ registry.models,
          ∀ view qualifier,
            ∃ output,
              answer files settings (.schema path model.name view qualifier) = .ok output
  entities
    : (∃ output, answer files settings (.check path) = .ok output)
      → ∀ model ∈ registry.models,
          ∃ output, answer files settings (.entity path model.name) = .ok output
  report
    : ∀ error,
        answer files settings (.check path) = .error error
        → ∃ failed lines,
            Reports files settings path registry failed lines
            ∧ error.message
              = s!"{failed.length} of {registry.size} models failed\n"
                ++ "\n".intercalate lines
  forms
    : ∀ model ∈ registry.models,
        ∀ kind qualifier error,
          answer files settings (.schema path model.name (.form kind) qualifier) = .error error
          → answer files settings (.schema path model.name (.base kind.base) qualifier)
            = .error error
  genuine
    : (settings.maxDepth?.isSome
        ∨ ∀ model ∈ registry.models,
            ∀ kind, View.generate registry settings (.base kind) model none ≠ .error .endless)
      → ∀ model ∈ registry.models,
          ∀ view qualifier error,
            answer files settings (.schema path model.name view qualifier) = .error error
            → ∃ problem, error = .model (.refused problem)

/-- The failure of a model is that of printing its first failing base view. -/
theorem firstFailing_of_verdict (h : Loads files path registry)
    (registered : model ∈ registry.models) {halt : Halt}
    (judged : verdict registry settings model = .error halt)
    : ∃ kind, FirstFailing files settings path model kind (.model halt) := by
  obtain ⟨before, kind, after, split, succeed, failed⟩ := verdict_eq_error_iff.mp judged
  refine ⟨kind, ?fails, before, after, split, ?first⟩
  case fails =>
    intro qualifier
    refine (answer_schema_error_iff h registered).mpr ⟨halt, ?_, rfl⟩
    exact (tried_eq_error_iff qualifier).mp failed
  case first =>
    intro earlier member qualifier
    refine (answer_schema_ok_iff h registered).mpr ?_
    exact (tried_eq_ok_iff qualifier).mp (succeed earlier member)

/-- A model fails a check exactly when some view of it cannot be printed. -/
theorem verdict_error_iff_answer (h : Loads files path registry)
    (registered : model ∈ registry.models)
    : (∃ halt, verdict registry settings model = .error halt)
      ↔ ∃ view qualifier error,
          answer files settings (.schema path model.name view qualifier) = .error error := by
  constructor
  · rintro ⟨halt, judged⟩
    obtain ⟨kind, first⟩ := firstFailing_of_verdict h registered judged
    exact ⟨.base kind, none, .model halt, first.fails none⟩
  · rintro ⟨view, qualifier, error, failed⟩
    obtain ⟨halt, stopped, _⟩ := (answer_schema_error_iff h registered).mp failed
    cases judged : verdict registry settings model with
    | error halt => exact ⟨halt, rfl⟩
    | ok _ =>
        obtain ⟨document, generated⟩ := verdict_eq_ok_iff.mp judged view qualifier
        rw [generated] at stopped
        contradiction

/-- A check passes exactly when every view of every model can be printed under every qualifier.
Otherwise it tells exactly the models of which some view cannot, each with the words of its first
failing base view. A form fails only along with its base view.
-/
theorem checksViews_of_loads (h : Loads files path registry) (settings : ViewSettings)
    : ChecksViews files settings path registry := by
  refine ⟨?passes_iff, ?entities, ?report, ?forms, ?genuine⟩
  case passes_iff =>
    rw [answer_check_ok_iff h]
    refine forall₂_congr fun model registered => ?_
    rw [verdict_eq_ok_iff]
    refine forall₂_congr fun view qualifier => ?_
    exact (answer_schema_ok_iff h registered).symm
  case entities =>
    intro passes model registered
    have passed := (answer_check_ok_iff h).mp passes model registered
    obtain ⟨document, generated⟩ := verdict_eq_ok_iff.mp passed (.base .create) none
    obtain ⟨definition, compiles⟩ := exists_definition_of_generate generated
    rw [answer_entity h registered, Model.entity, compiles]
    exact ⟨_, rfl⟩
  case report =>
    intro error failed
    obtain rfl := eq_failures_of_answer_check h failed
    have told := forall₂_failures settings (List.Subset.refl registry.models)
    refine ⟨failing registry settings registry.models,
      (failures registry settings registry.models).map CommandError.failureText,
      ⟨List.filter_sublist, ?_, ?_⟩, ?_⟩
    · intro model registered
      rw [mem_failing_iff, and_iff_right registered]
      exact verdict_error_iff_answer h registered
    · rw [List.forall₂_map_right_iff]
      refine told.imp fun model failure reason => ?_
      obtain ⟨registered, judged, named⟩ := reason
      obtain ⟨kind, first⟩ := firstFailing_of_verdict h registered judged
      refine ⟨kind, .model failure.2, first, ?_⟩
      exact congrArg (· ++ ": " ++ failure.2.description) named
    · rw [told.length_eq]
      rfl
  case forms =>
    intro model registered kind qualifier error failed
    obtain ⟨halt, stopped, same⟩ := (answer_schema_error_iff h registered).mp failed
    refine (answer_schema_error_iff h registered).mpr ⟨halt, ?_, same⟩
    exact (generate_error_iff qualifier).mp stopped
  case genuine =>
    intro ends model registered view qualifier error failed
    obtain ⟨halt, stopped, rfl⟩ := (answer_schema_error_iff h registered).mp failed
    cases halt with
    | refused problem => exact ⟨problem, rfl⟩
    | endless =>
        rcases ends with limited | ends
        · exact absurd stopped (generate_ne_endless_of_limited limited)
        · exact absurd ((generate_error_iff none).mp stopped) (ends model registered _)

-----------------------------------------------------------------------------------------
-- A manifest that fails its check
-----------------------------------------------------------------------------------------

/-- A parcel stands for itself. -/
def parcelModel : Model :=
  { serial := 0, name := "Parcel", fields := .ofList [("weight", .scalar .integer)] }

/-- A letter is read together with its sender, whom nothing declares. -/
def letterModel : Model :=
  {
    serial := 1,
    name := "Letter",
    fields := .ofList
      [("sender", .relation { kind := .manyToOne, target := .name "Person", eager := true })]
  }

/-- Parcels and letters, of which only parcels can be read in full. -/
def postOffice : Registry :=
  .ofModels [parcelModel, letterModel] (by decide)

/-- The manifest of the post office, in the only file there is. -/
def postOfficeFiles : Files := fun path =>
  if path = "m" then
    .text
      ("[models.Parcel.fields]\nweight = \"integer\"\n"
        ++ "[models.Letter.fields.sender]\n"
        ++ "type = \"many-to-one\"\ntarget = \"Person\"\neager = true\n")
  else .missing .notFound

theorem postOffice_loads : Loads postOfficeFiles "m" postOffice := by
  unfold Loads
  cbv

/-- The check of the post office fails and reports what printing its views says. -/
theorem checkPostOffice_reports
    : Loads postOfficeFiles "m" postOffice
      ∧ ∃ error failed lines,
          answer postOfficeFiles {} (.check "m") = .error error
          ∧ Reports postOfficeFiles {} "m" postOffice failed lines := by
  have told
      : answer postOfficeFiles {} (.check "m")
        = .error (.failures [("Letter", .refused (.unknownModel "Person"))] 2) := by
    rw [answer_check postOffice_loads]
    rfl
  obtain ⟨failed, lines, reports, _⟩ := (checksViews_of_loads postOffice_loads {}).report _ told
  exact ⟨postOffice_loads, _, failed, lines, told, reports⟩

end Command

end EntityViews
