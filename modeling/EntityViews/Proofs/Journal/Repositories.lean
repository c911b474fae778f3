import EntityViews.Proofs.Journal.History

/-! Repositories of models over whole runs.
A model has no repository until a task makes one for it, and from then on that one. Only while it
has none is a database layer asked, and only for the entity that the model compiles to.
-/

namespace EntityViews

namespace Journal

variable {journal : Journal} {models : List Model} {model : Model}

/-- The repository that is kept for a model. -/
def handle? (journal : Journal) (model : Model) : Option Repository :=
  (journal.stateOf model).repository?

@[simp]
theorem handle?_note (events : List Event)
    : (journal.note events).handle? model = journal.handle? model :=
  rfl

@[simp]
theorem handle?_request (entity : Entity)
    : (journal.request entity).handle? model = journal.handle? model :=
  rfl

@[simp]
theorem requests_note (events : List Event)
    : (journal.note events).requests = journal.requests :=
  rfl

@[simp]
theorem requests_request (entity : Entity)
    : (journal.request entity).requests = journal.requests ++ [entity] :=
  rfl

@[simp]
theorem requests_setState (state : ModelState)
    : (journal.setState model state).requests = journal.requests :=
  rfl

/-- A state that is set gives its repository to the models with its serial number. -/
theorem handle?_setState (journal : Journal) (model other : Model) (state : ModelState)
    : (journal.setState model state).handle? other
      = if other.serial = model.serial then state.repository? else journal.handle? other := by
  rw [handle?, stateOf_setState, handle?]
  split <;> rfl

/-- The journal keeps the repositories of another one and has made its requests. -/
structure AttachedLike (other journal : Journal) : Prop where
  handles : journal.handle? = other.handle?
  requests : journal.requests = other.requests

theorem attachedLike_afterDefining (journal : Journal) (model : Model)
    : journal.AttachedLike (journal.afterDefining model) := by
  unfold afterDefining
  split
  · exact ⟨rfl, rfl⟩
  · split
    · refine ⟨funext fun other => ?_, rfl⟩
      rw [handle?_note, handle?_setState]
      split
      · rename_i same
        rw [handle?, stateOf, stateOf, same]
      · rfl
    · exact ⟨rfl, rfl⟩

/-- Notes and definitions have no part in repositories. -/
theorem stable_attachedLike (other : Journal) (models : List Model)
    : Stable other.AttachedLike models where
  note like _ := ⟨like.handles, like.requests⟩
  afterDefining {journal model} like _ :=
    have defined := attachedLike_afterDefining journal model
    ⟨defined.handles.trans like.handles, defined.requests.trans like.requests⟩

end Journal

namespace Work

variable {journal : Journal} {models : List Model} {model : Model} {layer : DatabaseLayer}

theorem repository_eq (journal : Journal) (model : Model)
    : ((repository model).run.run journal).1
      = (journal.handle? model).elim (.error (.repositoryNotReady model.name)) .ok := by
  have read : (get : Attempt SchemaError Journal).run.run journal = (.ok journal, journal) := rfl
  rw [repository, Attempt.run_bind_of_ok read]
  unfold Journal.handle?
  cases (journal.stateOf model).repository? <;> rfl

theorem entity_run (faithful : journal.FaithfulTo models) (known : model ∈ models)
    : (entity model).run.run journal = (model.entity, journal.afterDefining model) := by
  have defines : (definition model).run.run journal
      = (model.definition, journal.afterDefining model) :=
    Prod.ext (faithful model known) rfl
  rw [entity, ExceptT.run_bind, StateT.run_bind, defines, Model.entity]
  cases model.definition <;> rfl

/-- An attach looks at the repository of the model first. -/
theorem attach_eq (journal : Journal) (layer : DatabaseLayer) (model : Model)
    : (attach layer model).run.run journal
      = match journal.handle? model with
        | some handle => (.ok handle, journal.note [.repositoryKept model.name])
        | none =>
            match (entity model).run.run journal with
            | (.error problem, later) => (.error (.refused problem), later)
            | (.ok entity, later) =>
                match layer entity with
                | .error words => (.error (.layer words), later.request entity)
                | .ok handle =>
                    let noted := (later.request entity).note [.repositoryAttached model.name]
                    (
                      .ok handle,
                      noted.setState model
                        { noted.stateOf model with repository? := some handle }
                    ) := by
  have read : (get : Attempt AttachError Journal).run.run journal = (.ok journal, journal) := rfl
  rw [attach, Attempt.run_bind_of_ok read]
  unfold Journal.handle?
  cases (journal.stateOf model).repository? with
  | some handle => rfl
  | none =>
      rw [ExceptT.run_bind, StateT.run_bind]
      have adapted : ((entity model).adapt AttachError.refused).run.run journal
          = (
            ((entity model).run.run journal).1.mapError .refused,
            ((entity model).run.run journal).2
          ) :=
        rfl
      rw [adapted]
      obtain ⟨outcome, later⟩ := (entity model).run.run journal
      cases outcome with
      | error problem => rfl
      | ok entity =>
          have asked : (liftM (ask layer entity) : Attempt AttachError _).run.run later
              = (.ok (layer entity), later.request entity) :=
            rfl
          simp only [Except.mapError]
          refine (Attempt.run_bind_of_ok asked).trans ?_
          cases layer entity <;> rfl

/-- A model without a repository asks the layer for one if it compiles. -/
theorem attach_answer (faithful : journal.FaithfulTo models) (known : model ∈ models)
    (layer : DatabaseLayer)
    : ((attach layer model).run.run journal).1
      = match journal.handle? model with
        | some handle => .ok handle
        | none =>
            match normalize model.name model.fields with
            | .error problem => .error (.refused problem)
            | .ok definition =>
                (layer ⟨model.name, definition, model.options⟩).mapError .layer := by
  rw [attach_eq, entity_run faithful known, Model.entity, Model.definition]
  cases journal.handle? model with
  | some handle => rfl
  | none =>
      cases normalize model.name model.fields with
      | error problem => rfl
      | ok definition =>
          simp only [Except.map_ok, Model.entityOf]
          cases layer ⟨model.name, definition, model.options⟩ <;> rfl

end Work

namespace Task

/-- The repository that a task makes for a model without one: what the layer answers, if the
model compiles and the layer does not fail.
-/
def makes? (model : Model) : Task → Option Repository
  | .attach layer attached =>
      if attached.serial = model.serial then
        attached.entity.toOption.bind fun entity => (layer entity).toOption
      else none
  | _ => none

/-- The entity that a task asks a layer for, given the repositories that models have: that of a
model without one, if it compiles.
-/
def asksFor? (handle? : Model → Option Repository) : Task → Option Entity
  | .attach _ model => if (handle? model).isNone then model.entity.toOption else none
  | _ => none

variable {journal : Journal} {models : List Model} {model : Model} {task : Task}

theorem handle?_attach (serials : (models.map Model.serial).Nodup)
    (faithful : journal.FaithfulTo models) (known : model ∈ models) {attached : Model}
    (attaches : attached ∈ models) (layer : DatabaseLayer)
    : ((Work.attach layer attached).run.run journal).2.handle? model
      = (journal.handle? model).or ((attach layer attached).makes? model) := by
  have defined : (journal.afterDefining attached).handle? model = journal.handle? model :=
    congrFun (journal.attachedLike_afterDefining attached).handles model
  rw [Work.attach_eq, Work.entity_run faithful attaches]
  by_cases same : attached.serial = model.serial
  · obtain rfl := List.inj_on_of_nodup_map serials attaches known same
    cases kept : journal.handle? attached with
    | some handle => exact kept
    | none =>
        cases compiles : attached.entity with
        | error problem => simp [makes?, compiles, Except.toOption, defined, kept]
        | ok entity =>
            cases answer : layer entity with
            | error words => simp [makes?, compiles, answer, Except.toOption, defined, kept]
            | ok handle =>
                simp [makes?, compiles, answer, Except.toOption, Journal.handle?_setState]
  · rw [makes?, if_neg same, Option.or_none]
    split
    · rfl
    · split
      · rename_i failed
        obtain ⟨-, rfl⟩ := Prod.mk.inj failed
        exact defined
      · rename_i made
        obtain ⟨-, rfl⟩ := Prod.mk.inj made
        split
        · exact defined
        · simp only [Journal.handle?_setState, if_neg (Ne.symm same)]
          exact defined

/-- The model to which a repository is attached has the one that is answered, or none. -/
theorem handle?_attach_self (serials : (models.map Model.serial).Nodup)
    (faithful : journal.FaithfulTo models) (known : model ∈ models) (layer : DatabaseLayer)
    : ((Work.attach layer model).run.run journal).2.handle? model
      = ((Work.attach layer model).run.run journal).1.toOption := by
  rw [handle?_attach serials faithful known known layer, Work.attach_answer faithful known,
    makes?, if_pos rfl, Model.entity, Model.definition]
  cases journal.handle? model with
  | some handle => rfl
  | none =>
      cases normalize model.name model.fields with
      | error problem => rfl
      | ok definition =>
          simp only [Except.map_ok, Model.entityOf, Except.toOption, Option.none_or,
            Option.bind_some]
          cases layer ⟨model.name, definition, model.options⟩ <;> rfl

theorem requests_attach (faithful : journal.FaithfulTo models) (known : model ∈ models)
    (layer : DatabaseLayer)
    : ((Work.attach layer model).run.run journal).2.requests
      = journal.requests ++ ((attach layer model).asksFor? journal.handle?).toList := by
  have defined := (journal.attachedLike_afterDefining model).requests
  rw [Work.attach_eq, Work.entity_run faithful known, asksFor?]
  cases kept : journal.handle? model with
  | some handle => simp
  | none =>
      cases compiles : model.entity with
      | error problem => simp [defined, Except.toOption]
      | ok entity => cases answer : layer entity <;> simp [answer, defined, Except.toOption]

/-- A task gives a model the repository it makes for it, unless the model has one. -/
theorem handle?_run (serials : (models.map Model.serial).Nodup)
    (within : task.models ⊆ models) (faithful : journal.FaithfulTo models)
    (known : model ∈ models)
    : (task.work.run journal).2.handle? model
      = (journal.handle? model).or (task.makes? model) := by
  cases task with
  | attach layer attached =>
      exact handle?_attach serials faithful known (within List.mem_cons_self) layer
  | _ =>
      have like := keeps_of_stable (journal.stable_attachedLike models) within (by simp)
        journal ⟨rfl, rfl⟩
      simpa [makes?] using congrFun like.handles model

/-- A task asks for what it has to, and for nothing else. -/
theorem requests_run (within : task.models ⊆ models) (faithful : journal.FaithfulTo models)
    : (task.work.run journal).2.requests
      = journal.requests ++ (task.asksFor? journal.handle?).toList := by
  cases task with
  | attach layer model => exact requests_attach faithful (within List.mem_cons_self) layer
  | _ =>
      have like := keeps_of_stable (journal.stable_attachedLike models) within (by simp)
        journal ⟨rfl, rfl⟩
      simpa [asksFor?] using like.requests

end Task

namespace Journal

variable {models : List Model} {model : Model} {tasks : List Task}

theorem after_append (tasks : List Task) (task : Task)
    : after (tasks ++ [task]) = (task.work.run (after tasks)).2 := by
  rw [after, List.foldl_append]
  rfl

/-- A model has the first repository that any of the tasks makes for it, by induction from the
last task on.
-/
theorem handle?_after (serials : (models.map Model.serial).Nodup)
    (within : ∀ task ∈ tasks, task.models ⊆ models) (known : model ∈ models)
    : (after tasks).handle? model = tasks.findSome? (Task.makes? model) := by
  induction tasks using List.reverseRecOn with
  | nil => rfl
  | append_singleton tasks task ih =>
      have before := fun other member => within other (List.mem_append_left [task] member)
      have faithful := faithfulTo_after serials tasks before
      rw [after_append, Task.handle?_run serials (within task (by simp)) faithful known,
        ih before, List.findSome?_append]
      simp

end Journal

/-- What a model answers after tasks, whatever they were and whether or not they have failed. -/
structure AnswersAfter (models : List Model) (tasks : List Task) (model : Model) : Prop where
  definition
    : ((Work.definition model).run.run (.after tasks)).1 = normalize model.name model.fields
  entity
    : ((Work.entity model).run.run (.after tasks)).1
      = (fun definition => ⟨model.name, definition, model.options⟩)
        <$> normalize model.name model.fields
  view
    : ∀ (registry : Registry) (settings : ViewSettings) (kind : View)
        (qualifier : Option String),
        registry.models ⊆ models
        → ((Work.view registry settings kind model qualifier).run.run (.after tasks)).1
          = View.generate registry settings kind model qualifier
  /-- Only a definition that the model compiles to is kept. -/
  kept
    : ∀ definition,
        ((Journal.after tasks).stateOf model).definition? = some definition
        → normalize model.name model.fields = .ok definition
  /-- The repository of the model is the first that was made for it. -/
  handle : (Journal.after tasks).handle? model = tasks.findSome? (Task.makes? model)
  /-- No tasks give it another one. -/
  lasting
    : ∀ later handle,
        (∀ task ∈ later, task.models ⊆ models)
        → (Journal.after tasks).handle? model = some handle
        → (Journal.after (tasks ++ later)).handle? model = some handle
  repository
    : ((Work.repository model).run.run (.after tasks)).1
      = ((Journal.after tasks).handle? model).elim (.error (.repositoryNotReady model.name)) .ok
  attach
    : ∀ layer,
        ((Work.attach layer model).run.run (.after tasks)).1
        = match (Journal.after tasks).handle? model with
          | some handle => .ok handle
          | none =>
              match normalize model.name model.fields with
              | .error problem => .error (.refused problem)
              | .ok definition =>
                  (layer ⟨model.name, definition, model.options⟩).mapError .layer
  /-- An attach that fails leaves the model without a repository, and one that succeeds with the
  one it has answered.
  -/
  attached
    : ∀ layer,
        (Journal.after (tasks ++ [.attach layer model])).handle? model
        = ((Work.attach layer model).run.run (.after tasks)).1.toOption
  /-- A layer is asked by nothing but an attach to a model that compiles and has no repository,
  and only for the entity of that model.
  -/
  requests
    : ∀ task,
        task.models ⊆ models
        → (Journal.after (tasks ++ [task])).requests
          = (Journal.after tasks).requests
            ++ (task.asksFor? (Journal.after tasks).handle?).toList

/-- After any tasks a model answers like a fresh one, but for the first repository that was made
for it, which it keeps.
-/
theorem Journal.answersAfter {models : List Model} {tasks : List Task} {model : Model}
    (serials : (models.map Model.serial).Nodup)
    (within : ∀ task ∈ tasks, task.models ⊆ models) (known : model ∈ models)
    : AnswersAfter models tasks model := by
  have faithful := faithfulTo_after serials tasks within
  have handle := handle?_after serials within known
  exact {
    definition := faithful model known,
    entity := congrArg Prod.fst (Work.entity_run faithful known),
    view := fun registry settings kind qualifier registered =>
      congrArg Prod.fst (Work.view_eq_generate faithful registered known),
    kept := fun definition kept => faithful.definition_of_kept known kept,
    handle,
    lasting := fun later first further kept => by
      have all := List.forall_mem_append.mpr ⟨within, further⟩
      rw [handle?_after serials all known, List.findSome?_append, ← handle, kept]
      rfl,
    repository := Work.repository_eq _ _,
    attach := Work.attach_answer faithful known,
    attached := fun layer => by
      rw [after_append]
      exact Task.handle?_attach_self serials faithful known layer,
    requests := fun task asked => by
      rw [after_append]
      exact Task.requests_run asked faithful
  }

def shelfModel : Model :=
  { serial := 0, name := "Shelf", fields := .ofList [("label", .scalar .string)] }

/-- A draft does not compile. -/
def draftModel : Model :=
  {
    serial := 1,
    name := "Draft",
    fields := .ofList [("code", .column { type := .logical .string, primary := true })]
  }

/-- The draft is refused whatever the layer would say, and the shelf has its first attach fail. -/
def shelfTasks : List Task :=
  [
    .attach (fun _ => .ok ⟨"drafts"⟩) draftModel,
    .attach (fun _ => .error "no connection") shelfModel,
    .attach (fun entity => .ok ⟨entity.name ++ "@first"⟩) shelfModel,
    .entity shelfModel,
    .attach (fun entity => .ok ⟨entity.name ++ "@second"⟩) shelfModel
  ]

theorem shelf_keepsFirst
    : ((Work.repository shelfModel).run.run (.after shelfTasks)).1 = .ok ⟨"Shelf@first"⟩
      ∧ ((Work.repository draftModel).run.run (.after shelfTasks)).1
        = .error (.repositoryNotReady "Draft") := by
  have within : ∀ task ∈ shelfTasks, task.models ⊆ [shelfModel, draftModel] := by
    simp [shelfTasks, Task.models]
  have shelf : AnswersAfter _ shelfTasks shelfModel :=
    Journal.answersAfter (by decide) within (by simp)
  have draft : AnswersAfter _ shelfTasks draftModel :=
    Journal.answersAfter (by decide) within (by simp)
  rw [shelf.repository, shelf.handle, draft.repository, draft.handle]
  exact ⟨rfl, rfl⟩

end EntityViews
