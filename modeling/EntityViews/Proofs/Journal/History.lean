import EntityViews.Proofs.Journal.Work
import Mathlib.Data.List.Induction

/-! Journals after any work on models.
Whatever a program has asked of its models before, whichever repositories it has attached and
whichever of this has failed, its journal supplies the definitions that the models compile to.
-/

namespace EntityViews

/-- A piece of work on models. -/
inductive Task where
  | definition (model : Model)
  | entity (model : Model)
  | view (registry : Registry) (settings : ViewSettings) (kind : View) (model : Model)
    (qualifier : Option String)
  | attach (layer : DatabaseLayer) (model : Model)
  | repository (model : Model)
  | entities (registry : Registry)
  | checkIntegrity (registry : Registry)
  | dependencies (registry : Registry)
  | registerAll (registry : Registry) (models : List Model)

namespace Task

/-- The models that a task may ask something of. -/
def models : Task → List Model
  | .definition model => [model]
  | .entity model => [model]
  | .view registry _ _ model _ => model :: registry.models
  | .attach _ model => [model]
  | .repository model => [model]
  | .entities registry => registry.models
  | .checkIntegrity registry => registry.models
  | .dependencies registry => registry.models
  | .registerAll registry models => registry.models ++ models

/-- The work of a task, without its answer. -/
def work : Task → Work Unit
  | .definition model => discard (Work.definition model).run
  | .entity model => discard (Work.entity model).run
  | .view registry settings kind model qualifier =>
      discard (Work.view registry settings kind model qualifier).run
  | .attach layer model => discard (Work.attach layer model).run
  | .repository model => discard (Work.repository model).run
  | .entities registry => discard (Work.entities registry).run
  | .checkIntegrity registry => discard (Work.checkIntegrity registry).run
  | .dependencies registry => discard (Work.dependencies registry).run
  | .registerAll registry models => discard (Work.registerAll registry models)

end Task

/-- The journal after tasks, from the start of the program. -/
def Journal.after (tasks : List Task) : Journal :=
  tasks.foldl (fun journal task => (task.work.run journal).2) {}

/-- What holds of a journal holds of the one that the work leaves. -/
def Work.Keeps (holds : Journal → Prop) {α : Type} (work : Work α) : Prop :=
  ∀ journal, holds journal → holds (work.run journal).2

namespace Work.Keeps

variable {holds : Journal → Prop} {α β ε δ : Type}

theorem pure (value : α) : Keeps holds (pure value) := fun _ held => held

theorem bind {first : Work α} {next : α → Work β} (h : Keeps holds first)
    (hn : ∀ value, Keeps holds (next value))
    : Keeps holds (first >>= next) := fun journal held =>
  hn _ _ (h journal held)

theorem discard {work : Work α} (h : Keeps holds work) : Keeps holds (discard work) :=
  fun journal held => h journal held

/-- Looking at the journal leaves it as it is. -/
theorem get : Keeps holds (get : Work Journal) := fun _ held => held

theorem modify {change : Journal → Journal}
    (h : ∀ journal, holds journal → holds (change journal))
    : Keeps holds (modify change) :=
  h

theorem lift {work : Work α} (h : Keeps holds work)
    : Keeps holds (liftM work : Attempt ε α).run := fun journal held =>
  h journal held

/-- Attempts keep journals whether or not they fail. -/
theorem attempt_bind {first : Attempt ε α} {next : α → Attempt ε β}
    (h : Keeps holds first.run) (hn : ∀ value, Keeps holds (next value).run)
    : Keeps holds (first >>= next).run := by
  rw [ExceptT.run_bind]
  refine h.bind fun outcome => ?_
  cases outcome with
  | ok value => exact hn value
  | error problem => exact .pure _

theorem adapt {attempt : Attempt ε α} (h : Keeps holds attempt.run) (f : ε → δ)
    : Keeps holds (attempt.adapt f).run := fun journal held =>
  h journal held

/-- Attempts at the entries of a list keep journals, by induction over the list. -/
theorem mapM {attempt : α → Attempt ε β} {entries : List α}
    (h : ∀ entry ∈ entries, Keeps holds (attempt entry).run)
    : Keeps holds (entries.mapM attempt).run := by
  induction entries with
  | nil => exact .pure _
  | cons entry rest ih =>
      rw [List.mapM_cons]
      refine (h entry List.mem_cons_self).attempt_bind fun _ => ?_
      refine (ih fun other member => h other (List.mem_cons_of_mem _ member)).attempt_bind
        fun _ => ?_
      exact .pure _

/-- Attempts at the entries of a list for their effect keep journals, by induction. -/
theorem forM {attempt : α → Attempt ε Unit} {entries : List α}
    (h : ∀ entry ∈ entries, Keeps holds (attempt entry).run)
    : Keeps holds (entries.forM attempt).run := by
  induction entries with
  | nil => exact .pure _
  | cons entry rest ih =>
      refine (h entry List.mem_cons_self).attempt_bind fun _ => ?_
      exact ih fun other member => h other (List.mem_cons_of_mem _ member)

end Work.Keeps

section Stable

variable {holds : Journal → Prop} {models : List Model} {registry : Registry} {model : Model}
  (stable : Journal.Stable holds models)

include stable

theorem Work.keeps_definition (known : model ∈ models)
    : Keeps holds (definition model).run := fun _ held =>
  stable.afterDefining held known

theorem Work.keeps_entity (known : model ∈ models) : Keeps holds (entity model).run :=
  (keeps_definition stable known).attempt_bind fun _ => .pure _

theorem Work.keeps_view (within : registry.models ⊆ models) (known : model ∈ models)
    (settings : ViewSettings) (kind : View) (qualifier : Option String)
    : Keeps holds (view registry settings kind model qualifier).run := fun _ held =>
  stable.afterSteps held (fun _ => mem_of_generateWith_defined within known) false

/-- Queries of a registry ask for the definitions of its models. -/
theorem Work.keeps_entities (within : registry.models ⊆ models)
    : Keeps holds (entities registry).run := by
  refine Keeps.mapM fun model registered => ?_
  refine (keeps_definition stable (within registered)).attempt_bind fun _ => ?_
  exact .pure _

theorem Work.keeps_dependencies (within : registry.models ⊆ models)
    : Keeps holds (dependencies registry).run := by
  rw [dependencies, Registry.dependenciesWith_eq]
  refine Keeps.mapM fun model registered => ?_
  refine (keeps_definition stable (within registered)).attempt_bind fun _ => ?_
  exact .pure _

theorem Work.keeps_checkIntegrity (within : registry.models ⊆ models)
    : Keeps holds (checkIntegrity registry).run := by
  refine Keeps.forM fun model registered => ?_
  refine (keeps_definition stable (within registered)).attempt_bind fun _ => ?_
  refine Keeps.forM fun relation _ => ?_
  unfold Registry.checkTarget
  split <;> exact .pure _

/-- A task keeps what notes and definitions keep, unless it attaches a repository. -/
theorem Task.keeps_of_stable {task : Task} (within : task.models ⊆ models)
    (attaches : ∀ layer model, task ≠ .attach layer model)
    : Work.Keeps holds task.work := by
  cases task with
  | definition model =>
      exact (Work.keeps_definition stable (within List.mem_cons_self)).discard
  | entity model => exact (Work.keeps_entity stable (within List.mem_cons_self)).discard
  | view registry settings kind model qualifier =>
      obtain ⟨known, registered⟩ := List.cons_subset.mp within
      exact (Work.keeps_view stable registered known settings kind qualifier).discard
  | attach layer model => exact absurd rfl (attaches layer model)
  | repository model =>
      refine Work.Keeps.discard ?_
      unfold Work.repository
      refine Work.Keeps.get.lift.attempt_bind fun journal => ?_
      split <;> exact .pure _
  | entities registry => exact (Work.keeps_entities stable within).discard
  | checkIntegrity registry => exact (Work.keeps_checkIntegrity stable within).discard
  | dependencies registry => exact (Work.keeps_dependencies stable within).discard
  | registerAll registry fresh =>
      refine Work.Keeps.discard (Work.Keeps.bind ?_ fun _ => .pure _)
      exact .modify fun _ held => stable.note held _

end Stable

variable {models : List Model} {model : Model}

/-- The repository of a model has no part in its definition. -/
theorem Work.keeps_attach (serials : (models.map Model.serial).Nodup) (known : model ∈ models)
    (layer : DatabaseLayer)
    : Keeps (fun journal => journal.FaithfulTo models) (attach layer model).run := by
  have stable := Journal.stable_faithfulTo serials
  unfold attach
  refine Keeps.get.lift.attempt_bind fun journal => ?_
  split
  · refine (Keeps.modify fun _ faithful => faithful.note _).lift.attempt_bind fun _ => ?_
    exact .pure _
  · refine ((keeps_entity stable known).adapt _).attempt_bind fun entity => ?_
    refine Keeps.attempt_bind (Keeps.bind ?_ fun _ => .pure _).lift fun answer => ?_
    · exact .modify fun _ faithful => faithful
    cases answer with
    | error words => exact .pure _
    | ok repository =>
        refine (Keeps.modify fun _ faithful => faithful.note _).lift.attempt_bind fun _ => ?_
        refine Keeps.attempt_bind ?_ fun _ => .pure _
        intro later faithful
        refine faithful.setState serials known ?_
        exact fun definition kept => faithful.definition_of_kept known kept

/-- A task that asks only of the given models keeps journals faithful to them. -/
theorem Task.keeps (serials : (models.map Model.serial).Nodup) (task : Task)
    (within : task.models ⊆ models)
    : Work.Keeps (fun journal => journal.FaithfulTo models) task.work := by
  cases task with
  | attach layer model =>
      exact (Work.keeps_attach serials (within List.mem_cons_self) layer).discard
  | _ => exact Task.keeps_of_stable (Journal.stable_faithfulTo serials) within (by simp)

/-- After any tasks that ask only of the given models the journal is faithful to them, by
induction from the last task on.
-/
theorem Journal.faithfulTo_after (serials : (models.map Model.serial).Nodup)
    (tasks : List Task) (within : ∀ task ∈ tasks, task.models ⊆ models)
    : (after tasks).FaithfulTo models := by
  induction tasks using List.reverseRecOn with
  | nil => exact faithfulTo_of_states_nil rfl models
  | append_singleton tasks task ih =>
      rw [after, List.foldl_append]
      refine task.keeps serials (within task (by simp)) _ (ih fun other member => ?_)
      exact within other (List.mem_append_left _ member)

end EntityViews
