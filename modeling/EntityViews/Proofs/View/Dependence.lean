import EntityViews.Proofs.Journal.History
import EntityViews.Proofs.Registry.Lookup
import EntityViews.Proofs.View.Composition
import EntityViews.Proofs.View.Forms

/-! Views depend on what is declared under the registered names, and on nothing else.
The order of registration, entity options, repositories and earlier work have no part in them, and
further models change no view that has a document without them.
-/

namespace EntityViews

/-- The fields declared under a name, if a model of that name is registered. -/
def Registry.declared? (registry : Registry) (name : String) : Option Fields :=
  (registry.find? name).map Model.fields

/-- The registered names with the fields declared under them. -/
def Registry.schemas (registry : Registry) : List (String × Fields) :=
  registry.models.map fun model => (model.name, model.fields)

/-- The models have one name and one schema; they may differ in their entity options. -/
structure Model.Alike (model other : Model) : Prop where
  name : model.name = other.name
  fields : model.fields = other.fields

/-- Models declared alike compile alike. -/
theorem Model.Alike.definition {model other : Model} (h : model.Alike other)
    : model.definition = other.definition := by
  rw [Model.definition, Model.definition, h.name, h.fields]

/-- Each name has the same schema in both registries or is unknown to both. -/
def Registry.DeclaresAs (first second : Registry) : Prop :=
  ∀ name, first.declared? name = second.declared? name

/-- Each name that is known to the first registry has the same schema in the second. -/
def Registry.DeclaresWithin (first second : Registry) : Prop :=
  ∀ name fields, first.declared? name = some fields → second.declared? name = some fields

namespace Registry

variable {first second : Registry} {name : String}

theorem declared?_eq_some_iff {fields : Fields}
    : first.declared? name = some fields
      ↔ ∃ model, first.get name = .ok model ∧ model.fields = fields := by
  unfold declared? get
  cases first.find? name <;> simp

theorem declared?_eq_none_iff
    : first.declared? name = none ↔ first.get name = .error (.unknownModel name) := by
  unfold declared? get
  cases first.find? name <;> simp

/-- A model of the first registry has a counterpart in one that declares as much. -/
theorem DeclaresWithin.exists_alike (h : first.DeclaresWithin second) {model : Model}
    (found : first.get name = .ok model)
    : ∃ other, second.get name = .ok other ∧ model.Alike other := by
  obtain ⟨other, counterpart, fields⟩ :=
    declared?_eq_some_iff.mp (h name _ (declared?_eq_some_iff.mpr ⟨model, found, rfl⟩))
  refine ⟨other, counterpart, ?_, fields.symm⟩
  rw [(get_eq_ok_iff.mp found).2, (get_eq_ok_iff.mp counterpart).2]

theorem DeclaresAs.declaresWithin (h : first.DeclaresAs second)
    : first.DeclaresWithin second := fun name _ declared => h name ▸ declared

/-- A registry declares as much as another exactly if it holds all its names and schemas, in any
order and with any entity options.
-/
theorem declaresWithin_iff_subset
    : first.DeclaresWithin second ↔ first.schemas ⊆ second.schemas := by
  have declared {registry : Registry} {name : String} {fields : Fields}
      : registry.declared? name = some fields ↔ (name, fields) ∈ registry.schemas := by
    simp only [declared?_eq_some_iff, get_eq_ok_iff, schemas, List.mem_map, Prod.mk.injEq,
      and_assoc]
  simp only [DeclaresWithin, declared, List.subset_def, Prod.forall]

/-- Registries that declare as much as each other declare the same. -/
theorem DeclaresAs.of_declaresWithin (h : first.DeclaresWithin second)
    (converse : second.DeclaresWithin first)
    : first.DeclaresAs second := by
  intro name
  cases declared : first.declared? name with
  | some fields => exact (h name fields declared).symm
  | none =>
      refine (Option.eq_none_iff_forall_ne_some.mpr fun fields other => ?_).symm
      rw [converse name fields other] at declared
      contradiction

/-- A registry that declares as much knows as many names. -/
theorem DeclaresWithin.size_le (h : first.DeclaresWithin second)
    : first.size ≤ second.size := by
  have known : first.names ⊆ second.names := by
    intro name member
    obtain ⟨model, found⟩ := exists_get_of_mem_names member
    obtain ⟨other, counterpart, _⟩ := h.exists_alike found
    exact mem_names_of_get counterpart
  rw [← first.length_names, ← second.length_names]
  exact first.nodup_names.length_le_of_subset known

theorem DeclaresAs.size_eq (h : first.DeclaresAs second) : first.size = second.size :=
  Nat.le_antisymm h.declaresWithin.size_le
    (DeclaresAs.declaresWithin fun name => (h name).symm).size_le

end Registry

section Generated

variable {first second : Registry} {settings : ViewSettings} {kind : ViewKind} {view : View}
  {model other : Model} {qualifier : Option String}

/-- A followed relation comes to the same in registries that declare the same, if models declared
alike do.
-/
theorem embedTarget_congr (h : first.DeclaresAs second)
    {unrollFirst unrollSecond : Model → Except Stop Document}
    (same : ∀ {model other : Model}, model.Alike other → unrollFirst model = unrollSecond other)
    : embedTarget first unrollFirst = embedTarget second unrollSecond := by
  funext entry
  unfold embedTarget
  cases found : first.get entry.2.target with
  | error problem =>
      have absent : problem = .unknownModel entry.2.target :=
        (Registry.get_eq_error_iff.mp found).2
      rw [absent, ← Registry.declared?_eq_none_iff, h, Registry.declared?_eq_none_iff] at found
      rw [absent, found, Except.mapError_error, Except.error_bind, Except.error_bind]
  | ok target =>
      obtain ⟨counterpart, finds, alike⟩ := h.declaresWithin.exists_alike found
      rw [finds, Except.mapError_ok, Except.mapError_ok, Except.ok_bind, Except.ok_bind,
        same alike]

/-- Models declared alike unroll alike over registries that declare the same, by induction on the
levels.
-/
theorem unroll_congr (h : first.DeclaresAs second) (alike : model.Alike other) (levels : Nat)
    : unroll first kind levels model = unroll second kind levels other := by
  induction levels generalizing model other with
  | zero => rw [unroll, unroll, alike.name]
  | succ levels ih =>
      rw [unroll, unroll, alike.definition, alike.name, embedTarget_congr h ih]

/-- What a model unrolls to does not change in a registry that declares more, by induction on the
levels.
-/
theorem unroll_of_declaresWithin (h : first.DeclaresWithin second) (alike : model.Alike other)
    {levels : Nat} {body : Document} (unrolled : unroll first kind levels model = .ok body)
    : unroll second kind levels other = .ok body := by
  induction levels generalizing model other body with
  | zero => contradiction
  | succ levels ih =>
      cases compiles : model.definition with
      | error problem => simp [unroll_refused compiles] at unrolled
      | ok definition =>
          rw [unroll_compiled compiles, Except.map_eq_ok_iff] at unrolled
          obtain ⟨embedded, succeeded, rfl⟩ := unrolled
          rw [Except.mapError_eq_ok_iff] at succeeded
          -- The same targets are found, or models declared like them, one level down.
          have carried
              : (definition.followed kind).mapM (embedTarget second (unroll second kind levels))
                = .ok embedded := by
            refine List.mapM_eq_ok_iff.mpr ((List.mapM_eq_ok_iff.mp succeeded).imp ?_)
            intro entry property embeds
            obtain ⟨target, body, found, unrolls, rfl⟩ := embedTarget_eq_ok_iff.mp embeds
            obtain ⟨counterpart, finds, alike⟩ := h.exists_alike found
            exact embedTarget_eq_ok_iff.mpr ⟨counterpart, body, finds, ih alike unrolls, rfl⟩
          rw [unroll_compiled (alike.definition ▸ compiles), carried]
          rfl

theorem levelsFor_le (h : first.DeclaresWithin second) (limit : Option Nat)
    : levelsFor first limit ≤ levelsFor second limit := by
  cases limit with
  | some depth => exact Nat.le_refl _
  | none => exact Nat.add_le_add_right h.size_le 2

/-- Registries that declare the same give the same views, refusals among them. -/
theorem generate_congr (h : first.DeclaresAs second) (alike : model.Alike other)
    : View.generate first settings view model qualifier
      = View.generate second settings view other qualifier := by
  have levels : levelsFor first settings.maxDepth? = levelsFor second settings.maxDepth? := by
    cases settings.maxDepth? <;> simp [levelsFor, h.size_eq]
  have base (kind : ViewKind)
      : View.generate first settings (.base kind) model qualifier
        = View.generate second settings (.base kind) other qualifier := by
    rw [generate_base, generate_base, levels, alike.name, unroll_congr h alike]
  cases view with
  | base kind => exact base kind
  | form kind => rw [generate_form, generate_form, base, alike.definition, alike.name]

/-- A registry that declares more gives the documents that were there without it. -/
theorem generate_of_declaresWithin (h : first.DeclaresWithin second)
    (alike : model.Alike other) {document : Document}
    (answered : View.generate first settings view model qualifier = .ok document)
    : View.generate second settings view other qualifier = .ok document := by
  have base {kind : ViewKind} {document : Document}
      (answered : View.generate first settings (.base kind) model qualifier = .ok document)
      : View.generate second settings (.base kind) other qualifier = .ok document := by
    obtain ⟨body, unrolled, rfl⟩ := generate_eq_ok_iff.mp answered
    rw [alike.name]
    exact generate_of_unroll (levelsFor_le h _) (unroll_of_declaresWithin h alike unrolled)
      qualifier
  cases view with
  | base kind => exact base answered
  | form kind =>
      rw [generate_form, Except.bind_eq_ok_iff] at answered
      obtain ⟨started, ends, formed⟩ := answered
      rw [generate_form, base ends, ← alike.definition, ← alike.name]
      exact formed

end Generated

/-- A moment in the run of a program: the models made so far, each with a serial number of its
own, one of its registries, and all it has asked of its models.
-/
structure Moment where
  made : List Model
  serials : (made.map Model.serial).Nodup
  registry : Registry
  registered : registry.models ⊆ made
  tasks : List Task
  asked : ∀ task ∈ tasks, task.models ⊆ made

/-- What a view comes to at this moment, with the definitions that are kept by then. -/
def Moment.view (moment : Moment) (settings : ViewSettings) (view : View) (model : Model)
    (qualifier : Option String)
    : Except Halt Document :=
  ((Work.view moment.registry settings view model qualifier).run.run
    (Journal.after moment.tasks)).1

/-- What has been asked of models before makes no difference to a view. -/
theorem Moment.view_eq_generate (moment : Moment) {model : Model} (made : model ∈ moment.made)
    (settings : ViewSettings) (view : View) (qualifier : Option String)
    : moment.view settings view model qualifier
      = View.generate moment.registry settings view model qualifier :=
  congrArg Prod.fst <| Work.view_eq_generate
    (Journal.faithfulTo_after moment.serials moment.tasks moment.asked) moment.registered made

/-- Two moments have equal views of models declared alike if their registries declare the same,
and the second has all documents of the first if its registry declares at least as much.
-/
theorem Moment.view_depends_on_declared (first second : Moment) {model other : Model}
    (made : model ∈ first.made) (counterpart : other ∈ second.made) (alike : model.Alike other)
    (settings : ViewSettings) (view : View) (qualifier : Option String)
    : (first.registry.DeclaresAs second.registry
        → first.view settings view model qualifier
          = second.view settings view other qualifier)
      ∧ (first.registry.DeclaresWithin second.registry
        → ∀ document,
            first.view settings view model qualifier = .ok document
            → second.view settings view other qualifier = .ok document) := by
  rw [first.view_eq_generate made, second.view_eq_generate counterpart]
  exact ⟨fun same => generate_congr same alike,
    fun within _ answered => generate_of_declaresWithin within alike answered⟩

/-- A moment at which nothing has been asked of the book trade yet. -/
def bookTradeOpening : Moment :=
  {
    made := bookTrade.models,
    serials := by decide,
    registry := bookTrade,
    registered := List.Subset.refl _,
    tasks := [],
    asked := by simp
  }

/-- A book with a table of its own. -/
def bookTableModel : Model :=
  { bookModel with serial := 4, options := { tableName? := some "books" } }

/-- The models of the book trade, made anew in another order. -/
def bookTradeRemade : Registry :=
  .ofModels [{ libraryModel with serial := 3 }, bookTableModel, { authorModel with serial := 5 }]
    (by decide)

/-- A moment at which the new book has been read and no repository could be attached to it. -/
def bookTradeReopening : Moment :=
  {
    made := bookTradeRemade.models,
    serials := by decide,
    registry := bookTradeRemade,
    registered := List.Subset.refl _,
    tasks := [
      .view bookTradeRemade {} (.base .full) bookTableModel none,
      .attach (fun _ => .error "no connection") bookTableModel
    ],
    asked := by simp [Task.models, bookTradeRemade]
  }

/-- The new models and one that has nothing to do with them. -/
def bookTradeWithStalls : Registry :=
  .ofModels ({ serial := 6, name := "Stall" } :: bookTradeRemade.models) (by decide)

/-- A moment at which the stalls have been registered and entities been listed. -/
def bookTradeFair : Moment :=
  {
    made := bookTradeWithStalls.models,
    serials := by decide,
    registry := bookTradeWithStalls,
    registered := List.Subset.refl _,
    tasks := [.entities bookTradeWithStalls],
    asked := by simp [Task.models]
  }

/-- The new book is refused like the old one, and has its document when stalls are registered. -/
theorem book_depends_on_declared
    : bookTradeOpening.view { maxDepth? := some 1 } (.base .full) bookModel none
        = bookTradeReopening.view { maxDepth? := some 1 } (.base .full) bookTableModel none
      ∧ ∃ document,
          bookTradeOpening.view { maxDepth? := some 1 } (.form .create) bookModel (some "v2")
            = .ok document
          ∧ bookTradeFair.view { maxDepth? := some 1 } (.form .create) bookTableModel (some "v2")
            = .ok document := by
  have alike : bookModel.Alike bookTableModel := ⟨rfl, rfl⟩
  have kept : bookTrade.DeclaresWithin bookTradeRemade :=
    Registry.declaresWithin_iff_subset.mpr (by
      simp [Registry.schemas, bookTrade, bookTradeRemade, bookTableModel])
  have extended : bookTrade.DeclaresWithin bookTradeWithStalls :=
    Registry.declaresWithin_iff_subset.mpr (by
      simp [Registry.schemas, bookTrade, bookTradeWithStalls, bookTradeRemade, bookTableModel])
  have nothingNew : bookTradeRemade.DeclaresWithin bookTrade :=
    Registry.declaresWithin_iff_subset.mpr (by
      simp [Registry.schemas, bookTrade, bookTradeRemade, bookTableModel])
  constructor
  · exact (Moment.view_depends_on_declared bookTradeOpening bookTradeReopening
      (by simp [bookTradeOpening, bookTrade])
      (by simp [bookTradeReopening, bookTradeRemade]) alike _ _ _).1
      (.of_declaresWithin kept nothingNew)
  · obtain ⟨document, answered⟩
        : ∃ document,
            bookTradeOpening.view { maxDepth? := some 1 } (.form .create) bookModel
              (some "v2") = .ok document := ⟨_, rfl⟩
    exact ⟨document, answered, (Moment.view_depends_on_declared bookTradeOpening bookTradeFair
      (by simp [bookTradeOpening, bookTrade])
      (by simp [bookTradeFair, bookTradeWithStalls, bookTradeRemade]) alike _ _ _).2 extended
      document answered⟩

end EntityViews
