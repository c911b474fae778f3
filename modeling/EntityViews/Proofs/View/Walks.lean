import EntityViews.Proofs.View.DepthLimits

/-! Walks along followed relations.
A limited view has a document exactly when all that can be met on walks from its model compiles
and points to registered models, and no walk is longer than the limit.
-/

namespace EntityViews

variable {registry : Registry} {kind : ViewKind}

/-- A relation of the source that views of the kind follow points to the target. -/
def Follows (registry : Registry) (kind : ViewKind) (source target : Model) : Prop :=
  ∃ definition name relation,
    source.definition = .ok definition
    ∧ (name, relation) ∈ definition.relations.entries
    ∧ kind.follows relation
    ∧ registry.get relation.target = .ok target

/-- A walk of so many steps from one model to another along followed relations. -/
inductive Walk (registry : Registry) (kind : ViewKind) : Nat → Model → Model → Prop
  | here (model : Model) : Walk registry kind 0 model model
  | step {steps : Nat} {first second last : Model} (follows : Follows registry kind first second)
    (rest : Walk registry kind steps second last)
    : Walk registry kind (steps + 1) first last

/-- Walks join where one ends and the other starts, by induction on the first. -/
theorem Walk.append {steps more : Nat} {first middle last : Model}
    (h : Walk registry kind steps first middle) (next : Walk registry kind more middle last)
    : Walk registry kind (steps + more) first last := by
  induction h with
  | here => simpa using next
  | step follows _ ih =>
      rw [Nat.add_right_comm]
      exact .step follows (ih next)

/-- Going round a closed walk any number of times is a walk. -/
theorem Walk.round {steps : Nat} {model : Model} (h : Walk registry kind steps model model)
    (times : Nat)
    : Walk registry kind (times * steps) model model := by
  induction times with
  | zero => simpa using Walk.here model
  | succ times ih =>
      rw [Nat.succ_mul]
      exact ih.append h

/-- The model compiles and its followed relations point to registered models. -/
def Resolves (registry : Registry) (kind : ViewKind) (model : Model) : Prop :=
  ∃ definition,
    model.definition = .ok definition
    ∧ ∀ name relation,
        (name, relation) ∈ definition.relations.entries
        → kind.follows relation
        → ∃ target, registry.get relation.target = .ok target

/-- An unrolling has a body when the model compiles and every followed relation has a target
that has a body one level further down.
-/
theorem unroll_succ_ok_iff {levels : Nat} {model : Model}
    : (∃ body, unroll registry kind (levels + 1) model = .ok body)
      ↔ ∃ definition,
          model.definition = .ok definition
          ∧ ∀ name relation,
              (name, relation) ∈ definition.relations.entries
              → kind.follows relation
              → ∃ target,
                  registry.get relation.target = .ok target
                  ∧ ∃ body, unroll registry kind levels target = .ok body := by
  cases compiles : model.definition with
  | error problem => simp [unroll_refused compiles]
  | ok definition =>
      have traversed
          : (∃ body, unroll registry kind (levels + 1) model = .ok body)
            ↔ ∃ embedded,
                (definition.followed kind).mapM
                    (embedTarget registry (unroll registry kind levels))
                  = .ok embedded := by
        simp only [unroll_compiled compiles, Except.map_eq_ok_iff, Except.mapError_eq_ok_iff]
        constructor
        · intro unrolled
          obtain ⟨_, embedded, succeeded, _⟩ := unrolled
          exact ⟨embedded, succeeded⟩
        · intro traversed
          obtain ⟨embedded, succeeded⟩ := traversed
          exact ⟨_, embedded, succeeded, rfl⟩
      rw [traversed, List.exists_mapM_eq_ok_iff]
      simp only [Except.ok.injEq, exists_eq_left', EntityDefinition.followed, List.mem_filter,
        Prod.forall, and_imp, embedTarget_eq_ok_iff]
      refine forall_congr' fun name => forall_congr' fun relation => ?_
      refine forall_congr' fun _ => forall_congr' fun _ => ?_
      constructor
      · intro embeds
        obtain ⟨_, target, body, found, unrolled, _⟩ := embeds
        exact ⟨target, found, body, unrolled⟩
      · intro resolves
        obtain ⟨target, found, body, unrolled⟩ := resolves
        exact ⟨_, target, body, found, unrolled, rfl⟩

/-- An unrolling has a body exactly when every walk has fewer steps than there are levels and
meets a model that resolves, by induction on the levels.
-/
theorem unroll_ok_iff {levels : Nat} {model : Model}
    : (∃ body, unroll registry kind levels model = .ok body)
      ↔ ∀ steps met,
          Walk registry kind steps model met → steps < levels ∧ Resolves registry kind met := by
  induction levels generalizing model with
  | zero =>
      constructor
      · intro unrolled
        obtain ⟨body, unrolled⟩ := unrolled
        contradiction
      · intro within
        exact absurd (within 0 model (.here model)).1 (Nat.not_lt_zero 0)
  | succ levels ih =>
      rw [unroll_succ_ok_iff]
      constructor
      · intro succeeds steps met walk
        obtain ⟨definition, compiles, targets⟩ := succeeds
        cases walk with
        | here =>
            refine ⟨Nat.succ_pos levels, definition, compiles, ?_⟩
            intro name relation declared followed
            obtain ⟨target, found, _⟩ := targets name relation declared followed
            exact ⟨target, found⟩
        | step follows rest =>
            obtain ⟨same, name, relation, again, declared, followed, found⟩ := follows
            obtain rfl := Except.ok.inj (compiles.symm.trans again)
            obtain ⟨target, known, unrolled⟩ := targets name relation declared followed
            obtain rfl := Except.ok.inj (found.symm.trans known)
            obtain ⟨fewer, resolves⟩ := ih.mp unrolled _ met rest
            exact ⟨Nat.succ_lt_succ fewer, resolves⟩
      · intro within
        obtain ⟨_, definition, compiles, resolves⟩ := within 0 model (.here model)
        refine ⟨definition, compiles, ?_⟩
        intro name relation declared followed
        obtain ⟨target, found⟩ := resolves name relation declared followed
        refine ⟨target, found, ih.mpr fun steps met walk => ?_⟩
        have follows : Follows registry kind model target :=
          ⟨definition, name, relation, compiles, declared, followed, found⟩
        obtain ⟨fewer, met⟩ := within (steps + 1) met (.step follows walk)
        exact ⟨Nat.lt_of_succ_lt_succ fewer, met⟩

/-- All that walks from the model meet is in order, and no walk has more steps than the limit.
-/
structure WalksWithin (registry : Registry) (kind : ViewKind) (limit : Nat) (model : Model)
    : Prop where
  compiles
    : ∀ {steps met},
        Walk registry kind steps model met → ∃ definition, met.definition = .ok definition
  registered
    : ∀ {steps met definition name relation},
        Walk registry kind steps model met
        → met.definition = .ok definition
        → (name, relation) ∈ definition.relations.entries
        → kind.follows relation
        → relation.target ∈ registry.names
  bounded : ∀ {steps met}, Walk registry kind steps model met → steps ≤ limit

/-- Names that find a model are the registered ones, so models that resolve have registered
targets and the other way round.
-/
theorem unroll_ok_iff_walksWithin {limit : Nat} {model : Model}
    : (∃ body, unroll registry kind (limit + 1) model = .ok body)
      ↔ WalksWithin registry kind limit model := by
  rw [unroll_ok_iff]
  constructor
  · intro all
    refine ⟨?_, ?_, fun walk => Nat.le_of_lt_succ (all _ _ walk).1⟩
    · intro steps met walk
      obtain ⟨_, definition, compiles, _⟩ := all steps met walk
      exact ⟨definition, compiles⟩
    · intro steps met definition name relation walk compiles declared followed
      obtain ⟨_, same, again, resolves⟩ := all steps met walk
      obtain rfl := Except.ok.inj (compiles.symm.trans again)
      obtain ⟨target, found⟩ := resolves name relation declared followed
      exact Registry.mem_names_of_get found
  · intro all steps met walk
    obtain ⟨definition, compiles⟩ := all.compiles walk
    refine ⟨Nat.lt_succ_of_le (all.bounded walk), definition, compiles, ?_⟩
    intro name relation declared followed
    exact Registry.exists_get_of_mem_names (all.registered walk compiles declared followed)

/-- A closed walk in reach breaks any limit: once round for every step that the limit allows,
and once more, is too far.
-/
theorem WalksWithin.no_cycle {limit before around : Nat} {model met : Model}
    (h : WalksWithin registry kind limit model) (reach : Walk registry kind before model met)
    (cycle : Walk registry kind (around + 1) met met)
    : False := by
  have far := h.bounded (reach.append (cycle.round (limit + 1)))
  have longer : limit + 1 ≤ (limit + 1) * (around + 1) :=
    Nat.le_mul_of_pos_right _ (Nat.succ_pos around)
  omega

/-- A limited view has a document exactly when its unrolling has a body. -/
theorem generate_ok_iff_unroll (settings : ViewSettings) (limit : Nat)
    (qualifier : Option String) (model : Model)
    : (∃ document,
          View.generate registry { settings with maxDepth? := some limit } (.base kind) model
              qualifier
            = .ok document)
      ↔ ∃ body, unroll registry kind (limit + 1) model = .ok body := by
  simp only [generate_eq_ok_iff, levelsFor]
  constructor
  · intro answered
    obtain ⟨_, body, unrolled, _⟩ := answered
    exact ⟨body, unrolled⟩
  · intro succeeds
    obtain ⟨body, unrolled⟩ := succeeds
    exact ⟨_, body, unrolled, rfl⟩

/-- A limited view without a document is refused, since the limit ends its expansion. -/
theorem exists_refused_of_forall_ne (settings : ViewSettings) (limit : Nat)
    (qualifier : Option String) (model : Model)
    (h
      : ∀ document,
          View.generate registry { settings with maxDepth? := some limit } (.base kind) model
              qualifier
            ≠ .ok document)
    : ∃ problem,
        View.generate registry { settings with maxDepth? := some limit } (.base kind) model
            qualifier
          = .error (.refused problem) := by
  cases outcome : View.generate registry { settings with maxDepth? := some limit } (.base kind)
    model qualifier with
  | ok document => exact absurd outcome (h document)
  | error halt =>
      rw [generate_base, Except.map_eq_error_iff, Except.mapError_eq_error_iff] at outcome
      obtain ⟨stop, _, rfl⟩ := outcome
      obtain ⟨problem, refused⟩ := stop.exists_toHalt_eq_refused limit []
      exact ⟨problem, congrArg Except.error refused⟩

/-- A limited view has a document exactly when every model met on a walk from the viewed one
compiles, all followed targets met are registered and no walk has more steps than the limit. So
a closed walk that can be reached makes the view fail under any limit.
-/
theorem generate_ok_iff_walksWithin (settings : ViewSettings) (limit : Nat)
    (qualifier : Option String) (model : Model)
    : ((∃ document,
            View.generate registry { settings with maxDepth? := some limit } (.base kind) model
                qualifier
              = .ok document)
        ↔ WalksWithin registry kind limit model)
      ∧ ∀ before around met,
          Walk registry kind before model met
          → Walk registry kind (around + 1) met met
          → ∃ problem,
              View.generate registry { settings with maxDepth? := some limit } (.base kind)
                  model qualifier
                = .error (.refused problem) := by
  have criterion
      : (∃ document,
            View.generate registry { settings with maxDepth? := some limit } (.base kind) model
                qualifier
              = .ok document)
        ↔ WalksWithin registry kind limit model :=
    (generate_ok_iff_unroll settings limit qualifier model).trans unroll_ok_iff_walksWithin
  refine ⟨criterion, ?_⟩
  intro before around met reach cycle
  refine exists_refused_of_forall_ne settings limit qualifier model ?_
  intro document succeeded
  exact (criterion.mp ⟨document, succeeded⟩).no_cycle reach cycle

/-- Creating a library walks to a book and on to its author, which a limit of two admits and a
limit of one does not. Reading a book walks to its author and back, so a limit of seven refuses
it like any other.
-/
theorem bookTrade_walks
    : (∃ document,
          View.generate bookTrade { maxDepth? := some 2 } (.base .create) libraryModel none
            = .ok document)
      ∧ WalksWithin bookTrade .create 2 libraryModel
      ∧ (∀ document,
          View.generate bookTrade { maxDepth? := some 1 } (.base .create) libraryModel none
            ≠ .ok document)
      ∧ ¬ WalksWithin bookTrade .create 1 libraryModel
      ∧ ∃ problem,
          View.generate bookTrade { maxDepth? := some 7 } (.base .full) bookModel none
            = .error (.refused problem) := by
  have created
      : ∃ document,
          View.generate bookTrade { maxDepth? := some 2 } (.base .create) libraryModel none
            = .ok document := ⟨_, rfl⟩
  have toBook : Follows bookTrade .create libraryModel bookModel :=
    ⟨_, "books", _, rfl, List.mem_singleton_self _, rfl, rfl⟩
  have onward : Follows bookTrade .create bookModel authorModel :=
    ⟨_, "author", _, rfl, List.mem_singleton_self _, rfl, rfl⟩
  have far : ¬ WalksWithin bookTrade .create 1 libraryModel := fun within =>
    absurd (within.bounded (.step toBook (.step onward (.here authorModel)))) (by decide)
  have toAuthor : Follows bookTrade .full bookModel authorModel :=
    ⟨_, "author", _, rfl, List.mem_singleton_self _, rfl, rfl⟩
  have back : Follows bookTrade .full authorModel bookModel :=
    ⟨_, "books", _, rfl, List.mem_singleton_self _, rfl, rfl⟩
  refine ⟨created, (generate_ok_iff_walksWithin {} 2 none libraryModel).1.mp created, ?_, far, ?_⟩
  · intro document answered
    exact far ((generate_ok_iff_walksWithin {} 1 none libraryModel).1.mp ⟨document, answered⟩)
  · exact (generate_ok_iff_walksWithin {} 7 none bookModel).2 0 1 bookModel (.here bookModel)
      (.step toAuthor (.step back (.here bookModel)))

end EntityViews
