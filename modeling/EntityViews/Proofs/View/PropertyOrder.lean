import EntityViews.Proofs.Entity.Exactness
import EntityViews.Proofs.View.WellFormed

/-! The order of the properties of a view.
Columns stand in order of declaration, and so do relations, but all columns stand before all
relations. So the properties follow the fields only if no relation is declared before a column.
-/

namespace EntityViews

namespace Members

variable {α : Type u} {β : Type v} {members : Members α} {first second : α → Bool}

/-- The names of the values that a test accepts, in order. -/
def namesWhere (test : α → Bool) (members : Members α) : List String :=
  names (members.filter fun entry => test entry.2)

theorem namesWhere_sublist (test : α → Bool) (members : Members α)
    : (namesWhere test members).Sublist members.names :=
  names_filter_sublist _ _

theorem namesWhere_cons_of_pos {test : α → Bool} {entry : String × α} (h : test entry.2 = true)
    : namesWhere test (entry :: members) = entry.1 :: namesWhere test members := by
  simp [namesWhere, h]

theorem namesWhere_cons_of_neg {test : α → Bool} {entry : String × α} (h : test entry.2 = false)
    : namesWhere test (entry :: members) = namesWhere test members := by
  simp [namesWhere, h]

theorem namesWhere_congr {other : α → Bool} {test : α → Bool}
    (h : ∀ entry ∈ members, test entry.2 = other entry.2)
    : namesWhere test members = namesWhere other members :=
  congrArg names (List.filter_congr h)

theorem namesWhere_eq_nil_iff {test : α → Bool}
    : namesWhere test members = [] ↔ ∀ entry ∈ members, test entry.2 = false := by
  simp [namesWhere, names]

/-- Values that are picked and then tested have the names of those that pass both. -/
theorem names_filter_select (pick : α → Option β) (keep : β → Bool) (members : Members α)
    : names ((select pick members).filter fun entry => keep entry.2)
      = namesWhere (fun value => (pick value).any keep) members := by
  induction members with
  | nil => rfl
  | cons entry rest ih =>
      rw [select_cons, List.filter_append, names_append, ih, namesWhere, namesWhere,
        List.filter_cons]
      cases picked : pick entry.2 with
      | none => simp
      | some value => cases kept : keep value <;> simp [kept]

/-- Names that come in front of a list and are not its first one are names of the rest. -/
theorem sublist_of_sublist_cons {names rest : List String} {name : String}
    (absent : name ∉ names) (h : names.Sublist (name :: rest))
    : names.Sublist rest := by
  rcases List.sublist_cons_iff.mp h with later | ⟨others, rfl, _⟩
  · exact later
  · exact absurd List.mem_cons_self absent

/-- Nothing that is in the rest of a list comes out before its first name. -/
theorem eq_nil_of_append_cons_sublist {early late rest : List String} {name : String}
    (fresh : name ∉ rest) (known : early ⊆ rest)
    (h : (early ++ name :: late).Sublist (name :: rest))
    : early = [] := by
  cases early with
  | nil => rfl
  | cons first more =>
      have differs : first ≠ name := fun same => fresh (same ▸ known List.mem_cons_self)
      have behind := (h.of_cons_of_ne differs).subset
      exact absurd (behind (by simp)) fresh

/-- Names picked in two passes keep their order exactly if none that the second pass picks stands
before one that the first pass picks. The induction is on the entries: one that the second pass
picks comes out behind all that the first one finds later.
-/
theorem namesWhere_append_sublist_iff (distinct : members.names.Nodup)
    (apart : ∀ value, first value = true → second value = false)
    : (namesWhere first members ++ namesWhere second members).Sublist members.names
      ↔ members.Pairwise fun earlier later =>
          ¬ (second earlier.2 = true ∧ first later.2 = true) := by
  induction members with
  | nil => simp [namesWhere]
  | cons entry rest ih =>
      obtain ⟨fresh, others⟩ := List.nodup_cons.mp distinct
      rw [List.pairwise_cons, names_cons]
      cases isFirst : first entry.2 with
      | true =>
          have notSecond := apart _ isFirst
          rw [namesWhere_cons_of_pos isFirst, namesWhere_cons_of_neg notSecond,
            List.cons_append, List.cons_sublist_cons, ih others]
          simp [notSecond]
      | false =>
          cases isSecond : second entry.2 with
          | false =>
              rw [namesWhere_cons_of_neg isFirst, namesWhere_cons_of_neg isSecond, ← ih others]
              have absent : entry.1 ∉ namesWhere first rest ++ namesWhere second rest := by
                intro picked
                rcases List.mem_append.mp picked with early | late
                · exact fresh ((namesWhere_sublist _ _).subset early)
                · exact fresh ((namesWhere_sublist _ _).subset late)
              constructor
              · intro ordered
                exact ⟨by simp, sublist_of_sublist_cons absent ordered⟩
              · intro ordered
                exact ordered.2.cons _
          | true =>
              rw [namesWhere_cons_of_neg isFirst, namesWhere_cons_of_pos isSecond]
              have alone (none : namesWhere first rest = [])
                  : (namesWhere first rest ++ namesWhere second rest).Sublist (names rest) := by
                rw [none]
                exact namesWhere_sublist _ _
              constructor
              · intro ordered
                have none : namesWhere first rest = [] :=
                  eq_nil_of_append_cons_sublist fresh (namesWhere_sublist first rest).subset
                    ordered
                refine ⟨?_, (ih others).mp (alone none)⟩
                intro later member picked
                simp [namesWhere_eq_nil_iff.mp none later member] at picked
              · intro ordered
                have none : namesWhere first rest = [] := by
                  refine namesWhere_eq_nil_iff.mpr fun later member => ?_
                  simpa using ordered.1 later member
                rw [none]
                exact (namesWhere_sublist _ _).cons_cons _

end Members

/-- The declaration is of a column that the view shows. -/
def ViewKind.showsField (kind : ViewKind) : Declaration → Bool
  | .scalar _ => true
  | .column declared => kind.keeps (.ofColumn declared)
  | .relationTag _ => false
  | .relation _ => false

/-- The declaration is of a relation that the view follows. -/
def ViewKind.followsField : ViewKind → Declaration → Bool
  | .create, .relation declared => declared.cascade.includes .insert
  | .update, .relation declared => declared.cascade.includes .update
  | .full, .relation declared => declared.eager
  | _, _ => false

section Fields

variable {kind : ViewKind} {model : Model} {definition : EntityDefinition}
  {declaration : Declaration}

theorem ViewKind.followsField_eq_false (h : kind.showsField declaration = true)
    : kind.followsField declaration = false := by
  cases declaration with
  | scalar | column => cases kind <;> rfl
  | relationTag | relation => contradiction

/-- Of acceptable fields, a view shows those that compile to a column it keeps. -/
theorem Acceptable.any_keeps_eq {fields : Members Declaration} (h : Acceptable fields)
    {name : String} (member : (name, declaration) ∈ fields)
    : declaration.column?.any kind.keeps = kind.showsField declaration := by
  cases declaration with
  | scalar type =>
      have plain : (ColumnDescriptor.ofLogical type).isGenerated = false := rfl
      simp [Declaration.column?, ViewKind.showsField, ViewKind.keeps, plain]
  | column declared =>
      simp [Declaration.column?, ViewKind.showsField, h.columns name declared member]
  | relationTag | relation => rfl

/-- Of acceptable fields, a view follows those that compile to a relation it follows. -/
theorem Acceptable.any_follows_eq {fields : Members Declaration} (h : Acceptable fields)
    {name : String} (member : (name, declaration) ∈ fields)
    : declaration.relation?.any kind.follows = kind.followsField declaration := by
  cases declaration with
  | scalar | column | relationTag => cases kind <;> rfl
  | relation declared =>
      obtain ⟨target, named⟩ := h.targets name declared member
      cases kind <;> simp [Declaration.relation?, named, ViewKind.followsField, ViewKind.follows]

/-- The shown columns are those of the fields, behind the primary one in a full view. -/
theorem Model.names_shown (h : model.definition = .ok definition)
    : Members.names (definition.shown kind)
      = (if kind = .full then [primaryColumn] else [])
        ++ Members.namesWhere kind.showsField model.fields.entries := by
  have acceptable : Acceptable model.fields.entries := exists_normalize_iff.mp ⟨definition, h⟩
  have fields
      : Members.namesWhere (fun field => (Declaration.column? field).any kind.keeps)
          model.fields.entries
        = Members.namesWhere kind.showsField model.fields.entries :=
    Members.namesWhere_congr fun entry member => acceptable.any_keeps_eq member
  rw [← definition.names_columnProperties, EntityDefinition.columnProperties,
    Members.names_map_values, (definition_entries h).2.1, ← List.singleton_append,
    List.filter_append, Members.names_append, Members.names_filter_select, fields]
  cases kind <;> rfl

theorem Model.names_followed (h : model.definition = .ok definition)
    : Members.names (definition.followed kind)
      = Members.namesWhere kind.followsField model.fields.entries := by
  have acceptable : Acceptable model.fields.entries := exists_normalize_iff.mp ⟨definition, h⟩
  rw [EntityDefinition.followed, (definition_entries h).2.2, Members.names_filter_select]
  exact Members.namesWhere_congr fun entry member => acceptable.any_follows_eq member

end Fields

section Generated

variable {registry : Registry} {settings : ViewSettings} {view : View} {model : Model}
  {qualifier : Option String} {document : Document}

/-- A view of any kind names the shown columns and then the followed relations. -/
theorem names_of_generate
    (h : View.generate registry settings view model qualifier = .ok document)
    : ∃ definition,
        model.definition = .ok definition
        ∧ Members.names document.properties
          = Members.names (definition.shown view.baseKind)
            ++ Members.names (definition.followed view.baseKind) := by
  cases view with
  | base kind =>
      obtain ⟨definition, compiles, describes⟩ := generate_describes h
      exact ⟨definition, compiles, describes.names⟩
  | form kind =>
      rw [generate_form, Except.bind_eq_ok_iff] at h
      obtain ⟨base, answered, made⟩ := h
      obtain ⟨definition, compiles, describes⟩ := generate_describes answered
      rw [compiles] at made
      obtain rfl := Except.ok.inj made
      exact ⟨definition, compiles, (definition.names_toForm _ _ _).trans describes.names⟩

/-- The properties of a view are the shown columns and then the followed relations, each in order
of declaration, and in a full view the identifier stands first. So they follow the fields exactly
if no followed relation is declared before a shown column.
-/
theorem generate_ordersProperties
    (h : View.generate registry settings view model qualifier = .ok document)
    : Members.names document.properties
        = (if view.baseKind = .full then [primaryColumn] else [])
          ++ Members.namesWhere view.baseKind.showsField model.fields.entries
          ++ Members.namesWhere view.baseKind.followsField model.fields.entries
      ∧ ((Members.names document.properties).Sublist (primaryColumn :: model.fields.names)
        ↔ model.fields.entries.Pairwise fun earlier later =>
            ¬ (view.baseKind.followsField earlier.2 = true
              ∧ view.baseKind.showsField later.2 = true)) := by
  obtain ⟨definition, compiles, names⟩ := names_of_generate h
  rw [Model.names_shown compiles, Model.names_followed compiles, List.append_assoc] at names
  have ordinary : primaryColumn ∉ model.fields.names := (Model.definition_entries compiles).1
  refine ⟨by rw [names, List.append_assoc], ?_⟩
  have apart
      : ∀ value,
          view.baseKind.showsField value = true → view.baseKind.followsField value = false :=
    fun _ => ViewKind.followsField_eq_false
  rw [← Members.namesWhere_append_sublist_iff model.fields.distinct apart, names]
  split
  · exact List.cons_sublist_cons
  · have absent
        : primaryColumn
          ∉ Members.namesWhere view.baseKind.showsField model.fields.entries
            ++ Members.namesWhere view.baseKind.followsField model.fields.entries := by
      intro member
      rcases List.mem_append.mp member with shown | followed
      · exact ordinary ((Members.namesWhere_sublist _ _).subset shown)
      · exact ordinary ((Members.namesWhere_sublist _ _).subset followed)
    exact ⟨Members.sublist_of_sublist_cons absent, fun ordered => ordered.cons _⟩

end Generated

/-- A book whose author is declared before its title. -/
def authoredBook : Model :=
  {
    serial := 0,
    name := "Book",
    fields := .ofList
      [
        ("author",
          .relation { kind := .manyToOne, target := .name "Author", cascade := .every true }),
        ("title", .scalar .string)
      ]
  }

def nameOnlyAuthor : Model :=
  { serial := 1, name := "Author", fields := .ofList [("name", .scalar .string)] }

def authoredBooks : Registry :=
  .ofModels [authoredBook, nameOnlyAuthor] (by decide)

/-- The view to create the book shows the title first, against the order of the fields. -/
theorem createBook_ordersProperties
    : ∃ document,
        View.generate authoredBooks {} (.base .create) authoredBook none = .ok document
        ∧ Members.names document.properties = ["title", "author"]
        ∧ ¬ (Members.names document.properties).Sublist
            (primaryColumn :: authoredBook.fields.names) := by
  refine ⟨_, rfl, ?_⟩
  obtain ⟨names, ordered⟩ :=
    generate_ordersProperties
      (show View.generate authoredBooks {} (.base .create) authoredBook none = .ok _ from rfl)
  refine ⟨names, fun sublist => ?_⟩
  have apart := List.pairwise_cons.mp (ordered.mp sublist)
  exact apart.1 ("title", .scalar .string) (.head _) ⟨rfl, rfl⟩

end EntityViews
