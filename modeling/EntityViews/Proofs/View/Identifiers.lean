import EntityViews.Proofs.Registry.Lookup
import EntityViews.Proofs.View.DepthLimits
import EntityViews.Proofs.View.Forms

/-! Identifiers of documents.
A label has no underscore, so the last underscore of an identifier sets it off from the qualified
name, whatever underscores and labels that name ends in.
-/

/-- A list is cut in one way where the separator stands last. -/
theorem List.append_cons_inj_of_not_mem {α : Type u} {separator : α}
    {first second last other : List α} (hl : separator ∉ last) (ho : separator ∉ other)
    : first ++ separator :: last = second ++ separator :: other
      ↔ first = second ∧ last = other := by
  refine ⟨fun same => ?_, fun ⟨front, back⟩ => by rw [front, back]⟩
  rcases append_eq_append_iff.mp same with ⟨between, longer, rest⟩ | ⟨between, longer, rest⟩
  · cases between with
    | nil => exact ⟨by simpa using longer.symm, (cons.inj rest).2⟩
    | cons head between =>
        -- A later cut would leave the separator among what stands last.
        obtain ⟨_, tail⟩ := cons.inj rest
        exact absurd (tail ▸ mem_append_right between mem_cons_self) hl
  · cases between with
    | nil => exact ⟨by simpa using longer, (cons.inj rest).2.symm⟩
    | cons head between =>
        obtain ⟨_, tail⟩ := cons.inj rest
        exact absurd (tail ▸ mem_append_right between mem_cons_self) ho

namespace EntityViews

theorem View.underscore_not_mem_label (view : View) : '_' ∉ view.label.toList := by
  rcases view with kind | kind <;> cases kind <;> decide

/-- No two views have one label. -/
theorem View.label_injective {view other : View} (h : view.label = other.label)
    : view = other := by
  rcases view with kind | kind <;> cases kind <;> rcases other with another | another <;>
    cases another <;> first | rfl | exact absurd h (by decide)

/-- Two identifiers are the same just for one kind of view and one qualified name. -/
theorem schemaId_eq_iff {model other : String} {view another : View}
    {qualifier further : Option String}
    : schemaId model view.label qualifier = schemaId other another.label further
      ↔ view = another ∧ qualifiedName model qualifier = qualifiedName other further := by
  have characters (model : String) (view : View) (qualifier : Option String)
      : (schemaId model view.label qualifier).toList
        = (qualifiedName model qualifier).toList ++ '_' :: view.label.toList := by
    simp [schemaId]
  rw [← String.toList_inj, characters, characters,
    List.append_cons_inj_of_not_mem view.underscore_not_mem_label
      another.underscore_not_mem_label,
    String.toList_inj, String.toList_inj, and_comm]
  exact and_congr_left fun _ => ⟨View.label_injective, congrArg View.label⟩

/-- The same qualifier in front tells two names apart just as well. -/
theorem qualifiedName_inj {model other : String} {qualifier : Option String}
    : qualifiedName model qualifier = qualifiedName other qualifier ↔ model = other := by
  refine ⟨fun same => ?_, fun same => by rw [same]⟩
  unfold qualifiedName at same
  split at same
  · split at same
    · exact same
    · simpa [← String.toList_inj] using same
  · exact same

/-- A document bears the identifier of its view. -/
theorem id?_of_generate {registry : Registry} {settings : ViewSettings} {view : View}
    {model : Model} {qualifier : Option String} {document : Document}
    (h : View.generate registry settings view model qualifier = .ok document)
    : document.id? = some (schemaId model.name view.label qualifier) := by
  cases view with
  | base kind =>
      obtain ⟨body, _, rfl⟩ := generate_eq_ok_iff.mp h
      rfl
  | form kind =>
      obtain ⟨created, definition, _, _, rfl⟩ := generate_form_eq_ok_iff.mp h
      rfl

/-- Identifiers tell the kind of view and the qualified name, which is the name itself unless a
qualifier that is not empty stands before it. So under one qualifier no two models of a registry
and no two views have documents of one identifier.
-/
theorem identifiers_tell_views (registry : Registry) (qualifier : Option String)
    : (∀ (model other : String) (view another : View) (first second : Option String),
        schemaId model view.label first = schemaId other another.label second
        ↔ view = another ∧ qualifiedName model first = qualifiedName other second)
      ∧ (∀ model,
        qualifiedName model none = model
        ∧ qualifiedName model (some "") = model
        ∧ ∀ text, text ≠ "" → qualifiedName model (some text) = text ++ "_" ++ model)
      ∧ ∀ (settings others : ViewSettings) (model other : Model) (view another : View)
          (document further : Document),
          model ∈ registry.models
          → other ∈ registry.models
          → View.generate registry settings view model qualifier = .ok document
          → View.generate registry others another other qualifier = .ok further
          → (document.id? = further.id? ↔ model = other ∧ view = another) := by
  refine ⟨fun _ _ _ _ _ _ => schemaId_eq_iff, fun model => ⟨rfl, rfl, ?_⟩, ?_⟩
  · intro text nonempty
    simp [qualifiedName, nonempty]
  · intro settings others model other view another document further registered member answered also
    have named : model.name = other.name ↔ model = other :=
      ⟨List.inj_on_of_nodup_map registry.distinct registered member, congrArg Model.name⟩
    rw [id?_of_generate answered, id?_of_generate also, Option.some.injEq, schemaId_eq_iff,
      qualifiedName_inj, and_comm, named]

/-- A model that is named as a document of another one might be. -/
def bookSchemaModel : Model :=
  { serial := 3, name := "Book_createSchema" }

/-- Books, and what is named as if it were the schema of a book. -/
def schemaShelf : Registry :=
  .ofModels [authorModel, bookModel, bookSchemaModel] (by decide)

/-- Books behind a qualifier share an identifier with a model of the joint name. -/
theorem bookSchema_told_apart
    : schemaId "Book" (View.base .create).label (some "shop")
        = schemaId "shop_Book" (View.base .create).label none
      ∧ ∃ document further,
          View.generate schemaShelf {} (.base .create) bookModel none = .ok document
          ∧ View.generate schemaShelf {} (.form .create) bookSchemaModel none = .ok further
          ∧ document.id? ≠ further.id? := by
  have told := identifiers_tell_views schemaShelf none
  obtain ⟨document, answered⟩
      : ∃ document, View.generate schemaShelf {} (.base .create) bookModel none = .ok document :=
    ⟨_, rfl⟩
  obtain ⟨further, also⟩
      : ∃ further,
          View.generate schemaShelf {} (.form .create) bookSchemaModel none = .ok further :=
    ⟨_, rfl⟩
  have apart := told.2.2 {} {} _ _ _ _ document further (by simp [schemaShelf])
    (by simp [schemaShelf]) answered also
  refine ⟨(told.1 _ _ _ _ _ _).mpr ⟨rfl, by decide⟩, document, further, answered, also, ?_⟩
  exact fun same => absurd (apart.mp same).2 (by decide)

end EntityViews
