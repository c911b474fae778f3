import EntityViews.Proofs.FirstRefusal
import EntityViews.Proofs.NamedEntries
import EntityViews.Proofs.Registry.Lookup
import EntityViews.Proofs.Registry.Registration

/-! Manifests registered into a registry that may hold models already.
Registration stops at the first name that is taken. What stands before that name stays
registered, behind the models that were there before, and none of these is touched.
-/

namespace EntityViews

namespace Registry

variable {registry grown : Registry} {models before later : List Model} {model : Model}

theorem registerAll_cons {extended : Registry} (h : registry.register model = .ok extended)
    : registry.registerAll (model :: later) = extended.registerAll later := by
  simp only [registerAll, h]

/-- Models under free names that differ are all registered, by induction on them: each takes a
name that none of the models after it has.
-/
theorem exists_registerAll_of_free (names : (models.map Model.name).Nodup)
    (free : ∀ model ∈ models, model.name ∉ registry.names)
    : ∃ grown, registry.registerAll models = (grown, .ok ()) := by
  induction models generalizing registry with
  | nil => exact ⟨registry, rfl⟩
  | cons model rest ih =>
      obtain ⟨fresh, different⟩ := List.nodup_cons.mp names
      obtain ⟨freeHere, freeLater⟩ := List.forall_mem_cons.mp free
      have stillFree : ∀ other ∈ rest, other.name ∉ (registry.insert model).names := by
        intro other member taken
        rcases OrderedMap.mem_names_insert.mp taken with before | same
        · exact freeLater other member before
        · exact fresh (same ▸ List.mem_map_of_mem member)
      obtain ⟨grown, all⟩ := ih different stillFree
      exact ⟨grown, (registerAll_cons (register_of_free freeHere)).trans all⟩

/-- Once the first models are registered, the others are registered behind them. -/
theorem registerAll_append (h : registry.registerAll before = (grown, .ok ()))
    : registry.registerAll (before ++ later) = grown.registerAll later := by
  induction before generalizing registry with
  | nil =>
      obtain rfl := (Prod.mk.inj h).1
      rfl
  | cons model rest ih =>
      unfold registerAll at h
      split at h
      · rename_i extended registers
        rw [List.cons_append, registerAll_cons registers, ih h]
      · have failed := (Prod.mk.inj h).2
        contradiction

/-- The first model whose name is taken is refused, and the models before it stay registered. -/
theorem exists_registerAll_of_taken (names : (before.map Model.name).Nodup)
    (free : ∀ model ∈ before, model.name ∉ registry.names)
    (taken : model.name ∈ registry.names)
    : ∃ grown,
        registry.registerAll before = (grown, .ok ())
        ∧ registry.registerAll (before ++ model :: later)
          = (grown, .error (.duplicateModel model.name)) := by
  obtain ⟨grown, all⟩ := exists_registerAll_of_free names free
  have stillTaken : model.name ∈ grown.names := by
    rw [names_of_registerAll all]
    exact List.mem_append_left _ taken
  refine ⟨grown, all, ?_⟩
  rw [registerAll_append all, registerAll, register_of_taken stillTaken]

/-- The entities of a registry are those of its models, in order. -/
theorem entities_eq_ok_iff {entities : List Entity}
    : registry.entities = .ok entities
      ↔ List.Forall₂
          (fun model entity =>
            entity.name = model.name
            ∧ model.definition = .ok entity.definition
            ∧ entity.options = model.options)
          registry.models entities := by
  have entity (model : Model) (entity : Entity)
      : (do return model.entityOf (← model.definition)) = Except.ok entity
        ↔ entity.name = model.name
          ∧ model.definition = .ok entity.definition
          ∧ entity.options = model.options := by
    rw [Except.bind_eq_ok_iff]
    constructor
    · intro made
      obtain ⟨definition, defined, same⟩ := made
      obtain rfl := Except.ok.inj same
      exact ⟨rfl, defined, rfl⟩
    · intro described
      obtain ⟨named, defined, optional⟩ := described
      refine ⟨entity.definition, defined, ?_⟩
      rw [Model.entityOf, ← named, ← optional]
      rfl
  rw [Registry.entities, entitiesWith, List.mapM_eq_ok_iff]
  simp only [entity]

end Registry

namespace Manifest

/-- Models under the names of entries, with their fields and options and serial numbers from the
given one on.
-/
def modelsOf (serial : Nat) (entries : Members ManifestEntry) : List Model :=
  entries.zipIdx.map fun (entry, index) =>
    ⟨serial + index, entry.1, entry.2.fields, entry.2.options⟩

theorem modelsOf_append (serial : Nat) (entries more : Members ManifestEntry)
    : modelsOf serial (entries ++ more)
      = modelsOf serial entries ++ modelsOf (serial + entries.length) more := by
  rw [modelsOf, modelsOf, modelsOf, List.zipIdx_append, List.map_append,
    List.zipIdx_eq_map_add (i := 0 + entries.length), List.map_map]
  simp only [Function.comp_def, Nat.add_zero, Nat.add_left_comm, Nat.add_comm]

theorem modelsOf_cons (serial : Nat) (entry : String × ManifestEntry)
    (more : Members ManifestEntry)
    : modelsOf serial (entry :: more)
      = ⟨serial, entry.1, entry.2.fields, entry.2.options⟩ :: modelsOf (serial + 1) more :=
  modelsOf_append serial [entry] more

/-- The model has the name, the fields and the options of an entry. -/
structure IsModelOf (entry : String × ManifestEntry) (model : Model) : Prop where
  name : model.name = entry.1
  fields : model.fields = entry.2.fields
  options : model.options = entry.2.options

/-- Each model comes from the entry in its place, by induction on the entries. -/
theorem forall₂_modelsOf (serial : Nat) (entries : Members ManifestEntry)
    : List.Forall₂ IsModelOf entries (modelsOf serial entries) := by
  induction entries generalizing serial with
  | nil => exact .nil
  | cons entry rest ih =>
      rw [modelsOf_cons]
      exact .cons ⟨rfl, rfl, rfl⟩ (ih (serial + 1))

theorem map_name_modelsOf (serial : Nat) (entries : Members ManifestEntry)
    : (modelsOf serial entries).map Model.name = entries.names := by
  induction entries generalizing serial with
  | nil => rfl
  | cons entry rest ih => rw [modelsOf_cons, List.map_cons, ih, Members.names_cons]

theorem free_modelsOf (serial : Nat) {registry : Registry} {entries : Members ManifestEntry}
    (h : ∀ name ∈ entries.names, name ∉ registry.names)
    : ∀ model ∈ modelsOf serial entries, model.name ∉ registry.names := by
  rw [← map_name_modelsOf serial] at h
  exact fun model member => h model.name (List.mem_map_of_mem member)

/-- Entries under free names are all registered. -/
theorem exists_registerAll_modelsOf (serial : Nat) {registry : Registry}
    {entries : Members ManifestEntry} (names : entries.names.Nodup)
    (free : ∀ name ∈ entries.names, name ∉ registry.names)
    : ∃ grown, registry.registerAll (modelsOf serial entries) = (grown, .ok ()) := by
  rw [← map_name_modelsOf serial] at names
  exact Registry.exists_registerAll_of_free names (free_modelsOf serial free)

end Manifest

/-- The registry has grown by models of the entries: they stand behind all that it held before,
in order, and every name finds the same model as before or that of its entry.
-/
structure Registry.GrownBy (serial : Nat) (entries : Members ManifestEntry)
    (registry grown : Registry)
    : Prop where
  models : grown.models = registry.models ++ Manifest.modelsOf serial entries
  names : grown.names = registry.names ++ entries.names
  kept : ∀ name model, registry.get name = .ok model → grown.get name = .ok model
  added
    : ∀ entry ∈ entries, ∃ model, grown.get entry.1 = .ok model ∧ Manifest.IsModelOf entry model

namespace Manifest

variable {registry grown : Registry} {serial : Nat} {entries : Members ManifestEntry}

/-- Registering the models of entries makes a registry grow by them. -/
theorem grownBy_of_registerAll
    (h : registry.registerAll (modelsOf serial entries) = (grown, .ok ()))
    : Registry.GrownBy serial entries registry grown := by
  have models := Registry.models_of_registerAll h
  refine ⟨models, ?names, ?kept, ?added⟩
  case names => rw [Registry.names_of_registerAll h, map_name_modelsOf]
  case kept =>
    intro name model found
    obtain ⟨member, named⟩ := Registry.get_eq_ok_iff.mp found
    refine Registry.get_eq_ok_iff.mpr ⟨?_, named⟩
    rw [models]
    exact List.mem_append_left _ member
  case added =>
    intro entry member
    obtain ⟨model, added, isModel⟩ :=
      List.exists_mem_of_forall₂ (forall₂_modelsOf serial entries) member
    refine ⟨model, Registry.get_eq_ok_iff.mpr ⟨?_, isModel.name⟩, isModel⟩
    rw [models]
    exact List.mem_append_right _ added

/-- Either all names are free, or there is a first one that is taken. -/
theorem exists_firstTaken (registry : Registry) (entries : Members ManifestEntry)
    : (∀ name ∈ entries.names, name ∉ registry.names)
      ∨ ∃ before name entry later,
          entries = before ++ (name, entry) :: later
          ∧ (∀ earlier ∈ Members.names before, earlier ∉ registry.names)
          ∧ name ∈ registry.names := by
  cases found : entries.find? fun entry => entry.1 ∈ registry.names with
  | none =>
      left
      simpa [Members.names] using found
  | some first =>
      right
      obtain ⟨taken, before, later, rfl, free⟩ := List.find?_eq_some_iff_append.mp found
      exact ⟨before, first.1, first.2, later, rfl, by simpa [Members.names] using free,
        by simpa using taken⟩

variable (manifest : Manifest)

/-- A manifest under free names is registered as a whole. -/
theorem exists_registerInto_of_free
    (free : ∀ name ∈ manifest.models.entries.names, name ∉ registry.names)
    : ∃ grown,
        manifest.registerInto serial registry = (grown, .ok ())
        ∧ Registry.GrownBy serial manifest.models.entries registry grown := by
  obtain ⟨grown, registered⟩ := exists_registerAll_modelsOf serial manifest.models.distinct free
  exact ⟨grown, registered, grownBy_of_registerAll registered⟩

/-- Of a manifest, the entries before the first taken name are registered. -/
theorem exists_registerInto_of_taken {before later : Members ManifestEntry} {name : String}
    {entry : ManifestEntry} (split : manifest.models.entries = before ++ (name, entry) :: later)
    (free : ∀ earlier ∈ Members.names before, earlier ∉ registry.names)
    (taken : name ∈ registry.names)
    : ∃ grown,
        manifest.registerInto serial registry = (grown, .error (.duplicateModel name))
        ∧ Registry.GrownBy serial before registry grown := by
  have names := manifest.models.distinct
  rw [split, Members.names_append] at names
  have refusable
      : Model.name ⟨serial + before.length, name, entry.fields, entry.options⟩
        ∈ registry.names :=
    taken
  obtain ⟨grown, registered, refused⟩ :=
    Registry.exists_registerAll_of_taken (by
      rw [map_name_modelsOf]
      exact names.of_append_left) (free_modelsOf serial free) refusable
  refine ⟨grown, ?_, grownBy_of_registerAll registered⟩
  change registry.registerAll (modelsOf serial manifest.models.entries) = _
  rw [split, modelsOf_append, modelsOf_cons, refused]

/-- The entities of a registry that holds nothing but the models of entries are those of the
entries, in order.
-/
theorem forall₂_entities {own : Registry} (models : own.models = modelsOf serial entries)
    {entities : List Entity} (h : own.entities = .ok entities)
    : List.Forall₂
        (fun (entry : String × ManifestEntry) (entity : Entity) =>
          entity.name = entry.1
          ∧ normalize entry.1 entry.2.fields = .ok entity.definition
          ∧ entity.options = entry.2.options)
        entries entities := by
  rw [Registry.entities_eq_ok_iff, models] at h
  refine List.forall₂_trans (forall₂_modelsOf serial _) h ?_
  intro entry model entity isModel isEntity
  obtain ⟨named, defined, optional⟩ := isEntity
  rw [Model.definition, isModel.name, isModel.fields] at defined
  exact ⟨named.trans isModel.name, defined, optional.trans isModel.options⟩

/-- Registering a manifest registers the models before the first whose name is taken, or all of
them if no name is, and reports the name. A registry of its own takes every manifest, and its
entities come in the order of the manifest.
-/
theorem registers_upToFirstTaken (serial : Nat) (registry : Registry)
    : (∃ grown,
          ((∀ name ∈ manifest.models.entries.names, name ∉ registry.names)
            ∧ manifest.registerInto serial registry = (grown, .ok ())
            ∧ Registry.GrownBy serial manifest.models.entries registry grown)
          ∨ ∃ before name entry later,
              manifest.models.entries = before ++ (name, entry) :: later
              ∧ (∀ earlier ∈ Members.names before, earlier ∉ registry.names)
              ∧ name ∈ registry.names
              ∧ manifest.registerInto serial registry = (grown, .error (.duplicateModel name))
              ∧ Registry.GrownBy serial before registry grown)
      ∧ ∃ own,
          manifest.registerInto serial .empty = (own, .ok ())
          ∧ ∀ entities,
              own.entities = .ok entities
              → List.Forall₂
                  (fun (entry : String × ManifestEntry) (entity : Entity) =>
                    entity.name = entry.1
                    ∧ normalize entry.1 entry.2.fields = .ok entity.definition
                    ∧ entity.options = entry.2.options)
                  manifest.models.entries entities := by
  refine ⟨?into, ?own⟩
  case into =>
    rcases exists_firstTaken registry manifest.models.entries with
      free | ⟨before, name, entry, later, split, free, taken⟩
    · obtain ⟨grown, registered⟩ := exists_registerInto_of_free manifest free
      exact ⟨grown, .inl ⟨free, registered⟩⟩
    · obtain ⟨grown, refused⟩ := exists_registerInto_of_taken manifest split free taken
      exact ⟨grown, .inr ⟨before, name, entry, later, split, free, taken, refused⟩⟩
  case own =>
    have free : ∀ name ∈ manifest.models.entries.names, name ∉ Registry.empty.names := by
      simp [Registry.names, Registry.empty, OrderedMap.names]
    obtain ⟨own, registered, grows⟩ := exists_registerInto_of_free manifest free
    exact ⟨own, registered, fun entities => forall₂_entities grows.models⟩

/-- A manifest of authors, books and shelves. -/
def libraryManifest : Manifest :=
  {
    models := .ofList
      [
        ("Author", { fields := .ofList [("name", .scalar .string)] }),
        ("Book", { fields := .ofList [("title", .scalar .string)] }),
        ("Shelf", { fields := .ofList [("room", .scalar .integer)] })
      ]
  }

/-- A book that is sold. -/
def soldBook : Model :=
  { serial := 0, name := "Book", fields := .ofList [("price", .scalar .real)] }

/-- A bookshop, which knows of books and of nothing else. -/
def bookshop : Registry :=
  .ofModels [soldBook] (by decide)

/-- A library of its own has its entities in the order of the manifest. In the bookshop the name of
books is taken, so it gets authors behind its own books and no shelves.
-/
theorem registers_upToFirstTaken_library
    : (∃ own entities,
          libraryManifest.registerInto 1 .empty = (own, .ok ())
          ∧ own.entities = .ok entities
          ∧ entities.map Entity.name = ["Author", "Book", "Shelf"])
      ∧ ∃ grown,
          libraryManifest.registerInto 1 bookshop = (grown, .error (.duplicateModel "Book"))
          ∧ grown.names = ["Book", "Author"]
          ∧ grown.get "Book" = .ok soldBook := by
  obtain ⟨⟨grown, stops⟩, own, registered, inOrder⟩ :=
    registers_upToFirstTaken libraryManifest 1 bookshop
  refine ⟨?own, grown, ?shop⟩
  case own =>
    obtain ⟨entities, found⟩ : ∃ entities, own.entities = .ok entities := by
      obtain rfl := (Prod.mk.inj registered).1
      exact ⟨_, rfl⟩
    refine ⟨own, entities, registered, found, ?_⟩
    have named := (inOrder entities found).imp fun _ _ described => described.1.symm
    rw [← List.forall₂_map_right_iff, ← List.forall₂_map_left_iff, List.forall₂_eq_eq_eq] at named
    exact named.symm
  case shop =>
    rcases stops with ⟨free, -⟩ | ⟨before, name, entry, later, split, free, taken, refused, grows⟩
    · exact absurd (by decide : "Book" ∈ bookshop.names) (free "Book" (by decide))
    · have reported : (libraryManifest.registerInto 1 bookshop).2
          = .error (.duplicateModel "Book") := rfl
      obtain rfl : name = "Book" := by simpa [refused] using reported
      have names : ["Author"] ++ "Book" :: ["Shelf"]
          = Members.names before ++ "Book" :: Members.names later :=
        (congrArg Members.names split).trans (Members.names_append _ _)
      obtain ⟨author, -, -⟩ := (List.append_cons_inj_of_notMem (by decide) (by decide)).mp names
      refine ⟨refused, ?_, grows.kept _ _ rfl⟩
      rw [grows.names, ← author]
      rfl

end Manifest

end EntityViews
