import EntityViews.Proofs.Declaration.RoundTrip
import EntityViews.Proofs.Source.Records

/-! Data of a text that says what has been written.
A value that repeats no name survives its text. Maps and records are read from it as they were
written, and whatever their readers give has come from some data of the text.
-/

namespace EntityViews

namespace Source

theorem membersOfJson_eq_map (members : Members Json)
    : membersOfJson members = members.map fun entry => (entry.1, ofJson entry.2) := by
  induction members with
  | nil => rfl
  | cons entry rest ih => rw [membersOfJson, ih, List.map_cons]

/-- Items that are each read as they are written are so together. -/
theorem itemsToJson?_itemsOfJson {items : List Json}
    (h : ∀ item ∈ items, (ofJson item).toJson? = some item)
    : itemsToJson? (itemsOfJson items) = some items := by
  induction items with
  | nil => rfl
  | cons item rest ih =>
      obtain ⟨first, later⟩ := List.forall_mem_cons.mp h
      simp [itemsOfJson, itemsToJson?, first, ih later]

/-- Members that are each read as they are written are so together. -/
theorem membersToJson?_membersOfJson {members : Members Json}
    (h : ∀ entry ∈ members, (ofJson entry.2).toJson? = some entry.2)
    : membersToJson? (membersOfJson members) = some members := by
  induction members with
  | nil => rfl
  | cons entry rest ih =>
      obtain ⟨first, later⟩ := List.forall_mem_cons.mp h
      simp [membersOfJson, membersToJson?, first, ih later]

/-- A value without repeated names is read as it is written. -/
theorem toJson?_ofJson {value : Json} (h : value.Distinct)
    : (ofJson value).toJson? = some value := by
  induction h with
  | null => rfl
  | boolean value => rfl
  | number value => cases value <;> rfl
  | string value => rfl
  | array each ih => simp [ofJson, toJson?, itemsToJson?_itemsOfJson ih]
  | object names each ih =>
      simp [ofJson, toJson?, membersToJson?_membersOfJson ih, Members.collapse_eq_self names]

mutual

/-- The value that data stand for repeats no name, by induction over the data. -/
theorem distinct_of_toJson? : ∀ {source : Source} {value : Json},
    source.toJson? = some value → value.Distinct
  | .broken, _, h => by simp [toJson?] at h
  | .null, _, h => Option.some.inj h ▸ .null
  | .boolean value, _, h => Option.some.inj h ▸ .boolean value
  | .integer value, _, h => Option.some.inj h ▸ .number _
  | .real value, _, h => Option.some.inj h ▸ .number _
  | .infinite _, _, h => Option.some.inj h ▸ .null
  | .notANumber, _, h => Option.some.inj h ▸ .null
  | .string value, _, h => Option.some.inj h ▸ .string value
  | .datetime text, _, h => by
      obtain rfl := Option.some.inj h
      exact (Json.Among.one (.string text)).distinct (by simp)
  | .array items closed, _, h => by
      unfold toJson? at h
      split at h
      · obtain ⟨values, read, rfl⟩ := Option.map_eq_some_iff.mp h
        exact .array (distinct_of_itemsToJson? read)
      · contradiction
  | .blocks items, _, h => by
      obtain ⟨values, read, rfl⟩ := Option.map_eq_some_iff.mp h
      exact .array (distinct_of_itemsToJson? read)
  | .object members closed, _, h => by
      unfold toJson? at h
      split at h
      · obtain ⟨values, read, rfl⟩ := Option.map_eq_some_iff.mp h
        exact .object (Members.nodup_names_collapse values) fun entry member =>
          distinct_of_membersToJson? read entry (Members.collapse_subset values member)
      · contradiction

theorem distinct_of_itemsToJson? : ∀ {items : List Source} {values : List Json},
    itemsToJson? items = some values → ∀ value ∈ values, value.Distinct
  | [], _, h => by
      obtain rfl := Option.some.inj h
      simp
  | item :: rest, _, h => by
      simp only [itemsToJson?, Option.bind_eq_bind, Option.bind_eq_some_iff] at h
      obtain ⟨first, read, others, reads, same⟩ := h
      obtain rfl := Option.some.inj same
      exact List.forall_mem_cons.mpr
        ⟨distinct_of_toJson? read, distinct_of_itemsToJson? reads⟩

theorem distinct_of_membersToJson? : ∀ {members : Members Source} {values : Members Json},
    membersToJson? members = some values → ∀ entry ∈ values, entry.2.Distinct
  | [], _, h => by
      obtain rfl := Option.some.inj h
      simp
  | (name, item) :: rest, _, h => by
      simp only [membersToJson?, Option.bind_eq_bind, Option.bind_eq_some_iff] at h
      obtain ⟨first, read, others, reads, same⟩ := h
      obtain rfl := Option.some.inj same
      exact List.forall_mem_cons.mpr
        ⟨distinct_of_toJson? read, distinct_of_membersToJson? reads⟩

end

section Maps

variable {α : Type} {read : Source → Read α}

/-- Entries under new names are read behind those that a map holds, by induction over them. -/
theorem foldlM_insert_written {write : α → Json} (kept : OrderedMap α) {entries : Members α}
    (distinct : (kept.entries ++ entries).names.Nodup)
    (h : ∀ entry ∈ entries, read (ofJson (write entry.2)) = .ok entry.2)
    : (entries.map fun entry => (entry.1, ofJson (write entry.2))).foldlM
        (fun map member => do return map.insert member.1 (← read member.2)) kept
      = .ok ⟨kept.entries ++ entries, distinct⟩ := by
  induction entries generalizing kept with
  | nil => simp
  | cons entry rest ih =>
      obtain ⟨first, later⟩ := List.forall_mem_cons.mp h
      have fresh : entry.1 ∉ kept.names := by
        rw [Members.names_append, List.nodup_append] at distinct
        exact fun member => distinct.2.2 _ member _ List.mem_cons_self rfl
      have inserted : (kept.insert entry.1 entry.2).entries = kept.entries ++ [entry] :=
        OrderedMap.entries_insert_of_not_mem entry.2 fresh
      have still : ((kept.insert entry.1 entry.2).entries ++ rest).names.Nodup := by
        rwa [inserted, List.append_assoc]
      rw [List.map_cons, List.foldlM_cons, first]
      refine (ih _ still later).trans (congrArg Except.ok (OrderedMap.ext ?_))
      change (kept.insert entry.1 entry.2).entries ++ rest = kept.entries ++ entry :: rest
      rw [inserted, List.append_assoc, List.singleton_append]

/-- A map is read as it is written, if its values are. -/
theorem readMap_written (write : α → Json) {map : OrderedMap α}
    (h : ∀ entry ∈ map.entries, read (ofJson (write entry.2)) = .ok entry.2)
    : (ofJson (.object (map.entries.map fun entry => (entry.1, write entry.2)))).readMap read
      = .ok map := by
  have inserts := foldlM_insert_written .empty map.distinct h
  rw [ofJson, membersOfJson_eq_map, List.map_map]
  exact congrArg (· >>= afterClosing true) inserts

/-- Every value of a map has been read from some data. -/
theorem exists_read_of_readMap {source : Source} {map : OrderedMap α}
    (h : source.readMap read = .ok map)
    : ∀ entry ∈ map.entries, ∃ written, read written = .ok entry.2 := by
  unfold readMap at h
  split at h
  · rename_i members closed _
    obtain ⟨found, reads, closing⟩ := Except.bind_eq_ok_iff.mp h
    obtain rfl := eq_of_afterClosing closing
    refine List.foldlM_keeps
      (P := fun map : OrderedMap α =>
        ∀ entry ∈ map.entries, ∃ written, read written = .ok entry.2)
      ?_ (by simp) reads
    intro member _ before after kept inserts entry within
    obtain ⟨value, found, same⟩ := Except.bind_eq_ok_iff.mp inserts
    obtain rfl := Except.ok.inj same
    rcases Members.mem_put within with earlier | rfl
    · exact kept entry earlier
    · exact ⟨member.2, found⟩
  · exact absurd h unlike_ne_ok

end Maps

section Records

variable {σ : Type} {record : Record σ} {format : Format} {start value : σ}

/-- A record after a member as it is written, whatever fields have been given before. -/
def Record.take (record : Record σ) (state : σ) (member : String × Json) : Read σ :=
  Prod.fst <$> record.readMember (state, []) (member.1, ofJson member.2)

theorem Record.take_eq_readNamed (state : σ) (member : String × Json)
    : record.take state member = record.readNamed state (member.1, ofJson member.2) := by
  simp only [take, readMember, readNamed, List.contains_nil]
  cases record.fields.find? fun field => field.name == member.1 with
  | some field => cases read : field.read state (ofJson member.2) <;> simp [read]
  | none => cases record.strict <;> rfl

/-- An object is read as a record if its members are taken one after another, each name once. -/
theorem Record.read_written {members : Members Json} (names : members.names.Nodup)
    (h : Reads record.take members start value)
    : record.read format start (ofJson (.object members)) = .ok value := by
  have distinct : Members.names (membersOfJson members) = members.names := by
    rw [membersOfJson_eq_map]
    exact Members.names_map_values _ _
  rw [ofJson, read_object (distinct ▸ names), membersOfJson_eq_map, List.foldlM_map]
  simp only [← take_eq_readNamed]
  change members.foldlM record.take start >>= _ = _
  rw [h]
  rfl

/-- Reading the field keeps a property of the record. -/
def Field.Keeps (P : σ → Prop) (field : Field σ) : Prop :=
  ∀ state source later, P state → field.read state source = .ok later → P later

/-- A record that is read by position keeps what each of its fields keeps. -/
theorem readPositions_keeps {P : σ → Prop} {closed : Bool} {fields : List (Field σ)}
    (each : ∀ field ∈ fields, field.Keeps P)
    {sources : List Source} (first : P start)
    (h : readPositions format closed fields sources start = .ok value)
    : P value := by
  induction fields generalizing sources start with
  | nil =>
      cases sources <;>
        · rw [readPositions] at h
          exact eq_of_afterClosing h ▸ first
  | cons field fields ih =>
      cases sources with
      | nil =>
          rw [readPositions] at h
          exact eq_of_afterClosing h ▸ first
      | cons source rest =>
          obtain ⟨here, others⟩ := List.forall_mem_cons.mp each
          rw [readPositions, Except.bind_eq_ok_iff] at h
          obtain ⟨between, read, later⟩ := h
          exact ih others (here start source between first read) later

/-- A member that is read keeps what each field of its record keeps. -/
theorem Record.readMember_keeps {P : σ → Prop} (each : ∀ field ∈ record.fields, field.Keeps P)
    {before after : σ × List String} {member : String × Source} (first : P before.1)
    (h : record.readMember before member = .ok after)
    : P after.1 := by
  obtain ⟨state, seen⟩ := before
  obtain ⟨name, source⟩ := member
  simp only [readMember] at h
  cases found : record.fields.find? fun field => field.name == name with
  | some field =>
      simp only [found] at h
      split at h
      · contradiction
      · obtain ⟨later, reads, same⟩ := Except.bind_eq_ok_iff.mp h
        obtain rfl := Except.ok.inj same
        exact each field (List.mem_of_find?_eq_some found) state source later first reads
  | none =>
      simp only [found] at h
      split at h
      · contradiction
      · exact Except.ok.inj h ▸ first

/-- A record that is read keeps what each of its fields keeps, whatever form it is written in. -/
theorem Record.read_keeps {P : σ → Prop} (each : ∀ field ∈ record.fields, field.Keeps P)
    {source : Source} (first : P start) (h : record.read format start source = .ok value)
    : P value := by
  unfold Record.read at h
  split at h
  · exact readPositions_keeps each first h
  · exact readPositions_keeps each first h
  · split at h
    · obtain ⟨⟨result, known⟩, reads, closing⟩ := Except.bind_eq_ok_iff.mp h
      obtain rfl := eq_of_afterClosing closing
      refine List.foldlM_keeps (P := fun state : σ × List String => P state.1) ?_ first reads
      intro member _ before after kept read
      exact readMember_keeps each kept read
    · exact absurd h unlike_ne_ok

end Records

end Source

end EntityViews
