import EntityViews.Proofs.FirstRefusal
import EntityViews.Proofs.NamedEntries
import EntityViews.Source.Reader

/-! Records that are read from objects without repeated names.
Each member then goes to its own field and the names given before do not matter. A part of the
record that belongs to one field is what that field is read to, wherever its member stands, or
else what it was at the start.
-/

namespace EntityViews.Source

theorem unlike_ne_ok {α : Type} {source : Source} {expected : String} {value : α}
    : source.unlike expected ≠ .ok value := by
  unfold unlike
  split <;> simp

theorem eq_of_afterClosing {α : Type} {closed : Bool} {value result : α}
    (h : afterClosing closed value = .ok result)
    : value = result := by
  unfold afterClosing at h
  split at h
  · exact Except.ok.inj h
  · contradiction

variable {σ α : Type} {record : Record σ} {format : Format} {members : Members Source}
  {start value : σ}

/-- A record after one more member, whatever names have been given before. -/
def Record.readNamed (record : Record σ) (state : σ) (member : String × Source) : Read σ :=
  match record.fields.find? fun field => field.name == member.1 with
  | some field => field.read state member.2
  | none =>
      if record.strict then
        .error (.mismatch (.unknownField member.1 (record.fields.map Field.name)))
      else .ok state

/-- Names that are given once make no difference to what is read, by induction over the members.
-/
theorem Record.foldlM_readMember_eq {seen : List String} (names : members.names.Nodup)
    (fresh : ∀ name ∈ members.names, name ∉ seen)
    : Prod.fst <$> members.foldlM record.readMember (start, seen)
      = members.foldlM record.readNamed start := by
  induction members generalizing start seen with
  | nil => rfl
  | cons member rest ih =>
      obtain ⟨name, source⟩ := member
      obtain ⟨different, others⟩ := List.nodup_cons.mp names
      obtain ⟨unseen, later⟩ := List.forall_mem_cons.mp fresh
      rw [List.foldlM_cons, List.foldlM_cons]
      cases found : record.fields.find? fun field => field.name == name with
      | some field =>
          have free : seen.contains name = false := by simpa using unseen
          have further : ∀ other ∈ Members.names rest, other ∉ name :: seen := by
            intro other member given
            rcases List.mem_cons.mp given with rfl | given
            · exact different member
            · exact later other member given
          simp only [readMember, readNamed, found, free]
          cases field.read start source with
          | error problem => rfl
          | ok next => exact ih others further
      | none =>
          simp only [readMember, readNamed, found]
          cases record.strict with
          | true => rfl
          | false => exact ih others later

/-- An object without repeated names is read member by member. -/
theorem Record.read_object (names : members.names.Nodup) (closed : Bool)
    : record.read format start (.object members closed)
      = members.foldlM record.readNamed start >>= afterClosing closed := by
  rw [← foldlM_readMember_eq names fun _ _ => List.not_mem_nil]
  simp only [Record.read, members?]
  cases members.foldlM record.readMember (start, []) <;> rfl

/-- A lenient record is read if each field reads the member of its name. -/
theorem Record.exists_read (lenient : record.strict = false) (names : members.names.Nodup)
    (reads
      : ∀ field ∈ record.fields, ∀ source,
          members.lookup field.name = some source
          → ∀ state, ∃ later, field.read state source = .ok later)
    : ∃ value, record.read format start (.object members true) = .ok value := by
  rw [read_object names]
  obtain ⟨value, read⟩ : ∃ value, members.foldlM record.readNamed start = .ok value := by
    refine List.exists_foldlM_eq_ok (fun member within state => ?_) start
    unfold readNamed
    split
    · rename_i field found
      have named : field.name = member.1 := by simpa using List.find?_some found
      refine reads field (List.mem_of_find?_eq_some found) member.2 ?_ state
      rw [named]
      exact (Members.lookup_eq_some_iff names).mpr within
    · exact ⟨state, by simp [lenient]⟩
  exact ⟨value, by rw [read]; rfl⟩

/-- A member changes no part of the record that only the field of another name changes. -/
theorem Record.part_of_readNamed {part : σ → α} {name : String} {member : String × Source}
    (own
      : ∀ field ∈ record.fields,
          field.name ≠ name
          → ∀ state source later,
            field.read state source = .ok later → part later = part state)
    (other : member.1 ≠ name) (h : record.readNamed start member = .ok value)
    : part value = part start := by
  unfold readNamed at h
  split at h
  · rename_i field found
    have named : field.name = member.1 := by simpa using List.find?_some found
    exact own field (List.mem_of_find?_eq_some found) (named ▸ other) start member.2 value h
  · split at h
    · contradiction
    · exact Except.ok.inj h ▸ rfl

/-- A part of the record that only the field of one name changes is what that field makes of the
value written under the name, or what it was at the start if none is. The induction is over the
members.
-/
theorem Record.part_of_read {β : Type} (part : σ → α) (made : β → α) {name : String}
    {write : β → Source} {written? : Option β} {closed : Bool}
    (own
      : ∀ field ∈ record.fields,
          field.name ≠ name
          → ∀ state source later,
            field.read state source = .ok later → part later = part state)
    (makes
      : ∀ written state later,
          written? = some written
          → record.readNamed state (name, write written) = .ok later
          → part later = made written)
    (names : members.names.Nodup) (found : members.lookup name = written?.map write)
    (h : record.read format start (.object members closed) = .ok value)
    : part value = (written?.map made).getD (part start) := by
  rw [read_object names, Except.bind_eq_ok_iff] at h
  obtain ⟨result, read, closing⟩ := h
  obtain rfl := eq_of_afterClosing closing
  clear closing
  induction members generalizing start written? with
  | nil =>
      obtain rfl := Except.ok.inj read
      obtain rfl := Option.map_eq_none_iff.mp found.symm
      rfl
  | cons member rest ih =>
      obtain ⟨key, source⟩ := member
      obtain ⟨different, others⟩ := List.nodup_cons.mp names
      rw [List.foldlM_cons, Except.bind_eq_ok_iff] at read
      obtain ⟨between, first, later⟩ := read
      by_cases same : key = name
      · subst same
        rw [List.lookup_cons_self] at found
        obtain ⟨written, rfl, rfl⟩ := Option.map_eq_some_iff.mp found.symm
        have absent : List.lookup key rest = (none : Option β).map write :=
          Members.lookup_eq_none_iff.mpr different
        calc
          part result = part between := ih (by simp) others absent later
          _ = made written := makes written start between rfl first
      · have differs : (name == key) = false := by simpa using Ne.symm same
        rw [List.lookup_cons, differs] at found
        rw [ih makes others found later, part_of_readNamed own same first]

end EntityViews.Source
