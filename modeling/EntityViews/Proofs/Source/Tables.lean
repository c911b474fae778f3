import EntityViews.Proofs.NamedEntries
import EntityViews.Source.TomlText

/-! TOML texts name each member of a table once.
Every step that puts tables together keeps their names apart: a pair and a header need a free
name, or enter a table that is there already.
-/

namespace EntityViews

/-- Data that hold no other data. -/
def Source.isScalar : Source → Bool
  | .array .. => false
  | .blocks .. => false
  | .object .. => false
  | _ => true

/-- No object in the data repeats a name. -/
inductive Source.Distinct : Source → Prop where
  | scalar {source : Source} (h : source.isScalar) : Distinct source
  | array {items : List Source} {closed : Bool} (each : ∀ item ∈ items, Distinct item)
    : Distinct (.array items closed)
  | blocks {items : List Source} (each : ∀ item ∈ items, Distinct item)
    : Distinct (.blocks items)
  | object {members : List (String × Source)} {closed : Bool}
    (names : (Members.names members).Nodup) (each : ∀ entry ∈ members, Distinct entry.2)
    : Distinct (.object members closed)

namespace Source.Distinct

variable {members : Members Source} {closed : Bool}

theorem names (h : (Source.object members closed).Distinct) : members.names.Nodup := by
  cases h with
  | scalar h => contradiction
  | object names _ => exact names

theorem of_lookup {name : String} {source : Source} (h : (Source.object members closed).Distinct)
    (found : members.lookup name = some source)
    : source.Distinct := by
  have member := (Members.lookup_eq_some_iff h.names).mp found
  cases h with
  | scalar h => contradiction
  | object _ each => exact each _ member

end Source.Distinct

namespace TomlText

/-- No table in the node repeats a name. -/
inductive Node.Distinct : Node → Prop where
  | value {data : Source} (h : data.Distinct) : Distinct (.value data)
  | table {standing : Standing} {members : List (String × Node)}
    (names : (Members.names members).Nodup) (each : ∀ entry ∈ members, Distinct entry.2)
    : Distinct (.table standing members)
  | blocks {tables : List Node} (each : ∀ table ∈ tables, Distinct table)
    : Distinct (.blocks tables)

namespace Node

/-- The members of a table in which no name is repeated, at any depth. -/
structure Tabular (members : Members Node) : Prop where
  names : members.names.Nodup
  each : ∀ entry ∈ members, entry.2.Distinct

variable {members later : Members Node} {name : String} {node : Node} {standing : Standing}

theorem tabular_nil : Tabular [] :=
  ⟨List.nodup_nil, by simp⟩

theorem Distinct.tabular (h : (Node.table standing members).Distinct) : Tabular members := by
  cases h with
  | table names each => exact ⟨names, each⟩

namespace Tabular

theorem distinct (h : Tabular members) (standing : Standing)
    : (Node.table standing members).Distinct :=
  .table h.names h.each

theorem of_lookup (h : Tabular members) (found : members.lookup name = some node)
    : node.Distinct :=
  h.each _ ((Members.lookup_eq_some_iff h.names).mp found)

theorem put (h : Tabular members) (distinct : node.Distinct)
    : Tabular (members.put name node) := by
  refine ⟨Members.nodup_names_put name node h.names, fun entry member => ?_⟩
  rcases Members.mem_put member with old | rfl
  · exact h.each entry old
  · exact distinct

theorem append (h : Tabular members) (free : name ∉ members.names) (distinct : node.Distinct)
    : Tabular (members ++ [(name, node)]) := by
  rw [← Members.put_of_not_mem node free]
  exact h.put distinct

theorem without (h : Tabular members) (name : String)
    : Tabular (members.filter fun entry => entry.1 != name) :=
  ⟨
    h.names.sublist (Members.names_filter_sublist _ _),
    fun entry member => h.each entry (List.mem_filter.mp member).1
  ⟩

/-- A change of one table keeps names apart in all of them if it does so in that table. The
induction is along the path to it.
-/
theorem updateAt {isDotted : Bool} {change : Standing → Members Node → Option (Members Node)}
    (keeps
      : ∀ standing found changed,
          Tabular found → change standing found = some changed → Tabular changed)
    {path : List String} (h : Tabular members)
    (updated : Node.updateAt isDotted change path standing members = some later)
    : Tabular later := by
  induction path generalizing standing members later with
  | nil => exact keeps standing members later h updated
  | cons name path ih =>
      rw [Node.updateAt] at updated
      split at updated
      · rename_i missing
        obtain ⟨inner, made, rfl⟩ := by
          simpa [Option.bind_eq_some_iff] using updated
        have free := Members.lookup_eq_none_iff.mp missing
        exact h.append free ((ih tabular_nil made).distinct _)
      · contradiction
      · rename_i tables found
        split at updated
        · rename_i standing last ending
          obtain ⟨inner, made, rfl⟩ := by
            simpa [Option.bind_eq_some_iff] using updated
          cases h.of_lookup found with
          | blocks each =>
              have entered := ih (each _ (List.mem_of_getLast? ending)).tabular made
              refine h.put (.blocks fun table member => ?_)
              rcases List.mem_append.mp member with old | changed
              · exact each table (List.dropLast_subset _ old)
              · obtain rfl := List.mem_singleton.mp changed
                exact entered.distinct _
        · contradiction
      · rename_i standing inner found
        split at updated
        · contradiction
        · obtain ⟨inner, made, rfl⟩ := by
            simpa [Option.bind_eq_some_iff] using updated
          exact h.put ((ih (h.of_lookup found).tabular made).distinct _)

theorem addPair {path : List String} {value : Source} (h : Tabular members)
    (distinct : value.Distinct) (added : Node.addPair path name value members = some later)
    : Tabular later := by
  refine h.updateAt (fun standing found changed each change => ?_) added
  split at change
  · contradiction
  · rename_i fits
    obtain rfl := Option.some.inj change
    exact each.append (fun known => fits (Or.inr known)) (.value distinct)

theorem addPairAt {header path : List String} {value : Source} (h : Tabular members)
    (distinct : value.Distinct)
    (added : Node.addPairAt header path name value members = some later)
    : Tabular later :=
  h.updateAt (fun _ _ _ each change => each.addPair distinct change) added

/-- A table that was only implied moves to the last place with what it holds. -/
theorem openTable {path : List String} (h : Tabular members)
    (opened : Node.openTable path name members = some later)
    : Tabular later := by
  refine h.updateAt (fun standing found changed each change => ?_) opened
  split at change
  · rename_i missing
    obtain rfl := Option.some.inj change
    exact each.append (Members.lookup_eq_none_iff.mp missing) (tabular_nil.distinct _)
  · rename_i inner implied
    obtain rfl := Option.some.inj change
    have free : name ∉ Members.names (found.filter fun entry => entry.1 != name) := by
      simp [Members.names]
    exact (each.without name).append free ((each.of_lookup implied).tabular.distinct _)
  · contradiction

theorem openBlock {path : List String} (h : Tabular members)
    (opened : Node.openBlock path name members = some later)
    : Tabular later := by
  refine h.updateAt (fun standing found changed each change => ?_) opened
  split at change
  · rename_i missing
    obtain rfl := Option.some.inj change
    have empty : ∀ table ∈ [Node.table .defined []], table.Distinct := by
      simpa using tabular_nil.distinct _
    exact each.append (Members.lookup_eq_none_iff.mp missing) (.blocks empty)
  · rename_i tables known
    obtain rfl := Option.some.inj change
    cases each.of_lookup known with
    | blocks old =>
        refine each.put (.blocks fun table member => ?_)
        rcases List.mem_append.mp member with before | added
        · exact old table before
        · obtain rfl := List.mem_singleton.mp added
          exact tabular_nil.distinct _
  · contradiction

end Tabular

theorem membersToSource_eq (members : Members Node)
    : membersToSource members = members.map fun entry => (entry.1, entry.2.toSource) := by
  induction members with
  | nil => rfl
  | cons entry rest ih =>
      rw [List.map_cons, ← ih]
      rfl

theorem tablesToSource_eq (tables : List Node)
    : tablesToSource tables = tables.map toSource := by
  induction tables with
  | nil => rfl
  | cons table rest ih =>
      rw [List.map_cons, ← ih]
      rfl

/-- What a node says repeats no name either, by induction over the node. -/
theorem Distinct.toSource (h : node.Distinct) : node.toSource.Distinct := by
  induction h with
  | value distinct => exact distinct
  | table names _ ih =>
      rw [Node.toSource, membersToSource_eq]
      refine .object ((Members.names_map_values _ _).symm ▸ names) fun entry member => ?_
      obtain ⟨source, known, rfl⟩ := List.mem_map.mp member
      exact ih source known
  | blocks _ ih =>
      rw [Node.toSource, tablesToSource_eq]
      refine .blocks fun item member => ?_
      obtain ⟨table, known, rfl⟩ := List.mem_map.mp member
      exact ih table known

theorem Tabular.toSource (h : Tabular members)
    : (Source.object (membersToSource members) true).Distinct :=
  (h.distinct .defined).toSource

end Node

variable {chars rest : List Char} {value : Source}

theorem readBased_isScalar {base : Nat} (h : readBased base chars = some (value, rest))
    : value.isScalar := by
  simp only [readBased, Option.bind_eq_bind, Option.bind_eq_some_iff] at h
  obtain ⟨⟨digits, after⟩, -, h⟩ := h
  grind [Source.isScalar]

theorem integerOf_isScalar {negative : Bool} {whole : List Char}
    (h : integerOf negative whole = some value)
    : value.isScalar := by
  grind [integerOf, Source.isScalar]

theorem realOf_isScalar {negative : Bool} {whole places : List Char} {power : Int}
    (h : realOf negative whole places power = some value)
    : value.isScalar := by
  grind [realOf, Source.isScalar]

theorem readDecimal_isScalar {negative : Bool}
    (h : readDecimal negative chars = some (value, rest))
    : value.isScalar := by
  simp only [readDecimal, Option.bind_eq_bind, Option.bind_eq_some_iff] at h
  obtain ⟨⟨whole, afterWhole⟩, -, h⟩ := h
  split at h
  · contradiction
  · obtain ⟨⟨places, afterPlaces⟩, -, ⟨power?, afterPower⟩, -, h⟩ := by
      simpa only [Option.bind_eq_some_iff] using h
    split at h <;> obtain ⟨number, kind, h⟩ := Option.bind_eq_some_iff.mp h <;> cases h
    · exact integerOf_isScalar kind
    · exact realOf_isScalar kind

theorem readNumber_isScalar (h : readNumber chars = some (value, rest)) : value.isScalar := by
  unfold readNumber at h
  split at h
  · exact readBased_isScalar h
  · exact readBased_isScalar h
  · exact readBased_isScalar h
  · simp only at h
    split at h
    · cases h
      rfl
    · cases h
      rfl
    · exact readDecimal_isScalar h

theorem readScalar_isScalar (h : readScalar chars = some (value, rest)) : value.isScalar := by
  unfold readScalar at h
  split at h
  · cases h
    rfl
  · cases h
    rfl
  · split at h
    · cases h
      rfl
    · split at h
      · cases h
        rfl
      · exact readNumber_isScalar h

/-- What values are read to at a given fuel: no object in them repeats a name. -/
structure ReadsDistinct (fuel : Nat) : Prop where
  value
    : ∀ {depth chars value rest},
        readValue fuel depth chars = some (value, rest) → value.Distinct
  items
    : ∀ {depth chars items rest},
        readItems fuel depth chars = some (items, rest) → ∀ item ∈ items, item.Distinct
  pairs
    : ∀ {depth members chars later rest},
        readPairs fuel depth members chars = some (later, rest)
        → Node.Tabular members → Node.Tabular later

/-- The induction is on the fuel, for values, items and pairs together. -/
theorem readsDistinct (fuel : Nat) : ReadsDistinct fuel := by
  induction fuel with
  | zero =>
      refine ⟨fun h => ?_, fun h => ?_, fun h => ?_⟩
      · simp [readValue] at h
      · simp [readItems] at h
      · simp [readPairs] at h
  | succ fuel ih =>
      refine ⟨fun h => ?_, fun h => ?_, fun h each => ?_⟩
      · unfold readValue at h
        split at h
        · obtain ⟨⟨items, after⟩, read, h⟩ := Option.bind_eq_some_iff.mp h
          cases h
          exact .array (ih.items read)
        · split at h
          · cases h
            exact Node.tabular_nil.toSource
          · obtain ⟨⟨members, after⟩, read, h⟩ := Option.bind_eq_some_iff.mp h
            cases h
            exact (ih.pairs read Node.tabular_nil).toSource
        · exact .scalar (readScalar_isScalar h)
      · rw [readItems] at h
        obtain ⟨after, -, h⟩ := Option.bind_eq_some_iff.mp h
        split at h
        · cases h
          simp
        · obtain ⟨⟨item, afterItem⟩, read, h⟩ := Option.bind_eq_some_iff.mp h
          obtain ⟨afterGap, -, h⟩ := Option.bind_eq_some_iff.mp h
          split at h
          · obtain ⟨⟨others, afterItems⟩, more, h⟩ := Option.bind_eq_some_iff.mp h
            cases h
            exact List.forall_mem_cons.mpr ⟨ih.value read, ih.items more⟩
          · cases h
            exact List.forall_mem_singleton.mpr (ih.value read)
          · contradiction
      · rw [readPairs] at h
        obtain ⟨⟨path, name, afterKey⟩, -, h⟩ := Option.bind_eq_some_iff.mp h
        obtain ⟨afterMark, -, h⟩ := Option.bind_eq_some_iff.mp h
        obtain ⟨⟨value, afterValue⟩, read, h⟩ := Option.bind_eq_some_iff.mp h
        obtain ⟨between, added, h⟩ := Option.bind_eq_some_iff.mp h
        have kept := each.addPair (ih.value read) added
        split at h
        · exact ih.pairs h kept
        · cases h
          exact kept
        · contradiction

theorem readStatement_tabular {scope later : Scope} (each : Node.Tabular scope.root)
    (h : readStatement scope chars = some (later, rest))
    : Node.Tabular later.root := by
  unfold readStatement at h
  split at h
  · obtain ⟨⟨path, name, afterKey⟩, -, h⟩ := Option.bind_eq_some_iff.mp h
    obtain ⟨inner, -, h⟩ := Option.bind_eq_some_iff.mp h
    obtain ⟨outer, -, h⟩ := Option.bind_eq_some_iff.mp h
    obtain ⟨root, opened, h⟩ := Option.bind_eq_some_iff.mp h
    obtain ⟨afterLine, -, h⟩ := Option.bind_eq_some_iff.mp h
    cases h
    exact each.openBlock opened
  · obtain ⟨⟨path, name, afterKey⟩, -, h⟩ := Option.bind_eq_some_iff.mp h
    obtain ⟨inner, -, h⟩ := Option.bind_eq_some_iff.mp h
    obtain ⟨root, opened, h⟩ := Option.bind_eq_some_iff.mp h
    obtain ⟨afterLine, -, h⟩ := Option.bind_eq_some_iff.mp h
    cases h
    exact each.openTable opened
  · obtain ⟨⟨path, name, afterKey⟩, -, h⟩ := Option.bind_eq_some_iff.mp h
    obtain ⟨afterMark, -, h⟩ := Option.bind_eq_some_iff.mp h
    obtain ⟨⟨value, afterValue⟩, read, h⟩ := Option.bind_eq_some_iff.mp h
    obtain ⟨root, added, h⟩ := Option.bind_eq_some_iff.mp h
    obtain ⟨afterLine, -, h⟩ := Option.bind_eq_some_iff.mp h
    cases h
    exact each.addPairAt ((readsDistinct _).value read) added

theorem readStatements_tabular {fuel : Nat} {scope : Scope} {members : Members Node}
    (each : Node.Tabular scope.root) (h : readStatements fuel scope chars = some members)
    : Node.Tabular members := by
  induction fuel generalizing scope chars with
  | zero => contradiction
  | succ fuel ih =>
      rw [readStatements] at h
      split at h
      · exact Option.some.inj h ▸ each
      · split at h
        · obtain ⟨after, -, h⟩ := Option.bind_eq_some_iff.mp h
          exact ih each h
        · obtain ⟨⟨later, after⟩, read, h⟩ := Option.bind_eq_some_iff.mp h
          exact ih (readStatement_tabular each read) h

/-- Whatever a TOML text says, no table in it repeats a name. -/
theorem distinct_read (text : String) : (read text).root.Distinct := by
  unfold read
  simp only
  split
  · rename_i members statements
    exact (readStatements_tabular Node.tabular_nil statements).toSource
  · exact .scalar rfl

end TomlText

end EntityViews
