import CodeIndex.Proofs.JsonRoundTrip
import CodeIndex.Proofs.TableLaws
import CodeIndex.Proofs.Traversal
import CodeIndex.Snapshot

/-! Records, tracked files and catalogs are read back from their stored forms. -/
namespace CodeIndex

open JsonValue

theorem JsonValue.field?_append (name : String) (first second : List (String × JsonValue)) :
    field? name (first ++ second) = (field? name first).or (field? name second) := by
  induction first with
  | nil => rfl
  | cons field first ih =>
    obtain ⟨other, value⟩ := field
    by_cases hName : other = name <;> simp [field?, hName, ih]

/-- The field of a part that may be absent. -/
def JsonValue.partField (name : String) (part : Option JsonValue) : List (String × JsonValue) :=
  (part.map fun value => (name, value)).toList

/-- The field of a part has its name and no other. -/
theorem JsonValue.field?_partField (name other : String) (part : Option JsonValue) :
    field? name (partField other part) = if other = name then part else none := by
  cases part <;> simp [partField, field?]

theorem JsonValue.mem_partField_iff {name : String} {part : Option JsonValue}
    {field : String × JsonValue} :
    field ∈ partField name part ↔ field.1 = name ∧ part = some field.2 := by
  obtain ⟨other, value⟩ := field
  cases part <;> simp [partField, eq_comm]

theorem JsonValue.map_fst_partField_sublist (name : String) (part : Option JsonValue) :
    ((partField name part).map Prod.fst).Sublist [name] := by
  cases part <;> simp [partField]

/-- Whether a value is a text. -/
def JsonValue.isText : JsonValue → Bool
  | .text _ => true
  | _ => false

theorem JsonValue.isText_iff {value : JsonValue} :
    value.isText = true ↔ ∃ text, value = .text text := by
  cases value <;> simp [isText]

/-- What has to hold of a record under a table for its stored form to say all about it: it names
that table, its line number is in the range, its source line is a text, and an absent scope is not
given as an empty one. -/
structure Record.IsStorable (range : IntegerRange) (table : String) (record : Record) : Prop where
  table_eq : record.table = table
  lineNo_mem : ∀ n ∈ record.lineNo, range.contains n = true
  line_text : ∀ value ∈ record.line, value.isText = true
  scope_ne : record.scope ≠ some []

instance (range : IntegerRange) (table : String) (record : Record) :
    Decidable (record.IsStorable range table) :=
  decidable_of_iff (record.table = table ∧ (∀ n ∈ record.lineNo, range.contains n = true) ∧
      (∀ value ∈ record.line, value.isText = true) ∧ record.scope ≠ some [])
    ⟨fun ⟨hTable, hLineNo, hLine, hScope⟩ => ⟨hTable, hLineNo, hLine, hScope⟩,
      fun hRecord => ⟨hRecord.table_eq, hRecord.lineNo_mem, hRecord.line_text, hRecord.scope_ne⟩⟩

namespace Record

variable {range : IntegerRange} {table : String} {record : Record}

/-- A name is read back from its segments. -/
theorem toName_segments (name : List String) : (segments name).toName = name := by
  simp [segments, toName, display, Function.comp_def]

/-- The fields of the stored form of a record without an empty scope. -/
def storedFields (record : Record) : List (String × JsonValue) :=
  [("file", .text record.file), ("name", segments record.name)]
    ++ partField "line_no" (record.lineNo.map .integer) ++ partField "line" record.line
    ++ partField "kind" (record.kind.map .text) ++ partField "scope" (record.scope.map segments)

/-- The stored form has a field for each part that is present. -/
theorem toJson_eq_storedFields (hScope : record.scope ≠ some []) :
    record.toJson = .object record.storedFields := by
  obtain ⟨table, name, file, lineNo, line, kind, scope⟩ := record
  match scope, hScope with
  | none, _ => simp [toJson, storedFields, partField, Function.comp_def]
  | some [], hScope => exact absurd rfl hScope
  | some (segment :: rest), _ => simp [toJson, storedFields, partField, Function.comp_def]

/-- The line number is found among the stored fields. -/
theorem present?_lineNo (record : Record) :
    present? "line_no" record.storedFields = record.lineNo.map .integer := by
  cases hLineNo : record.lineNo <;>
    simp [present?, storedFields, field?_append, field?_partField, field?, hLineNo]

/-- The source line is found among the stored fields, if it is a text. -/
theorem present?_line (hLine : ∀ value ∈ record.line, value.isText = true) :
    present? "line" record.storedFields = record.line := by
  cases hSome : record.line with
  | none => simp [present?, storedFields, field?_append, field?_partField, field?, hSome]
  | some value =>
    obtain ⟨text, rfl⟩ := isText_iff.mp (hLine value hSome)
    simp [present?, storedFields, field?_append, field?_partField, field?, hSome]

/-- A record is read back from its stored form. -/
theorem IsStorable.ofJson_toJson (hRecord : record.IsStorable range table) :
    ofJson table record.toJson = .ok record := by
  have hName : field? "name" record.storedFields = some (segments record.name) := by
    simp [storedFields, field?]
  have hFile : field? "file" record.storedFields = some (.text record.file) := by
    simp [storedFields, field?]
  have hKind : field? "kind" record.storedFields = record.kind.map .text := by
    simp [storedFields, field?_append, field?_partField, field?]
  have hType : field? "type" record.storedFields = none := by
    simp [storedFields, field?_append, field?_partField, field?]
  have hScope : field? "scope" record.storedFields = record.scope.map segments := by
    simp [storedFields, field?_append, field?_partField, field?]
  have hScopeRead : ((record.scope.map segments).filter isFilled).map toName = record.scope := by
    match hSome : record.scope with
    | none => rfl
    | some [] => exact absurd hSome hRecord.scope_ne
    | some (segment :: rest) =>
      have hFilled : isFilled (segments (segment :: rest)) = true := by simp [segments, isFilled]
      simp [Option.filter, hFilled, toName_segments]
  have hTable := hRecord.table_eq
  rw [toJson_eq_storedFields hRecord.scope_ne]
  simp only [ofJson, fields, bind, Except.bind, hName, hFile, present?_lineNo,
    present?_line hRecord.line_text, hKind, hScope, hScopeRead, toName_segments, display]
  obtain ⟨_, name, file, lineNo, line, kind, scope⟩ := record
  subst hTable
  cases lineNo <;> cases kind <;>
    simp [present?, hType, display, toInteger, pure, Except.pure, Functor.map, Except.map]

theorem rereads_segments (name : List String) : Rereads range (segments name) := by
  rw [segments, Rereads, itemsReread_iff]
  simp [Rereads]

/-- The names in a stored form are different, and all its values are read back. -/
theorem IsStorable.rereads_toJson (hRecord : record.IsStorable range table) :
    Rereads range record.toJson := by
  rw [toJson_eq_storedFields hRecord.scope_ne, Rereads]
  constructor
  · have hNames : (record.storedFields.map Prod.fst).Sublist
        (["file", "name"] ++ ["line_no"] ++ ["line"] ++ ["kind"] ++ ["scope"]) := by
      simp only [storedFields, List.map_append]
      refine ((((List.Sublist.refl _).append ?_).append ?_).append ?_).append ?_
      all_goals exact map_fst_partField_sublist _ _
    exact List.Nodup.sublist hNames (by decide)
  · rw [fieldsReread_iff]
    simp only [storedFields, List.mem_append, mem_partField_iff]
    rintro field ((((hHead | hLineNo) | hLine) | hKind) | hScope)
    · simp only [List.mem_cons, List.not_mem_nil, or_false] at hHead
      rcases hHead with rfl | rfl
      · trivial
      · exact rereads_segments _
    · obtain ⟨n, hn, hValue⟩ := Option.map_eq_some_iff.mp hLineNo.2
      rw [← hValue]
      exact hRecord.lineNo_mem n hn
    · obtain ⟨text, hValue⟩ := isText_iff.mp (hRecord.line_text _ hLine.2)
      rw [hValue]
      trivial
    · obtain ⟨kind, -, hValue⟩ := Option.map_eq_some_iff.mp hKind.2
      rw [← hValue]
      trivial
    · obtain ⟨scope, -, hValue⟩ := Option.map_eq_some_iff.mp hScope.2
      rw [← hValue]
      exact rereads_segments scope

end Record

namespace TrackedFile

/-- A tracked file is read back from its stored form and its path. -/
theorem ofJson_toJson (file : TrackedFile) : ofJson file.path file.toJson = .ok file := by
  simp [ofJson, toJson, fields, field?, toInteger, display, bind, Except.bind, pure, Except.pure]

/-- Whether the numbers of a tracked file are in a range. -/
def FitsIn (range : IntegerRange) (file : TrackedFile) : Prop :=
  range.contains file.lastUpdated = true ∧ range.contains file.extractorVersion = true

instance (range : IntegerRange) (file : TrackedFile) : Decidable (file.FitsIn range) :=
  inferInstanceAs (Decidable (_ ∧ _))

/-- The stored form of a file is read back if its numbers are in the range. -/
theorem FitsIn.rereads_toJson {range : IntegerRange} {file : TrackedFile}
    (hFits : file.FitsIn range) : Rereads range file.toJson := by
  refine ⟨by simp, ?_⟩
  rw [fieldsReread_iff]
  simp only [List.mem_cons, List.not_mem_nil, or_false]
  rintro field (rfl | rfl | rfl)
  · exact hFits.1
  · trivial
  · exact hFits.2

end TrackedFile

namespace Catalog

variable {range : IntegerRange} {catalog : Catalog}

/-- Whether every tracked file is filed under its own path. -/
def FilesNamed (catalog : Catalog) : Prop :=
  ∀ entry ∈ catalog.files.entries, entry.2.path = entry.1

instance (catalog : Catalog) : Decidable catalog.FilesNamed :=
  inferInstanceAs (Decidable (∀ entry ∈ catalog.files.entries, entry.2.path = entry.1))

/-- Whether all numbers of a catalog are in a range. -/
def FitsIn (range : IntegerRange) (catalog : Catalog) : Prop :=
  (∀ entry ∈ catalog.files.entries, entry.2.FitsIn range) ∧
    ∀ entry ∈ catalog.extractorVersions.entries, range.contains entry.2 = true

instance (range : IntegerRange) (catalog : Catalog) : Decidable (catalog.FitsIn range) :=
  inferInstanceAs (Decidable (_ ∧ _))

theorem fitsIn_unbounded (catalog : Catalog) : catalog.FitsIn .unbounded :=
  ⟨fun _ _ => ⟨rfl, rfl⟩, fun _ _ => rfl⟩

/-- A list that is given is taken as it is, even if it is empty. -/
theorem filledField_list (name : String) (fields : List (String × JsonValue))
    (items : List JsonValue) (hField : field? name fields = some (.list items)) :
    filledField name fields (.list []) = .list items := by
  cases items <;> simp [filledField, hField, Option.filter, isFilled]

/-- An object that is given is taken as it is, even if it is empty. -/
theorem filledField_object (name : String) (fields contents : List (String × JsonValue))
    (hField : field? name fields = some (.object contents)) :
    filledField name fields (.object []) = .object contents := by
  cases contents <;> simp [filledField, hField, Option.filter, isFilled]

/-- A catalog is read back from its stored form, with its files in order. -/
theorem ofJson_toJson (hNamed : catalog.FilesNamed) :
    ofJson catalog.toJson = .ok { catalog with files := catalog.files.inOrder } := by
  have hFilesTable : Table.ofList catalog.files.sorted = catalog.files.inOrder :=
    Table.ofList_entries catalog.files.inOrder
  have hPaths (name : List String) : (name.map JsonValue.text).map display = name := by
    simp [display, Function.comp_def]
  unfold ofJson toJson
  simp only [fields, ok_bind]
  rw [filledField_list "paths" _ (catalog.paths.map .text) rfl,
    filledField_list "excludes" _ (catalog.excludes.map .text) rfl,
    filledField_object "files" _ _ rfl, filledField_object "extractors" _ _ rfl]
  simp only [items, ok_bind]
  rw [@mapM_read_map _ _ _ _ _ catalog.files.sorted ?files, ok_bind,
    @mapM_read_map _ _ _ _ _ catalog.extractorVersions.entries ?versions, ok_bind, hFilesTable,
    Table.ofList_entries, hPaths, hPaths]
  case files =>
    rintro ⟨path, file⟩ hMem
    have hPath : file.path = path := hNamed (path, file) (catalog.files.sorted_perm.mem_iff.mp hMem)
    have hRead := file.ofJson_toJson
    rw [hPath] at hRead
    simp only [hRead]
    rfl
  case versions =>
    rintro ⟨name, version⟩ -
    rfl
  rfl

/-- The stored form of a catalog is read back if all numbers in it are in the range. -/
theorem FitsIn.rereads_toJson (hFits : catalog.FitsIn range) : Rereads range catalog.toJson := by
  refine ⟨by simp, ?_⟩
  rw [fieldsReread_iff]
  simp only [List.mem_cons, List.not_mem_nil, or_false]
  rintro field (rfl | rfl | rfl | rfl | rfl)
  · exact Record.rereads_segments catalog.paths
  · exact Record.rereads_segments catalog.excludes
  · have hNodup : (catalog.files.sorted.map Prod.fst).Nodup := catalog.files.inOrder.nodup
    refine ⟨by simpa [Function.comp_def] using hNodup, ?_⟩
    rw [fieldsReread_iff]
    intro entry hEntry
    obtain ⟨⟨path, file⟩, hMem, rfl⟩ := List.mem_map.mp hEntry
    exact (hFits.1 (path, file) (catalog.files.sorted_perm.mem_iff.mp hMem)).rereads_toJson
  · refine ⟨by simpa [Function.comp_def] using catalog.extractorVersions.nodup, ?_⟩
    rw [fieldsReread_iff]
    intro entry hEntry
    obtain ⟨⟨name, version⟩, hMem, rfl⟩ := List.mem_map.mp hEntry
    exact hFits.2 (name, version) hMem
  · trivial

end Catalog

namespace Snapshot

variable {range : IntegerRange} {tables : Table (List Record)}

/-- Whether all records of all tables can be read back from their stored forms. -/
def TablesStorable (range : IntegerRange) (tables : Table (List Record)) : Prop :=
  ∀ entry ∈ tables.entries, ∀ record ∈ entry.2, record.IsStorable range entry.1

instance (range : IntegerRange) (tables : Table (List Record)) :
    Decidable (TablesStorable range tables) :=
  inferInstanceAs (Decidable (∀ entry ∈ tables.entries, ∀ record ∈ entry.2,
    record.IsStorable range entry.1))

/-- What can be stored in a range can be stored without one. -/
theorem TablesStorable.unbounded (hTables : TablesStorable range tables) :
    TablesStorable .unbounded tables := by
  intro entry hEntry record hRecord
  obtain ⟨hTable, -, hLine, hScope⟩ := hTables entry hEntry record hRecord
  exact ⟨hTable, fun _ _ => rfl, hLine, hScope⟩

/-- Tables are read back from their stored form, with the order of the tables and of the records in
each of them. -/
theorem readTables_tablesJson (hTables : TablesStorable range tables) :
    readTables (tablesJson tables) = .ok tables := by
  rw [readTables, tablesJson]
  simp only [fields, ok_bind]
  rw [@mapM_read_map _ _ _ _ _ tables.entries ?entries, ok_bind, Table.ofList_entries]
  case entries =>
    rintro ⟨table, records⟩ hMem
    have hRecords : (records.map Record.toJson).mapM (Record.ofJson table) = .ok records :=
      mapM_read_map fun record hRecord =>
        (hTables (table, records) hMem record hRecord).ofJson_toJson
    simp only [items, ok_bind, hRecords]
    rfl
  rfl

/-- The stored form of the tables is read back, number by number and name by name. -/
theorem rereads_tablesJson (hTables : TablesStorable range tables) :
    Rereads range (tablesJson tables) := by
  refine ⟨by simpa [Function.comp_def] using tables.nodup, ?_⟩
  rw [fieldsReread_iff]
  intro entry hEntry
  obtain ⟨⟨table, records⟩, hMem, rfl⟩ := List.mem_map.mp hEntry
  change ItemsReread range (records.map Record.toJson)
  rw [itemsReread_iff]
  intro value hValue
  obtain ⟨record, hRecord, rfl⟩ := List.mem_map.mp hValue
  exact (hTables (table, records) hMem record hRecord).rereads_toJson

end Snapshot

end CodeIndex
