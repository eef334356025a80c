import CodeIndex.Proofs.NormalPaths
import CodeIndex.Proofs.SnapshotRoundTrip

/-! Decoding and encoding again brings a snapshot into a normal form. The decoder takes many shapes
that the encoder does not write, but whatever it accepts it turns into files and records that stand
in their own places, and of those the encoder loses nothing. -/
namespace CodeIndex

open JsonValue

theorem Table.mem_setEntry {α : Type} {key : String} {value : α} {entries : List (String × α)}
    {entry : String × α} (hMem : entry ∈ setEntry key value entries) :
    entry = (key, value) ∨ entry ∈ entries := by
  induction entries with
  | nil => exact .inl (List.mem_singleton.mp hMem)
  | cons first rest ih =>
    obtain ⟨other, old⟩ := first
    by_cases hKey : other = key
    · subst hKey
      rw [setEntry, if_pos rfl] at hMem
      exact (List.mem_cons.mp hMem).imp id (List.mem_cons_of_mem _)
    · rw [setEntry, if_neg hKey] at hMem
      rcases List.mem_cons.mp hMem with rfl | hMem
      · exact .inr List.mem_cons_self
      · exact (ih hMem).imp id (List.mem_cons_of_mem _)

/-- What holds of all entries that are inserted, and of those before, holds of all entries after. -/
theorem Table.forall_mem_foldl_insert {α : Type} {holds : String × α → Prop}
    {entries : List (String × α)} (hEntries : ∀ entry ∈ entries, holds entry) (table : Table α)
    (hTable : ∀ entry ∈ table.entries, holds entry) :
    ∀ entry ∈ (entries.foldl (fun table entry => table.insert entry.1 entry.2) table).entries,
      holds entry := by
  induction entries generalizing table with
  | nil => exact hTable
  | cons first rest ih =>
    obtain ⟨hFirst, hRest⟩ := List.forall_mem_cons.mp hEntries
    refine ih hRest _ fun entry hMem => ?_
    rcases mem_setEntry hMem with rfl | hMem
    · exact hFirst
    · exact hTable entry hMem

/-- Whatever holds of all listed entries holds of the table of them, whichever of them win. -/
theorem Table.forall_mem_ofList {α : Type} {holds : String × α → Prop}
    {entries : List (String × α)} (hEntries : ∀ entry ∈ entries, holds entry) :
    ∀ entry ∈ (ofList entries).entries, holds entry :=
  forall_mem_foldl_insert hEntries empty (List.forall_mem_nil _)

/-! What is read stands in its own place. -/

/-- A filled value has a segment. -/
theorem JsonValue.toName_ne_nil {value : JsonValue} (hFilled : value.isFilled = true) :
    value.toName ≠ [] := by
  cases value <;> simp_all [toName, isFilled]

/-- A record that was read names its table, and a scope that is given is not empty. -/
theorem Record.isStorable_of_ofJson {table : String} {value : JsonValue} {record : Record}
    (hRead : ofJson table value = .ok record)
    (hLine : ∀ line ∈ record.line, line.isText = true) : record.IsStorable .unbounded table := by
  rw [ofJson] at hRead
  obtain ⟨fields, -, hRead⟩ := bind_eq_ok_iff.mp hRead
  split at hRead
  case h_2 => cases hRead
  split at hRead
  case h_2 => cases hRead
  -- a line number may be given or not, which makes no difference to the other parts
  cases hGiven : present? "line_no" fields
  all_goals
    simp only [hGiven] at hRead
    obtain ⟨lineNo, -, hRead⟩ := bind_eq_ok_iff.mp hRead
    obtain rfl := Except.ok.inj hRead
    refine ⟨rfl, fun _ _ => rfl, hLine, fun hScope => ?_⟩
    obtain ⟨scope, hFilter, hName⟩ := Option.map_eq_some_iff.mp hScope
    exact toName_ne_nil (Option.filter_eq_some_iff.mp hFilter).2 hName

theorem TrackedFile.path_of_ofJson {path : String} {value : JsonValue} {file : TrackedFile}
    (hRead : ofJson path value = .ok file) : file.path = path := by
  rw [ofJson] at hRead
  obtain ⟨fields, -, hRead⟩ := bind_eq_ok_iff.mp hRead
  obtain ⟨lastUpdated, -, hRead⟩ := bind_eq_ok_iff.mp hRead
  obtain ⟨version, -, hRead⟩ := bind_eq_ok_iff.mp hRead
  obtain rfl := Except.ok.inj hRead
  rfl

/-- Every file of a catalog that was read is filed under its own path. -/
theorem Catalog.filesNamed_of_ofJson {value : JsonValue} {catalog : Catalog}
    (hRead : ofJson value = .ok catalog) : catalog.FilesNamed := by
  rw [ofJson] at hRead
  obtain ⟨fields, -, hRead⟩ := bind_eq_ok_iff.mp hRead
  obtain ⟨paths, -, hRead⟩ := bind_eq_ok_iff.mp hRead
  obtain ⟨excludes, -, hRead⟩ := bind_eq_ok_iff.mp hRead
  obtain ⟨stored, -, hRead⟩ := bind_eq_ok_iff.mp hRead
  obtain ⟨files, hFiles, hRead⟩ := bind_eq_ok_iff.mp hRead
  obtain ⟨storedVersions, -, hRead⟩ := bind_eq_ok_iff.mp hRead
  obtain ⟨versions, -, hRead⟩ := bind_eq_ok_iff.mp hRead
  obtain rfl := Except.ok.inj hRead
  refine Table.forall_mem_ofList fun entry hMem => ?_
  obtain ⟨⟨path, value⟩, -, hEntry⟩ := exists_of_mem_mapM hFiles hMem
  obtain ⟨file, hFile, hEntry⟩ := bind_eq_ok_iff.mp hEntry
  obtain rfl := Except.ok.inj hEntry
  exact TrackedFile.path_of_ofJson hFile

namespace Snapshot

variable {catalog : Catalog} {tables : Table (List Record)}

/-- Whether the source line of every record is a text, if the record has one. -/
def LinesAreText (tables : Table (List Record)) : Prop :=
  ∀ entry ∈ tables.entries, ∀ record ∈ entry.2, ∀ line ∈ record.line, line.isText = true

instance (tables : Table (List Record)) : Decidable (LinesAreText tables) :=
  inferInstanceAs (Decidable (∀ entry ∈ tables.entries, ∀ record ∈ entry.2,
    ∀ line ∈ record.line, line.isText = true))

/-- All records that were read can be stored if their source lines are texts. -/
theorem tablesStorable_of_readTables {value : JsonValue} (hRead : readTables value = .ok tables)
    (hLines : LinesAreText tables) : TablesStorable .unbounded tables := by
  rw [readTables] at hRead
  obtain ⟨fields, -, hRead⟩ := bind_eq_ok_iff.mp hRead
  obtain ⟨entries, hEntries, hRead⟩ := bind_eq_ok_iff.mp hRead
  obtain rfl := Except.ok.inj hRead
  have hRecords : ∀ entry ∈ (Table.ofList entries).entries, ∀ record ∈ entry.2,
      ∃ value, Record.ofJson entry.1 value = .ok record := by
    refine Table.forall_mem_ofList fun entry hMem record hRecord => ?_
    obtain ⟨⟨table, stored⟩, -, hEntry⟩ := exists_of_mem_mapM hEntries hMem
    obtain ⟨items, -, hEntry⟩ := bind_eq_ok_iff.mp hEntry
    obtain ⟨records, hMapM, hEntry⟩ := bind_eq_ok_iff.mp hEntry
    obtain rfl := Except.ok.inj hEntry
    obtain ⟨item, -, hItem⟩ := exists_of_mem_mapM hMapM hRecord
    exact ⟨item, hItem⟩
  intro entry hMem record hRecord
  obtain ⟨value, hValue⟩ := hRecords entry hMem record hRecord
  exact Record.isStorable_of_ofJson hValue (hLines entry hMem record hRecord)

/-- The tables on the last line of the present format. -/
def storedTables (line : List UInt8) : Except Failure (Table (List Record)) :=
  if (stripBytes line).isEmpty then .ok ∅ else readJson line >>= readTables

/-- The present format holds a line with the catalog and a line with the tables. -/
theorem decodeCurrent_eq (rest : List UInt8) :
    decodeCurrent rest = readJson (splitLine rest).1 >>= fun value =>
      Catalog.ofJson value >>= fun catalog =>
        storedTables (splitLine (splitLine rest).2).1 >>= fun tables =>
          .ok (.current catalog tables) := by
  simp only [decodeCurrent, storedTables]
  split_ifs
  · rfl
  · simp only [bind_assoc]
    rfl

/-- The value that holds the root paths of an older format. -/
def legacyValue (tag : Nat) (rest : List UInt8) : Except Failure JsonValue :=
  if tag ≤ 2 then
    match IntegerText.read? (asciiText (stripBytes (splitLine rest).1)) with
    | some length => readJson (prefixOf (splitLine rest).2 length)
    | none => .error .malformedInteger
  else readJson (splitLine rest).1

theorem decodeLegacy_eq (tag : Nat) (rest : List UInt8) :
    decodeLegacy tag rest = legacyValue tag rest >>= fun value =>
      value.items >>= fun items => .ok (.legacy tag (items.map display)) := by
  simp only [decodeLegacy, legacyValue]
  split_ifs
  · cases IntegerText.read? (asciiText (stripBytes (splitLine rest).1)) <;> rfl
  · rfl

/-- What follows the tag line is read by the format that the tag names. -/
theorem decode_append {line : List UInt8} {tag : Nat} (rest : List UInt8)
    (hFeed : (10 : UInt8) ∉ line) (hTag : readTag line = .ok tag) :
    decode (line ++ 10 :: rest) =
      if format < tag then .error (.newerFormat tag)
      else if tag = format then decodeCurrent rest else decodeLegacy tag rest := by
  rw [decode, splitLine_append rest hFeed]
  simp only [hTag, ok_bind]

/-- What is decoded from the present format was read from two values, unless there are no tables. -/
theorem exists_values_of_decode {bytes : List UInt8}
    (hDecode : decode bytes = .ok (.current catalog tables)) :
    (∃ value, Catalog.ofJson value = .ok catalog) ∧
      (tables = ∅ ∨ ∃ value, readTables value = .ok tables) := by
  rw [decode] at hDecode
  obtain ⟨tag, -, hDecode⟩ := bind_eq_ok_iff.mp hDecode
  split_ifs at hDecode
  · rw [decodeCurrent_eq] at hDecode
    obtain ⟨catalogValue, -, hDecode⟩ := bind_eq_ok_iff.mp hDecode
    obtain ⟨readCatalog, hCatalog, hDecode⟩ := bind_eq_ok_iff.mp hDecode
    obtain ⟨stored, hStored, hDecode⟩ := bind_eq_ok_iff.mp hDecode
    obtain ⟨rfl, rfl⟩ := Snapshot.current.inj (Except.ok.inj hDecode)
    refine ⟨⟨catalogValue, hCatalog⟩, ?_⟩
    rw [storedTables] at hStored
    split_ifs at hStored
    · exact .inl (Except.ok.inj hStored).symm
    · obtain ⟨tablesValue, -, hTables⟩ := bind_eq_ok_iff.mp hStored
      exact .inr ⟨tablesValue, hTables⟩
  · rw [decodeLegacy_eq] at hDecode
    obtain ⟨value, -, hDecode⟩ := bind_eq_ok_iff.mp hDecode
    obtain ⟨items, -, hDecode⟩ := bind_eq_ok_iff.mp hDecode
    cases hDecode

/-- What is decoded can be encoded without a loss, as far as its numbers fit. -/
theorem storable_of_decode {bytes : List UInt8}
    (hDecode : decode bytes = .ok (.current catalog tables)) (hLines : LinesAreText tables) :
    catalog.FilesNamed ∧ TablesStorable .unbounded tables := by
  obtain ⟨⟨value, hCatalog⟩, hTables⟩ := exists_values_of_decode hDecode
  refine ⟨Catalog.filesNamed_of_ofJson hCatalog, ?_⟩
  rcases hTables with rfl | ⟨value, hTables⟩
  · exact nofun
  · exact tablesStorable_of_readTables hTables hLines

/-- The encoder puts the files in order itself. -/
theorem encode_inOrder (catalog : Catalog) (tables : Table (List Record)) :
    encode { catalog with files := catalog.files.inOrder } tables = encode catalog tables := by
  have hSorted : catalog.files.inOrder.sorted = catalog.files.sorted :=
    Table.sorted_eq_of_get?_eq catalog.files.get?_inOrder
  simp only [encode, Catalog.toJson, hSorted]

/-- Encoding what was decoded is a normal form: it is decoded to the same tables and to the same
catalog with its files in ascending order, and encoding those gives the same bytes. -/
theorem encode_decoded_is_normal {bytes again : List UInt8}
    (hDecode : decode bytes = .ok (.current catalog tables)) (hLines : LinesAreText tables)
    (hEncode : encode catalog tables = .ok again) :
    ∃ files, decode again = .ok (.current { catalog with files := files } tables) ∧
      files.entries.Perm catalog.files.entries ∧ files.keys.Pairwise (· < ·) ∧
      encode { catalog with files := files } tables = .ok again := by
  obtain ⟨hNamed, hTables⟩ := storable_of_decode hDecode hLines
  refine ⟨catalog.files.inOrder, decode_of_encode hNamed hTables hEncode,
    catalog.files.sorted_perm, catalog.files.inOrder_keys_ascend, ?_⟩
  rw [encode_inOrder, hEncode]

/-- A catalog as it may have been stored long ago: parts are missing or null, numbers stand where
texts are expected and the other way round, and the files are not in order. -/
def olderCatalogValue : JsonValue :=
  .object [("files", .object [("b.go", .object [("last_updated", .text " 3")]),
      ("a.py", .object [("extractor", .integer 7)])]),
    ("paths", .list [.text "src", .integer 1, .null]), ("excludes", .null)]

/-- Tables as they may have been stored long ago. The first record has a name that is no list and a
kind under its old name, the second one has an empty scope. -/
def olderTablesValue : JsonValue :=
  .object [("calls", .list []), ("defs", .list [
    .object [("name", .text "f"), ("file", .text "b.go"), ("line_no", .bool true),
      ("line", .text "f()"), ("type", .text "func"), ("scope", .text "C")],
    .object [("name", .list [.text "g", .bool true]), ("file", .integer 2), ("line", .null),
      ("kind", .null), ("type", .text "func"), ("scope", .list [])]])]

/-- The bytes of a value on a line. -/
def valueLine (value : JsonValue) : List UInt8 := (String.ofList value.render).toUTF8.data.toList

/-- A snapshot of older values, with a blank in front of its tag and a line that is not read. -/
def olderSnapshot : List UInt8 :=
  [32, 53] ++ 10 :: (valueLine olderCatalogValue ++ 10 :: (valueLine olderTablesValue ++ [10, 33]))

def olderCatalog : Catalog where
  paths := ["src", "1", "None"]
  files := .ofList [("b.go", ⟨"b.go", 3, "", 0⟩), ("a.py", ⟨"a.py", 0, "7", 0⟩)]

def olderTables : Table (List Record) :=
  .ofList [("calls", []), ("defs", [
    ⟨"defs", ["f"], "b.go", some 1, some (.text "f()"), some "func", some ["C"]⟩,
    ⟨"defs", ["g", "True"], "2", none, none, none, none⟩])]

theorem decode_olderSnapshot : decode olderSnapshot = .ok (.current olderCatalog olderTables) := by
  have hCatalogRereads : Rereads .unbounded olderCatalogValue := by
    simp [olderCatalogValue, Rereads, ItemsReread, FieldsReread, IntegerRange.unbounded]
  have hTablesRereads : Rereads .unbounded olderTablesValue := by
    simp [olderTablesValue, Rereads, ItemsReread, FieldsReread, IntegerRange.unbounded]
  have hCatalogLine : writeJson olderCatalogValue = .ok (valueLine olderCatalogValue) := if_pos rfl
  have hTablesLine : writeJson olderTablesValue = .ok (valueLine olderTablesValue) := if_pos rfl
  obtain ⟨hCatalogFeed, hCatalogRead⟩ := writeJson_line hCatalogRereads hCatalogLine
  obtain ⟨hTablesFeed, hTablesRead⟩ := writeJson_line hTablesRereads hTablesLine
  have hFilled := writeJson_object_isFilled hTablesLine
  have hTag : readTag [32, 53] = .ok 5 := rfl
  have hCatalog : Catalog.ofJson olderCatalogValue = .ok olderCatalog := rfl
  have hTables : readTables olderTablesValue = .ok olderTables := rfl
  rw [olderSnapshot, decode_append _ (by decide) hTag, if_neg (by decide), if_pos (by decide),
    decodeCurrent_eq, splitLine_append _ hCatalogFeed]
  simp only [splitLine_append [33] hTablesFeed, storedTables, hFilled, hCatalogRead, hTablesRead,
    hCatalog, hTables, ok_bind, Bool.false_eq_true, if_false]

/-- A snapshot with its files out of order is written in order, and is stable from then on. -/
theorem olderSnapshot_is_normalized :
    decode olderSnapshot = .ok (.current olderCatalog olderTables) ∧ LinesAreText olderTables ∧
      ∃ again files, encode olderCatalog olderTables = .ok again ∧
        decode again = .ok (.current { olderCatalog with files := files } olderTables) ∧
        files.entries.Perm olderCatalog.files.entries ∧ files.keys.Pairwise (· < ·) ∧
        encode { olderCatalog with files := files } olderTables = .ok again := by
  have hLines : LinesAreText olderTables := by decide
  have hFits : olderCatalog.FitsIn .word64 ∧ TablesStorable .word64 olderTables := by decide
  obtain ⟨again, hEncode⟩ := encode_succeeds hFits.1 hFits.2
  obtain ⟨files, hNormal⟩ := encode_decoded_is_normal decode_olderSnapshot hLines hEncode
  exact ⟨decode_olderSnapshot, hLines, again, files, hEncode, hNormal⟩

end Snapshot

end CodeIndex
