import CodeIndex.Proofs.StoredForm
import Mathlib.Data.List.TakeWhile

/-! A decoded snapshot is what was encoded. The three lines of a snapshot can be told apart because
no rendered value holds a line end, and each line is read back by itself. -/
namespace CodeIndex.Snapshot

open JsonValue

/-! Bytes of texts -/

/-- The bytes of a character that is no control are no line feeds. -/
theorem lineFeed_not_mem_utf8EncodeChar {c : Char} (hPrintable : 32 ≤ c.toNat) :
    (10 : UInt8) ∉ String.utf8EncodeChar c := by
  have hByte {n : Nat} (hn : n % 256 ≠ 10) : (10 : UInt8) ≠ UInt8.ofNat n := by
    intro hEq
    apply hn
    rw [← UInt8.toNat_ofNat', ← hEq]
    rfl
  have hValue : 32 ≤ c.val.toNat := hPrintable
  unfold String.utf8EncodeChar
  dsimp only
  split_ifs
  all_goals simp only [List.mem_cons, List.not_mem_nil, or_false, not_or]
  · exact hByte (by omega)
  · exact ⟨hByte (by omega), hByte (by omega)⟩
  · exact ⟨hByte (by omega), hByte (by omega), hByte (by omega)⟩
  · exact ⟨hByte (by omega), hByte (by omega), hByte (by omega), hByte (by omega)⟩

theorem utf8_ofList (chars : List Char) :
    (String.ofList chars).toUTF8.data.toList = chars.flatMap String.utf8EncodeChar := by
  rw [String.toUTF8_eq_toByteArray, String.toByteArray_ofList, List.utf8Encode,
    List.data_toByteArray]

/-- A text is read back from its bytes. -/
theorem fromUTF8?_utf8 (text : String) :
    String.fromUTF8? ⟨text.toUTF8.data.toList.toArray⟩ = some text := by
  have hBytes : (⟨text.toUTF8.data.toList.toArray⟩ : ByteArray) = text.toByteArray := by
    rw [Array.toArray_toList]
    rfl
  rw [hBytes, String.fromUTF8?, dif_pos text.isValidUTF8]
  rfl

/-! Lines -/

/-- A value is written on one line, and read back from it. That its integers fit is checked when it
is written. -/
theorem writeJson_line {value : JsonValue} {line : List UInt8} (hValue : Rereads .unbounded value)
    (hWrite : writeJson value = .ok line) : (10 : UInt8) ∉ line ∧ readJson line = .ok value := by
  rw [writeJson] at hWrite
  split_ifs at hWrite with hFits
  obtain rfl := Except.ok.inj hWrite
  have hValue : Rereads .word64 value := (rereads_word64_iff value).mpr ⟨hFits, hValue⟩
  constructor
  · rw [utf8_ofList, List.mem_flatMap]
    rintro ⟨c, hc, hByte⟩
    exact lineFeed_not_mem_utf8EncodeChar (printable_render value hValue c hc) hByte
  · rw [readJson, fromUTF8?_utf8]
    simp only [read?_render hValue]

/-- The first line ends at the first line feed. -/
theorem splitLine_append {line : List UInt8} (rest : List UInt8) (hLine : (10 : UInt8) ∉ line) :
    splitLine (line ++ 10 :: rest) = (line, rest) := by
  have hBefore : ∀ byte ∈ line, (decide (byte ≠ 10)) = true := by
    intro byte hByte
    rw [decide_eq_true_eq]
    rintro rfl
    exact hLine hByte
  rw [splitLine, List.takeWhile_append_of_pos hBefore, List.dropWhile_append_of_pos hBefore]
  simp

theorem stripBytes_isEmpty_eq_false {bytes : List UInt8} (byte : UInt8) (hByte : byte ∈ bytes)
    (hFilled : isBlankByte byte = false) : (stripBytes bytes).isEmpty = false := by
  rw [List.isEmpty_eq_false_iff]
  intro hEmpty
  rw [stripBytes, trim, trimEnd, List.reverse_eq_nil_iff, List.dropWhile_eq_nil_iff] at hEmpty
  -- what is left after the blanks in front starts with a byte that is not blank
  cases hRest : bytes.dropWhile isBlankByte with
  | nil =>
    have hBlank := List.dropWhile_eq_nil_iff.mp hRest byte hByte
    simp [hFilled] at hBlank
  | cons first rest =>
    have hFirst : isBlankByte first = false := by
      have hHead := List.head_dropWhile_not isBlankByte (by rw [hRest]; simp)
      simpa [hRest] using hHead
    have hBlank := hEmpty first (by simp [hRest])
    simp [hFirst] at hBlank

/-- The bytes of an object start with a brace, which is not blank. -/
theorem writeJson_object_isFilled {fields : List (String × JsonValue)} {line : List UInt8}
    (hWrite : writeJson (.object fields) = .ok line) : (stripBytes line).isEmpty = false := by
  rw [writeJson] at hWrite
  split_ifs at hWrite with hFits
  obtain rfl := Except.ok.inj hWrite
  refine stripBytes_isEmpty_eq_false 123 ?_ (by decide)
  rw [utf8_ofList, render, List.mem_flatMap]
  exact ⟨'\x7b', by simp, by decide⟩

/-- A snapshot is the tag and two lines of values, if both can be written. -/
theorem encode_eq_ok_iff {catalog : Catalog} {tables : Table (List Record)} {bytes : List UInt8} :
    encode catalog tables = .ok bytes ↔ ∃ catalogLine tablesLine,
      writeJson catalog.toJson = .ok catalogLine ∧ writeJson (tablesJson tables) = .ok tablesLine ∧
        bytes = [53] ++ 10 :: (catalogLine ++ 10 :: (tablesLine ++ [10])) := by
  have hTag : (toString format).toUTF8.data.toList = [53] := by decide
  rw [encode, hTag]
  cases hCatalog : writeJson catalog.toJson with
  | error failure => simp [bind, Except.bind]
  | ok catalogLine =>
    cases hTables : writeJson (tablesJson tables) with
    | error failure => simp [bind, Except.bind]
    | ok tablesLine =>
      simp [bind, Except.bind, pure, Except.pure, eq_comm]

/-- Whatever could be encoded is decoded again. Only the order of the files is changed. -/
theorem decode_of_encode {catalog : Catalog} {tables : Table (List Record)} {bytes : List UInt8}
    (hNamed : catalog.FilesNamed) (hTables : TablesStorable .unbounded tables)
    (hEncode : encode catalog tables = .ok bytes) :
    decode bytes = .ok (.current { catalog with files := catalog.files.inOrder } tables) := by
  obtain ⟨catalogLine, tablesLine, hCatalogLine, hTablesLine, rfl⟩ := encode_eq_ok_iff.mp hEncode
  have hCatalog : Rereads .unbounded catalog.toJson :=
    (Catalog.fitsIn_unbounded catalog).rereads_toJson
  obtain ⟨hCatalogFeed, hCatalogRead⟩ := writeJson_line hCatalog hCatalogLine
  obtain ⟨hTablesFeed, hTablesRead⟩ := writeJson_line (rereads_tablesJson hTables) hTablesLine
  have hFilled := writeJson_object_isFilled hTablesLine
  have hTag : readTag [53] = .ok 5 := rfl
  have hBody : decodeCurrent (catalogLine ++ 10 :: (tablesLine ++ [10])) =
      .ok (.current { catalog with files := catalog.files.inOrder } tables) := by
    rw [decodeCurrent, splitLine_append _ hCatalogFeed]
    simp only [splitLine_append [] hTablesFeed, hCatalogRead, hTablesRead, ok_bind,
      Catalog.ofJson_toJson hNamed, readTables_tablesJson hTables, hFilled]
    rfl
  rw [decode, splitLine_append _ (by decide)]
  simp only [hTag, ok_bind]
  exact hBody

/-- Numbers that fit into words can always be encoded. -/
theorem encode_succeeds {catalog : Catalog} {tables : Table (List Record)}
    (hCatalog : catalog.FitsIn .word64) (hTables : TablesStorable .word64 tables) :
    ∃ bytes, encode catalog tables = .ok bytes := by
  have hCatalogFits := ((rereads_word64_iff _).mp hCatalog.rereads_toJson).1
  have hTablesFits := ((rereads_word64_iff _).mp (rereads_tablesJson hTables)).1
  exact ⟨_, encode_eq_ok_iff.mpr ⟨_, _, if_pos hCatalogFits, if_pos hTablesFits, rfl⟩⟩

/-- A snapshot of numbers that fit into words, with every file and record in its own place, is
decoded to the same tables and to the same catalog with its files in ascending order. -/
theorem decode_encode_inOrder {catalog : Catalog} {tables : Table (List Record)}
    (hNamed : catalog.FilesNamed) (hCatalog : catalog.FitsIn .word64)
    (hTables : TablesStorable .word64 tables) :
    ∃ bytes files, encode catalog tables = .ok bytes ∧
      decode bytes = .ok (.current { catalog with files := files } tables) ∧
      files.entries.Perm catalog.files.entries ∧ files.keys.Pairwise (· < ·) := by
  obtain ⟨bytes, hEncode⟩ := encode_succeeds hCatalog hTables
  have hDecode := decode_of_encode hNamed hTables.unbounded hEncode
  exact ⟨bytes, catalog.files.inOrder, hEncode, hDecode, catalog.files.sorted_perm,
    catalog.files.inOrder_keys_ascend⟩

/-- A catalog whose files are not in order, with the greatest and the least number that fits. -/
def unorderedCatalog : Catalog where
  paths := ["src", "a\nb"]
  excludes := ["*.\t\"\\"]
  files := .ofList [("b.go", ⟨"b.go", 18446744073709551615, "go", 1⟩),
    ("a.py", ⟨"a.py", 0, "", -9223372036854775808⟩)]
  extractorVersions := .ofList [("go", 1), ("", -1)]

/-- Two tables, the second one without records. The first record has every part, the other one none
that it can do without. -/
def unorderedTables : Table (List Record) :=
  .ofList [("defs", [⟨"defs", ["é", ""], "b.go", some (-1), some (.text "\x07\r\n\"x\\"), some "",
      some [""]⟩, ⟨"defs", [], "b.go", none, none, none, none⟩]), ("", [])]

theorem unordered_decode_encode :
    ∃ bytes files, encode unorderedCatalog unorderedTables = .ok bytes ∧
      decode bytes = .ok (.current { unorderedCatalog with files := files } unorderedTables) ∧
      files.entries.Perm unorderedCatalog.files.entries ∧ files.keys.Pairwise (· < ·) :=
  decode_encode_inOrder (by decide) (by decide) (by decide)

end CodeIndex.Snapshot
