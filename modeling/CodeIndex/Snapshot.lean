import CodeIndex.Catalog
import CodeIndex.Json.Printer
import CodeIndex.Json.Reader

namespace CodeIndex

/-- The content of a decoded snapshot. The formats before the present one keep the root paths
only. -/
inductive Snapshot where
  | current (catalog : Catalog) (tables : Table (List Record))
  | legacy (format : Nat) (paths : List String)

namespace Snapshot

/-- The present format. -/
def format : Nat := 5

/-- The bytes before the first line end, and the bytes after it. -/
def splitLine (bytes : List UInt8) : List UInt8 × List UInt8 :=
  (bytes.takeWhile (· ≠ 10), (bytes.dropWhile (· ≠ 10)).drop 1)

/-- Leaves out the blank bytes on both sides. -/
def stripBytes (bytes : List UInt8) : List UInt8 := trim isBlankByte bytes

/-- The ASCII characters of bytes. Every other byte becomes the replacement character. -/
def asciiText (bytes : List UInt8) : List Char :=
  bytes.map fun b => if b < 128 then Char.ofNat b.toNat else '\ufffd'

/-- Reads the format tag. It is a number written in ASCII digits, with blanks around it. -/
def readTag (line : List UInt8) : Except Failure Nat :=
  let text := asciiText (stripBytes line)
  if text.isEmpty || !text.all Char.isDigit then .error (.unreadableFormat (String.ofList text))
  else match IntegerText.magnitude? text with
    | some tag => .ok tag
    | none => .error .malformedInteger

/-- Reads a JSON value from UTF-8 bytes. Integers beyond 64 bits become floating-point numbers. -/
def readJson (bytes : List UInt8) : Except Failure JsonValue :=
  match String.fromUTF8? ⟨bytes.toArray⟩ with
  | none => .error .malformedJson
  | some text =>
    match JsonValue.read? .word64 text with
    | some value => .ok value
    | none => .error .malformedJson

/-- The first `length` bytes; a negative length leaves out as many bytes at the end. -/
def prefixOf (bytes : List UInt8) (length : Int) : List UInt8 :=
  if 0 ≤ length then bytes.take length.toNat else bytes.take (bytes.length - (-length).toNat)

/-- Reads the tables of the present format. -/
def readTables (value : JsonValue) : Except Failure (Table (List Record)) := do
  let fields ← value.fields
  let tables ← fields.mapM fun (table, entries) => do
    let entries ← entries.items
    return (table, ← entries.mapM (Record.ofJson table))
  return Table.ofList tables

/-- Reads the content after the tag line of the present format: a line with the catalog and a line
with the tables, which may be blank. -/
def decodeCurrent (rest : List UInt8) : Except Failure Snapshot := do
  let (catalogLine, rest) := splitLine rest
  let (tablesLine, _) := splitLine rest
  let catalog ← Catalog.ofJson (← readJson catalogLine)
  let tables ← if (stripBytes tablesLine).isEmpty then pure ∅
    else readTables (← readJson tablesLine)
  return .current catalog tables

/-- Reads the root paths of an older format. Up to format two they follow a line with their length
in bytes, later they are a line of their own. -/
def decodeLegacy (tag : Nat) (rest : List UInt8) : Except Failure Snapshot := do
  let value ←
    if tag ≤ 2 then
      let (lengthLine, rest) := splitLine rest
      match IntegerText.read? (asciiText (stripBytes lengthLine)) with
      | some length => readJson (prefixOf rest length)
      | none => .error .malformedInteger
    else readJson (splitLine rest).1
  return .legacy tag ((← value.items).map JsonValue.display)

/-- Decodes a snapshot. A tag above the present format is refused before the rest is looked at. -/
def decode (bytes : List UInt8) : Except Failure Snapshot := do
  let (tagLine, rest) := splitLine bytes
  let tag ← readTag tagLine
  if format < tag then .error (.newerFormat tag)
  else if tag = format then decodeCurrent rest
  else decodeLegacy tag rest

/-- The stored form of the tables. -/
def tablesJson (tables : Table (List Record)) : JsonValue :=
  .object (tables.entries.map fun (table, records) => (table, .list (records.map Record.toJson)))

/-- The bytes of a compact JSON text. Integers beyond 64 bits are refused. -/
def writeJson (value : JsonValue) : Except Failure (List UInt8) :=
  if value.fitsWord64 then .ok (String.ofList value.render).toUTF8.data.toList
  else .error .integerTooWide

/-- Encodes a database in the present format: the tag, the catalog and the tables, each on a line
of its own. -/
def encode (catalog : Catalog) (tables : Table (List Record)) : Except Failure (List UInt8) := do
  let tag := (toString format).toUTF8.data.toList
  let catalog ← writeJson catalog.toJson
  let tables ← writeJson (tablesJson tables)
  return tag ++ [10] ++ catalog ++ [10] ++ tables ++ [10]

end Snapshot

end CodeIndex
