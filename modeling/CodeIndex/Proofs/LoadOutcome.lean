import CodeIndex.Database.Storage
import CodeIndex.Proofs.SnapshotNormalForm
import Mathlib.Data.Nat.Digits.Defs

/-! What loading a snapshot does to a database. A snapshot is decoded as a whole before anything is
replaced, and its format is unknown only if its tag says so: whatever goes wrong after the tag is
another failure. -/
namespace CodeIndex

open JsonValue

variable {α β : Type}

/-- Whether a failure says that the format of a snapshot is unknown. -/
def Failure.isUnknownFormat : Failure → Bool
  | .unreadableFormat _ | .newerFormat _ => true
  | _ => false

/-- Whether an action that fails does so for another reason than an unknown format. -/
def NeverUnknown (action : Except Failure α) : Prop :=
  ∀ failure, action = .error failure → failure.isUnknownFormat = false

namespace NeverUnknown

theorem ok (value : α) : NeverUnknown (.ok value) := nofun

/-- A failure of another kind is none of an unknown format. -/
theorem error {failure : Failure} (hOther : failure.isUnknownFormat = false) :
    NeverUnknown (.error failure : Except Failure α) := by
  rintro _ ⟨⟩
  exact hOther

/-- Steps that never fail in this way do not do so in turn. -/
theorem bind {first : Except Failure α} {next : α → Except Failure β}
    (hFirst : NeverUnknown first) (hNext : ∀ value, NeverUnknown (next value)) :
    NeverUnknown (first >>= next) := by
  cases first with
  | error failure => exact error (hFirst failure rfl)
  | ok value => exact hNext value

theorem mapM {f : α → Except Failure β} (hItem : ∀ item, NeverUnknown (f item))
    (items : List α) : NeverUnknown (items.mapM f) := by
  induction items with
  | nil => exact ok []
  | cons item items ih =>
    rw [List.mapM_cons]
    exact (hItem item).bind fun _ => ih.bind fun _ => ok _

end NeverUnknown

/-! Every failure after the tag is another one. -/

theorem JsonValue.neverUnknown_fields (value : JsonValue) : NeverUnknown value.fields := by
  cases value with
  | object fields => exact .ok fields
  | _ => exact .error rfl

theorem JsonValue.neverUnknown_items (value : JsonValue) : NeverUnknown value.items := by
  cases value with
  | list | text | object => exact .ok _
  | _ => exact .error rfl

/-- A value that is no integer is no sign of an unknown format. -/
theorem JsonValue.neverUnknown_toInteger (value : JsonValue) : NeverUnknown value.toInteger := by
  unfold toInteger
  split
  · exact .ok _
  · exact .ok _
  · split
    · exact .ok _
    · split <;> exact .error rfl
  · split
    · exact .ok _
    · exact .error rfl
  · exact .error rfl

/-- A record that cannot be read is no sign of an unknown format. -/
theorem Record.neverUnknown_ofJson (table : String) (value : JsonValue) :
    NeverUnknown (ofJson table value) := by
  rw [ofJson]
  refine value.neverUnknown_fields.bind fun fields => ?_
  split
  case h_2 => exact .error rfl
  split
  case h_2 => exact .error rfl
  cases present? "line_no" fields with
  | none => exact .ok _
  | some lineNo => exact (lineNo.neverUnknown_toInteger.bind fun _ => .ok _).bind fun _ => .ok _

theorem TrackedFile.neverUnknown_ofJson (path : String) (value : JsonValue) :
    NeverUnknown (ofJson path value) :=
  value.neverUnknown_fields.bind fun _ => (neverUnknown_toInteger _).bind fun _ =>
    (neverUnknown_toInteger _).bind fun _ => .ok _

theorem Catalog.neverUnknown_ofJson (value : JsonValue) : NeverUnknown (ofJson value) := by
  refine value.neverUnknown_fields.bind fun fields => ?_
  refine (neverUnknown_items _).bind fun paths => (neverUnknown_items _).bind fun excludes => ?_
  refine (neverUnknown_fields _).bind fun stored => NeverUnknown.bind (.mapM ?_ _) fun files => ?_
  · exact fun (path, file) => (TrackedFile.neverUnknown_ofJson path file).bind fun _ => .ok _
  refine (neverUnknown_fields _).bind fun stored => NeverUnknown.bind (.mapM ?_ _) fun numbers => ?_
  · exact fun (name, version) => version.neverUnknown_toInteger.bind fun _ => .ok _
  exact .ok _

namespace Snapshot

theorem neverUnknown_readJson (bytes : List UInt8) : NeverUnknown (readJson bytes) := by
  rw [readJson]
  split
  · exact .error rfl
  · split
    · exact .ok _
    · exact .error rfl

theorem neverUnknown_readTables (value : JsonValue) : NeverUnknown (readTables value) := by
  refine value.neverUnknown_fields.bind fun fields => NeverUnknown.bind (.mapM ?_ _) fun _ => .ok _
  exact fun (table, entries) => entries.neverUnknown_items.bind fun items =>
    (NeverUnknown.mapM (Record.neverUnknown_ofJson table) items).bind fun _ => .ok _

/-- Content of the present format fails in other ways only. -/
theorem neverUnknown_decodeCurrent (rest : List UInt8) : NeverUnknown (decodeCurrent rest) := by
  rw [decodeCurrent_eq]
  refine (neverUnknown_readJson _).bind fun value =>
    (Catalog.neverUnknown_ofJson value).bind fun catalog => NeverUnknown.bind ?_ fun tables => .ok _
  rw [storedTables]
  split
  · exact .ok _
  · exact (neverUnknown_readJson _).bind neverUnknown_readTables

/-- Content of an older format fails in other ways only. -/
theorem neverUnknown_decodeLegacy (tag : Nat) (rest : List UInt8) :
    NeverUnknown (decodeLegacy tag rest) := by
  rw [decodeLegacy_eq]
  refine NeverUnknown.bind ?_ fun value => value.neverUnknown_items.bind fun items => .ok _
  rw [legacyValue]
  split
  · split
    · exact neverUnknown_readJson _
    · exact .error rfl
  · exact neverUnknown_readJson _

/-! The tag -/

/-- Whether bytes are ASCII digits, at least one of them. -/
def IsNumeral (bytes : List UInt8) : Prop :=
  bytes ≠ [] ∧ ∀ byte ∈ bytes, 48 ≤ byte.toNat ∧ byte.toNat ≤ 57

instance (bytes : List UInt8) : Decidable (IsNumeral bytes) :=
  inferInstanceAs (Decidable (_ ∧ _))

/-- The number that ASCII digits denote. -/
def numeralValue (bytes : List UInt8) : Nat :=
  Nat.ofDigits 10 (bytes.map fun byte => byte.toNat - 48).reverse

/-- The character that stands for a byte. -/
def asciiChar (byte : UInt8) : Char :=
  if byte < 128 then Char.ofNat byte.toNat else '\ufffd'

theorem toNat_asciiChar {byte : UInt8} (hAscii : byte.toNat < 128) :
    (asciiChar byte).toNat = byte.toNat := by
  have hValid : byte.toNat.isValidChar := .inl (by omega)
  rw [asciiChar, if_pos (UInt8.lt_iff_toNat_lt.mpr hAscii), Char.ofNat, dif_pos hValid]
  rfl

/-- The bytes that are read as digits are those of the ASCII digits. -/
theorem isDigit_asciiChar (byte : UInt8) :
    (asciiChar byte).isDigit = true ↔ 48 ≤ byte.toNat ∧ byte.toNat ≤ 57 := by
  by_cases hAscii : byte.toNat < 128
  · rw [Char.isDigit_iff_toNat, toNat_asciiChar hAscii]
    rfl
  · rw [asciiChar, if_neg fun hLt => hAscii (UInt8.lt_iff_toNat_lt.mp hLt)]
    have hReplacement : '\ufffd'.isDigit = false := by decide
    simp only [hReplacement, Bool.false_eq_true, false_iff]
    omega

/-- Such a byte has the value of its digit. -/
theorem decimalValue?_asciiChar {byte : UInt8} (hDigit : 48 ≤ byte.toNat ∧ byte.toNat ≤ 57) :
    decimalValue? (asciiChar byte) = some (byte.toNat - 48) := by
  have hCode : (asciiChar byte).toNat = byte.toNat := toNat_asciiChar (by omega)
  rw [decimalValue?, if_pos (by omega), if_pos ((isDigit_asciiChar byte).mpr hDigit), hCode]
  rfl

/-- Digits are read one by one. There is no underscore between them. -/
theorem digits?_asciiText {bytes : List UInt8} (hNumeral : IsNumeral bytes) :
    IntegerText.digits? (asciiText bytes) = some (bytes.map fun byte => byte.toNat - 48) := by
  obtain ⟨hNe, hDigits⟩ := hNumeral
  induction bytes with
  | nil => exact absurd rfl hNe
  | cons first rest ih =>
    obtain ⟨hFirst, hRest⟩ := List.forall_mem_cons.mp hDigits
    have hValue := decimalValue?_asciiChar hFirst
    cases rest with
    | nil => exact congrArg (Option.map _) hValue
    | cons second rest =>
      -- an underscore in the second place would be passed over
      have hSecond : asciiChar second ≠ '_' := by
        intro hSame
        have hDigit := (isDigit_asciiChar second).mpr (hRest second List.mem_cons_self)
        rw [hSame] at hDigit
        exact absurd hDigit (by decide)
      have hText : asciiText (first :: second :: rest) =
        asciiChar first :: asciiText (second :: rest) := rfl
      rw [hText, IntegerText.digits?.eq_4 _ _ ?_ ?_, hValue, ih (by simp) hRest]
      · rfl
      · simp [asciiText]
      · rintro others hOthers
        exact hSecond (List.cons.inj hOthers).1

/-- The value of a numeral is built up digit by digit. -/
theorem numeralValue_eq_foldl (bytes : List UInt8) :
    numeralValue bytes =
      (bytes.map fun byte => byte.toNat - 48).foldl (fun n d => n * 10 + d) 0 := by
  rw [numeralValue, Nat.ofDigits_eq_foldr, List.foldr_reverse]
  congr
  funext n d
  simp [Nat.add_comm, Nat.mul_comm]

/-- A numeral is read as its value, unless it is too long. -/
theorem magnitude?_asciiText {bytes : List UInt8} (hNumeral : IsNumeral bytes) :
    IntegerText.magnitude? (asciiText bytes) =
      if bytes.length ≤ 4300 then some (numeralValue bytes) else none := by
  rw [IntegerText.magnitude?, digits?_asciiText hNumeral, numeralValue_eq_foldl]
  simp only [Option.bind_eq_bind, Option.bind_some, List.length_map]
  rfl

/-- A tag is a numeral exactly if it passes the test of the reader. -/
theorem isNumeral_iff (bytes : List UInt8) :
    IsNumeral bytes ↔
      ((asciiText bytes).isEmpty || !(asciiText bytes).all Char.isDigit) = false := by
  have hChars : (asciiText bytes).all Char.isDigit = true ↔
      ∀ byte ∈ bytes, 48 ≤ byte.toNat ∧ byte.toNat ≤ 57 := by
    simp only [← isDigit_asciiChar, asciiText, asciiChar, List.all_map, List.all_eq_true,
      Function.comp_apply]
  simp [IsNumeral, ← hChars, asciiText]

/-- A tag is read as the number that it denotes. -/
theorem readTag_eq (line : List UInt8) :
    readTag line =
      if IsNumeral (stripBytes line) then
        if (stripBytes line).length ≤ 4300 then .ok (numeralValue (stripBytes line))
        else .error .malformedInteger
      else .error (.unreadableFormat (String.ofList (asciiText (stripBytes line)))) := by
  rw [readTag]
  by_cases hNumeral : IsNumeral (stripBytes line)
  · simp only [(isNumeral_iff _).mp hNumeral, magnitude?_asciiText hNumeral, hNumeral,
      Bool.false_eq_true, if_false, if_true]
    split_ifs <;> rfl
  · have hOther := mt (isNumeral_iff _).mpr hNumeral
    rw [if_neg hNumeral, if_pos ((Bool.not_eq_false _).mp hOther)]

/-- The tag of a snapshot: its first line without the blanks around. -/
def tagBytes (bytes : List UInt8) : List UInt8 := stripBytes (splitLine bytes).1

/-- Decodes what follows the tag of a known format. -/
def decodeContent (tag : Nat) (rest : List UInt8) : Except Failure Snapshot :=
  if tag = 5 then decodeCurrent rest else decodeLegacy tag rest

/-- Once the tag is known the content fails in other ways only. -/
theorem neverUnknown_decodeContent (tag : Nat) (rest : List UInt8) :
    NeverUnknown (decodeContent tag rest) := by
  rw [decodeContent]
  split
  · exact neverUnknown_decodeCurrent rest
  · exact neverUnknown_decodeLegacy tag rest

/-- The tag alone decides which snapshots are refused before their content is looked at. -/
theorem decode_eq (bytes : List UInt8) :
    decode bytes =
      if IsNumeral (tagBytes bytes) then
        if (tagBytes bytes).length ≤ 4300 then
          if 5 < numeralValue (tagBytes bytes) then
            .error (.newerFormat (numeralValue (tagBytes bytes)))
          else decodeContent (numeralValue (tagBytes bytes)) (splitLine bytes).2
        else .error .malformedInteger
      else .error (.unreadableFormat (String.ofList (asciiText (tagBytes bytes)))) := by
  change (readTag (splitLine bytes).1 >>= fun tag => if 5 < tag then .error (.newerFormat tag)
    else decodeContent tag (splitLine bytes).2) = _
  rw [readTag_eq, ← tagBytes]
  split_ifs with hNumeral hShort hNewer
  · rw [ok_bind, if_pos hNewer]
  · rw [ok_bind, if_neg hNewer]
  · rfl
  · rfl

/-- The format of a snapshot is unknown exactly if its tag is no numeral or denotes a number above
the present format. Numerals beyond the digit limit are not read at all. -/
theorem decode_isUnknownFormat_iff (bytes : List UInt8) :
    (∃ failure, decode bytes = .error failure ∧ failure.isUnknownFormat = true) ↔
      ¬IsNumeral (tagBytes bytes) ∨
        ((tagBytes bytes).length ≤ 4300 ∧ 5 < numeralValue (tagBytes bytes)) := by
  have hKnown {action : Except Failure Snapshot} (hAction : NeverUnknown action) :
      ¬∃ failure, action = .error failure ∧ failure.isUnknownFormat = true := by
    rintro ⟨failure, hFailure, hUnknown⟩
    simp [hAction failure hFailure] at hUnknown
  -- one case for each answer that the tag can lead to
  rw [decode_eq]
  split_ifs with hNumeral hShort hNewer
  · exact iff_of_true ⟨_, rfl, rfl⟩ (.inr ⟨hShort, hNewer⟩)
  · exact iff_of_false (hKnown (neverUnknown_decodeContent _ _)) (by simp [hNumeral, hNewer])
  · exact iff_of_false (hKnown (.error rfl)) (by simp [hNumeral, hShort])
  · exact iff_of_true ⟨_, rfl, rfl⟩ (.inl hNumeral)

end Snapshot

namespace Database

variable {extractors : List Extractor} {tree : FileTree} {path : String} {bytes : List UInt8}

open Snapshot

/-- Loading is all or nothing. If the bytes of a snapshot cannot be decoded the database stays as it
is; otherwise nothing of it is left, and the new one is the decoded one, or a new one with the
decoded root paths for an older format. That the format is unknown can be told from the tag. -/
theorem load_all_or_nothing (hBytes : tree.read path >>= Gzip.unpack = .ok bytes)
    (database : Database) :
    (∀ failure, decode bytes = .error failure →
      load extractors tree database path = ⟨database, [], .error failure⟩) ∧
    (∀ catalog tables, decode bytes = .ok (.current catalog tables) →
      load extractors tree database path = ⟨⟨catalog, tables⟩, [], .ok ()⟩) ∧
    (∀ tag paths, decode bytes = .ok (.legacy tag paths) →
      load extractors tree database path =
        let rebuilt := addPaths extractors tree {} paths
        ⟨rebuilt.database, rebuilt.reported, rebuilt.result.map fun _ => ()⟩) ∧
    ((∃ failure, decode bytes = .error failure ∧ failure.isUnknownFormat = true) ↔
      ¬IsNumeral (tagBytes bytes) ∨
        ((tagBytes bytes).length ≤ 4300 ∧ 5 < numeralValue (tagBytes bytes))) := by
  refine ⟨?_, ?_, ?_, decode_isUnknownFormat_iff bytes⟩
  · intro failure hDecode
    rw [load, hBytes, ok_bind, hDecode]
  · intro catalog tables hDecode
    rw [load, hBytes, ok_bind, hDecode]
    rfl
  · intro tag paths hDecode
    rw [load, hBytes, ok_bind, hDecode]
    rfl

/-- A snapshot of format four with one root path. -/
def legacyBytes : List UInt8 := [52] ++ 10 :: ([91, 34, 97, 46, 103, 111, 34, 93] ++ [10])

/-- A snapshot of an older format is read with its root paths. -/
theorem decode_legacyBytes : decode legacyBytes = .ok (.legacy 4 ["a.go"]) := by
  have hLine : valueLine (.list [.text "a.go"]) = [91, 34, 97, 46, 103, 111, 34, 93] := by decide
  have hWrite : writeJson (.list [.text "a.go"]) = .ok [91, 34, 97, 46, 103, 111, 34, 93] := by
    rw [← hLine]
    exact if_pos rfl
  have hRead := (writeJson_line (by simp [Rereads, ItemsReread]) hWrite).2
  rw [legacyBytes, decode_append _ (by decide) (rfl : readTag [52] = .ok 4), if_neg (by decide),
    if_neg (by decide), decodeLegacy_eq, legacyValue, if_neg (by decide),
    splitLine_append _ (by decide), hRead]
  rfl

/-- A source file, a snapshot of format four and one of format ten. -/
def snapshotTree : FileTree where
  entries := [(["a.go"], .file (Utf8.encode "func f() \x7b\n") 1000),
    (["old"], .file (Gzip.pack legacyBytes) 1000), (["new"], .file (Gzip.pack [49, 48, 32]) 1000)]

/-- A database of which nothing is in the tree. -/
def vanishedDatabase : Database where
  catalog := {
    paths := ["gone"]
    excludes := ["*"]
    files := .ofList [("gone/b.py", ⟨"gone/b.py", 1, "python", 1⟩)] }
  tables := .ofList [("defs", [⟨"defs", ["b"], "gone/b.py", some 1, none, none, none⟩])]

/-- A snapshot of an older format is loaded by scanning its root paths again, and one of a newer
format leaves the database as it is. -/
theorem snapshotTree_load :
    snapshotTree.read "old" >>= Gzip.unpack = .ok legacyBytes ∧
    snapshotTree.read "new" >>= Gzip.unpack = .ok [49, 48, 32] ∧
    (load [.go] snapshotTree vanishedDatabase "old").database =
      (addPaths [.go] snapshotTree {} ["a.go"]).database ∧
    (addPaths [.go] snapshotTree {} ["a.go"]).database.catalog.files.keys = ["a.go"] ∧
    (load [.go] snapshotTree vanishedDatabase "new").database = vanishedDatabase := by
  have hOld : snapshotTree.read "old" >>= Gzip.unpack = .ok legacyBytes := by decide +kernel
  have hNew : snapshotTree.read "new" >>= Gzip.unpack = .ok [49, 48, 32] := by decide +kernel
  refine ⟨hOld, hNew, ?_, by decide, ?_⟩
  · obtain ⟨-, -, hLegacy, -⟩ := @load_all_or_nothing [.go] _ _ _ hOld vanishedDatabase
    rw [hLegacy 4 ["a.go"] decode_legacyBytes]
  · obtain ⟨hFailed, -, -, hUnknown⟩ := @load_all_or_nothing [.go] _ _ _ hNew vanishedDatabase
    obtain ⟨failure, hDecode, -⟩ := hUnknown.mpr (.inr ⟨by decide, by decide⟩)
    rw [hFailed failure hDecode]

end Database

end CodeIndex
