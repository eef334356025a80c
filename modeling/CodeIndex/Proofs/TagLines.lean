import CodeIndex.Export.Tags
import CodeIndex.Proofs.PhysicalLines
import CodeIndex.Proofs.ScanHistory
import Mathlib.Data.List.Basic

/-! A tag file can be read back. The source line stands in a tag unescaped, but the fields before it
hold no tabulators and what follows it has a fixed length, so that each line has one reading. -/
namespace CodeIndex.Tags

/-! The fields of a line -/

/-- The text before the first separator and the text after it. -/
def cut? (separator : Char) : List Char → Option (List Char × List Char)
  | [] => none
  | c :: rest =>
    if c = separator then some ([], rest)
    else (cut? separator rest).map fun (first, after) => (c :: first, after)

/-- A text is cut at its first separator. -/
theorem cut?_eq_some_iff {separator : Char} {text first rest : List Char} :
    cut? separator text = some (first, rest) ↔
      text = first ++ separator :: rest ∧ separator ∉ first := by
  induction text generalizing first with
  | nil => simp [cut?]
  | cons c text ih =>
    rw [cut?]
    split_ifs with hSeparator
    · cases first with
      | nil => simp [hSeparator, eq_comm]
      | cons d first => simp +contextual [hSeparator]
    · cases first with
      | nil => simp [hSeparator]
      | cons d first =>
        rw [Option.map_eq_some_iff]
        constructor
        · rintro ⟨⟨start, after⟩, hCut, hSame⟩
          obtain ⟨⟨rfl, rfl⟩, rfl⟩ : (c = d ∧ start = first) ∧ after = rest := by simpa using hSame
          obtain ⟨rfl, hStart⟩ := ih.mp hCut
          exact ⟨rfl, by simpa [Ne.symm hSeparator] using hStart⟩
        · rintro ⟨hText, hFirst⟩
          obtain ⟨rfl, rfl⟩ := List.cons.inj hText
          rw [List.mem_cons, not_or] at hFirst
          exact ⟨(first, rest), ih.mpr ⟨rfl, hFirst.2⟩, rfl⟩

/-- What one line of a tag file says. -/
structure Entry where
  name : List Char
  file : List Char
  source : List Char
  kind : Char
  deriving DecidableEq, Repr

namespace Entry

/-- What stands before the source line. -/
def opening : List Char := ['/', '^']

/-- What stands between the source line and the kind. -/
def closing : List Char := ['$', '/', ';', '"', '\t', 'k', 'i', 'n', 'd', ':']

/-- The line that says it. -/
def line (entry : Entry) : List Char :=
  entry.name ++ '\t' :: (entry.file ++ '\t' :: (opening ++ entry.source ++ closing ++ [entry.kind]))

/-- The name and the file hold no tabulators. -/
def IsSeparable (entry : Entry) : Prop := '\t' ∉ entry.name ∧ '\t' ∉ entry.file

end Entry

/-- Reads a line from both sides: the name and the file from its start, the kind and what stands
before it from its end. What is left is the source line. -/
def readLine? (line : List Char) : Option Entry := do
  let (name, rest) ← cut? '\t' line
  let (file, rest) ← cut? '\t' rest
  let kind ← rest.getLast?
  let rest ← rest.dropLast.dropPrefix? Entry.opening
  let source ← rest.dropSuffix? Entry.closing
  return ⟨name, file, source, kind⟩

/-- Every line has at most one reading, and it is found. -/
theorem readLine?_eq_some_iff {line : List Char} {entry : Entry} :
    readLine? line = some entry ↔ line = entry.line ∧ entry.IsSeparable := by
  simp only [readLine?, Option.bind_eq_bind, Option.bind_eq_some_iff, Prod.exists,
    cut?_eq_some_iff, List.dropPrefix?_eq_some_iff, List.dropSuffix?_eq_some_iff, beq_iff_eq,
    Option.pure_def, Option.some.injEq]
  constructor
  · rintro ⟨name, rest, ⟨rfl, hName⟩, file, rest, ⟨rfl, hFile⟩, kind, hKind, inner,
      ⟨opening, hOpening, rfl⟩, source, ⟨closing, rfl, rfl⟩, rfl⟩
    refine ⟨?_, hName, hFile⟩
    have hRest : rest = rest.dropLast ++ [kind] := (List.dropLast_append_getLast? kind hKind).symm
    rw [hRest, hOpening]
    simp [Entry.line]
  · rintro ⟨rfl, hName, hFile⟩
    refine ⟨_, _, ⟨rfl, hName⟩, _, _, ⟨rfl, hFile⟩, entry.kind, by simp, _, ⟨_, ?_, rfl⟩,
      entry.source, ⟨_, rfl, rfl⟩, rfl⟩
    simp

/-- A line is read back as the entry that it was written from, if its name and its file hold no tab.
-/
theorem readLine?_line {entry : Entry} (hEntry : entry.IsSeparable) :
    readLine? entry.line = some entry :=
  readLine?_eq_some_iff.mpr ⟨rfl, hEntry⟩

/-- If each line is read as the entry of an item, the entries that are found are those of the items.
-/
theorem filterMap_readLine?_of_map {α : Type} {lines : List (List Char)} {items : List α}
    {entry : α → Entry} (hRead : lines.map readLine? = items.map fun item => some (entry item)) :
    lines.filterMap readLine? = items.map entry := by
  have hEntries := congrArg (List.filterMap id) hRead
  rw [List.filterMap_map, List.filterMap_map] at hEntries
  exact hEntries.trans (congrFun List.filterMap_eq_map items)

/-! The lines of definitions -/

/-- The character of a kind of definition. -/
def kindChar (kind : Option String) : Char := (kindLetter kind).toList.headD 'v'

theorem toList_kindLetter (kind : Option String) : (kindLetter kind).toList = [kindChar kind] := by
  unfold kindChar kindLetter
  split <;> decide

/-- What the line of a definition says. -/
def entryOf (record : Record) : Entry :=
  ⟨record.lastSegment.toList, record.file.toList, (sourceLine record).toList, kindChar record.kind⟩

variable {record : Record} {records : List Record}

/-- The line of a named definition is that of its entry. -/
theorem line_eq (hName : record.name ≠ []) :
    line record = .ok (String.ofList (entryOf record).line) := by
  rw [line, Record.shortName_eq hName]
  refine congrArg Except.ok (String.toList_inj.mp ?_)
  simp [Entry.line, entryOf, toList_kindLetter, Entry.opening, Entry.closing]

/-- A definition whose line can be read back: neither the short name nor the file holds tabulators
or line feeds, and the source line no line feeds. -/
structure IsTaggable (record : Record) : Prop where
  name : '\t' ∉ record.lastSegment.toList ∧ '\n' ∉ record.lastSegment.toList
  file : '\t' ∉ record.file.toList ∧ '\n' ∉ record.file.toList
  source : '\n' ∉ (sourceLine record).toList

theorem IsTaggable.isSeparable (hRecord : IsTaggable record) : (entryOf record).IsSeparable :=
  ⟨hRecord.name.1, hRecord.file.1⟩

theorem lineFeed_ne_kindChar (kind : Option String) : '\n' ≠ kindChar kind := by
  unfold kindChar kindLetter
  split <;> decide

/-- The line of a definition that can be tagged is one line. -/
theorem IsTaggable.lineFeed_not_mem (hRecord : IsTaggable record) :
    '\n' ∉ (entryOf record).line := by
  simp [Entry.line, entryOf, Entry.opening, Entry.closing, hRecord.name.2, hRecord.file.2,
    hRecord.source, lineFeed_ne_kindChar]

/-! The order of the lines -/

/-- What definitions are ordered by. -/
def keyOf (record : Record) : Record.SortKey :=
  ⟨record.lastSegment, record.file, record.lineNo.getD 0⟩

/-- The definitions in the order of their keys. -/
def ordered (records : List Record) : List Record :=
  records.mergeSort fun a b => (keyOf a).le (keyOf b)

/-- Named definitions are put in the order of their keys. -/
theorem sortByKey_sortKey (hNames : ∀ record ∈ records, record.name ≠ []) :
    Record.sortByKey sortKey records = .ok (ordered records) := by
  apply Record.sortByKey_eq
  intro record hRecord
  rw [sortKey, Record.shortName_eq (hNames record hRecord)]
  rfl

theorem ordered_perm (records : List Record) : (ordered records).Perm records :=
  List.mergeSort_perm _ _

/-- Definitions in order have keys in order. -/
theorem ordered_pairwise (records : List Record) :
    (ordered records).Pairwise fun a b => (keyOf a).le (keyOf b) = true :=
  List.pairwise_mergeSort (fun a b c => Record.SortKey.le_trans (keyOf a) (keyOf b) (keyOf c))
    (fun a b => Record.SortKey.le_total (keyOf a) (keyOf b)) _

/-- Definitions of one key keep their order. -/
theorem ordered_sameParts (records : List Record) :
    SameParts keyOf (ordered records) records := by
  apply sameParts_mergeSort (fun a b c => Record.SortKey.le_trans (keyOf a) (keyOf b) (keyOf c))
    (fun a b => Record.SortKey.le_total (keyOf a) (keyOf b))
  intro a b hSame
  rw [hSame]
  simpa using Record.SortKey.le_total (keyOf b) (keyOf b)

theorem name_le_of_le {a b : Record.SortKey} (hLe : a.le b = true) : a.name ≤ b.name := by
  rcases Record.SortKey.le_iff.mp hLe with hLt | ⟨hSame, -⟩
  · exact Std.le_of_lt hLt
  · exact hSame ▸ String.le_refl _

/-! The whole file -/

/-- The lines that describe the file, without their ends. -/
def headerLines : List String :=
  ["!_TAG_FILE_FORMAT\t2\t//",
    "!_TAG_FILE_SORTED\t1\t/0=unsorted, 1=sorted, 2=foldcase/",
    "!_TAG_PROGRAM_NAME\tsymscope\t//",
    "!_TAG_PROGRAM_VERSION\t" ++ toolVersion ++ "\t//"]

/-- The header is made of whole lines. -/
theorem toList_header :
    header.toList = (headerLines.map String.toList).flatMap (· ++ ['\n']) := by
  decide +kernel

theorem lineFeed_not_mem_headerLines :
    ∀ line ∈ headerLines.map String.toList, '\n' ∉ line := by
  decide +kernel

/-- The file is made of whole lines: those of the header, and one for each definition. -/
theorem render_eq (hNames : ∀ record ∈ records, record.name ≠ []) :
    render records = .ok (String.ofList ((headerLines.map String.toList ++
      (ordered records).map fun record => (entryOf record).line).flatMap (· ++ ['\n']))) := by
  have hLines : (ordered records).mapM line =
      .ok ((ordered records).map fun record => String.ofList (entryOf record).line) :=
    mapM_eq_ok_map fun record hRecord =>
      line_eq (hNames record ((ordered_perm records).mem_iff.mp hRecord))
  rw [render, sortByKey_sortKey hNames, ok_bind, hLines, ok_bind]
  refine congrArg Except.ok (String.toList_inj.mp ?_)
  rw [String.toList_append, String.toList_join, toList_header, String.toList_ofList,
    List.flatMap_append]
  simp [List.flatMap_map]

/-- Definitions without tabulators and line feeds in the wrong places are written as a tag file,
with one line for each below the four that describe the file. Every line has exactly one reading,
whatever its source line holds. The readings one after the other are the definitions in ascending
order of short name, file and line number, those of one key in the order in which they came. -/
theorem render_decodes (records : List Record) (hNames : ∀ record ∈ records, record.name ≠ [])
    (hTaggable : ∀ record ∈ records, IsTaggable record) :
    ∃ (text : String) (lines : List (List Char)) (sorted : List Record), render records = .ok text ∧
      splitAt '\n' text.toList = headerLines.map String.toList ++ lines ++ [[]] ∧
      lines.length = records.length ∧
      (∀ line ∈ lines, ∃! entry : Entry, entry.IsSeparable ∧ entry.line = line) ∧
      lines.map readLine? = sorted.map (fun record => some (entryOf record)) ∧
      sorted.Perm records ∧
      sorted.Pairwise (fun a b => (keyOf a).le (keyOf b) = true) ∧
      (∀ key, sorted.filter (fun record => keyOf record = key) =
        records.filter fun record => keyOf record = key) ∧
      ((lines.filterMap readLine?).map fun entry => String.ofList entry.name).Pairwise (· ≤ ·) := by
  have hSorted : ∀ record ∈ ordered records, IsTaggable record :=
    fun record hRecord => hTaggable record ((ordered_perm records).mem_iff.mp hRecord)
  have hRead : ((ordered records).map fun record => (entryOf record).line).map readLine? =
      (ordered records).map fun record => some (entryOf record) := by
    rw [List.map_map]
    apply List.map_congr_left
    intro record hRecord
    exact readLine?_line (hSorted record hRecord).isSeparable
  refine ⟨_, (ordered records).map fun record => (entryOf record).line, ordered records,
    render_eq hNames, ?_, ?_, ?_, hRead, ordered_perm records, ordered_pairwise records,
    ordered_sameParts records, ?_⟩
  · rw [String.toList_ofList]
    apply splitAt_flatMap
    intro line hLine
    rcases List.mem_append.mp hLine with hLine | hLine
    · exact lineFeed_not_mem_headerLines line hLine
    · obtain ⟨record, hRecord, rfl⟩ := List.mem_map.mp hLine
      exact (hSorted record hRecord).lineFeed_not_mem
  · rw [List.length_map, (ordered_perm records).length_eq]
  · intro line hLine
    obtain ⟨record, hRecord, rfl⟩ := List.mem_map.mp hLine
    refine ⟨entryOf record, ⟨(hSorted record hRecord).isSeparable, rfl⟩, ?_⟩
    rintro other ⟨hOther, hSame⟩
    have hReading := readLine?_line hOther
    rw [hSame, readLine?_line (hSorted record hRecord).isSeparable] at hReading
    exact (Option.some.inj hReading).symm
  · have hEntries := filterMap_readLine?_of_map hRead
    rw [hEntries, List.map_map, List.pairwise_map]
    refine (ordered_pairwise records).imp fun hLe => ?_
    simpa [entryOf, keyOf] using name_le_of_le hLe

/-- Definitions whose source lines look like ends of lines, two of them of one key. -/
def deceptiveLines : List Record :=
  [⟨defsTable, ["m", "b"], "x.go", some 2, some (.text "\t/^b$/;\"\tkind:f"), some "func", none⟩,
    ⟨defsTable, ["b"], "x.go", some 2, none, some "package", none⟩,
    ⟨defsTable, ["a"], "y.go", none, some (.text "$/;\"\tkind:c"), none, none⟩]

/-- Definitions whose source lines look like ends of entries are read back. -/
theorem deceptiveLines_decode :
    (∀ record ∈ deceptiveLines, record.name ≠ []) ∧
    (∀ record ∈ deceptiveLines, IsTaggable record) ∧
    ∃ (text : String) (lines : List (List Char)) (sorted : List Record),
      render deceptiveLines = .ok text ∧
      splitAt '\n' text.toList = headerLines.map String.toList ++ lines ++ [[]] ∧
      lines.length = 3 ∧ (∀ line ∈ lines, ∃! entry : Entry, entry.IsSeparable ∧ entry.line = line) ∧
      lines.map readLine? = sorted.map (fun record => some (entryOf record)) ∧
      sorted.Perm deceptiveLines ∧
      sorted.Pairwise fun a b => (keyOf a).le (keyOf b) = true := by
  have hNames : ∀ record ∈ deceptiveLines, record.name ≠ [] := by simp [deceptiveLines]
  have hTaggable : ∀ record ∈ deceptiveLines, IsTaggable record := by
    simp only [deceptiveLines, List.forall_mem_cons]
    exact ⟨⟨by decide, by decide, by decide⟩, ⟨by decide, by decide, by decide⟩,
      ⟨by decide, by decide, by decide⟩, nofun⟩
  obtain ⟨text, lines, sorted, hText, hLines, hLength, hUnique, hRead, hPerm, hOrder, -⟩ :=
    render_decodes deceptiveLines hNames hTaggable
  exact ⟨hNames, hTaggable, text, lines, sorted, hText, hLines, hLength, hUnique, hRead, hPerm,
    hOrder⟩

end CodeIndex.Tags
