import CodeIndex.Export.CrossReference
import CodeIndex.Proofs.ByteLines
import CodeIndex.Proofs.NormalPaths
import Mathlib.Algebra.Group.Nat.Defs

/-! The layout of a cross-reference file. Whatever the records are, only the lines that name a file
look as if they did, and the number in the first line is the position of the trailer. -/
namespace CodeIndex.CrossReference

/-! The tokens of a line -/

/-- A character that can stand in a line with its blanks collapsed. -/
def IsPlain (c : Char) : Prop := c ≠ '\n' ∧ c ≠ '\t'

/-- What is not blank is neither a line end nor a tabulator. -/
theorem isPlain_of_not_isBlank {c : Char} (hBlank : isBlank c = false) : IsPlain c := by
  constructor
  · rintro rfl
    revert hBlank
    decide
  · rintro rfl
    revert hBlank
    decide

/-- There are no blanks in words. -/
theorem not_isBlank_of_mem_wordsFrom {run text word : List Char} {c : Char}
    (hRun : ∀ d ∈ run, isBlank d = false) (hWord : word ∈ wordsFrom run text) (hc : c ∈ word) :
    isBlank c = false := by
  fun_induction wordsFrom run text with
  | case1 => cases hWord
  | case2 run hFilled =>
    rw [List.mem_singleton.mp hWord, List.mem_reverse] at hc
    exact hRun c hc
  | case3 run d rest hBlank hEmpty ih => exact ih nofun hWord
  | case4 run d rest hBlank hFilled ih =>
    rcases List.mem_cons.mp hWord with rfl | hWord
    · exact hRun c (List.mem_reverse.mp hc)
    · exact ih nofun hWord
  | case5 run d rest hBlank ih =>
    refine ih (fun e he => ?_) hWord
    rcases List.mem_cons.mp he with rfl | he
    · simpa using hBlank
    · exact hRun e he

/-- Words with spaces between them hold nothing but spaces and what the words hold. -/
theorem mem_intercalate_space {words : List (List Char)} {c : Char}
    (hc : c ∈ [' '].intercalate words) : c = ' ' ∨ ∃ word ∈ words, c ∈ word := by
  induction words with
  | nil => cases hc
  | cons word words ih =>
    cases words with
    | nil => exact .inr ⟨word, List.mem_cons_self, by simpa using hc⟩
    | cons other others =>
      rw [List.intercalate_cons_cons, List.mem_append, List.mem_append, List.mem_singleton] at hc
      rcases hc with (hc | hc) | hc
      · exact .inr ⟨word, List.mem_cons_self, hc⟩
      · exact .inl hc
      · rcases ih hc with hSpace | ⟨found, hFound, hc⟩
        · exact .inl hSpace
        · exact .inr ⟨found, List.mem_cons_of_mem _ hFound, hc⟩

/-- A collapsed line holds neither line feeds nor tabulators. -/
theorem isPlain_of_mem_collapse {line : List Char} {c : Char} (hc : c ∈ collapse line) :
    IsPlain c := by
  rcases mem_intercalate_space hc with rfl | ⟨word, hWord, hc⟩
  · exact ⟨by decide, by decide⟩
  · exact isPlain_of_not_isBlank (not_isBlank_of_mem_wordsFrom (by simp) hWord hc)

/-- The place of a word is one where the word stands. -/
theorem prefix_of_wordOffsetFrom {token : List Char} {before : Option Char} {position : Nat}
    {rest : List Char} {offset : Nat}
    (hOffset : wordOffsetFrom token before position rest = some offset) :
    position ≤ offset ∧ token <+: rest.drop (offset - position) := by
  fun_induction wordOffsetFrom token before position rest with
  | case1 before position rest hHere =>
    obtain rfl := Option.some.inj hOffset
    simp only [Bool.and_eq_true, List.isPrefixOf_iff_prefix] at hHere
    exact ⟨le_rfl, by simpa using hHere.1.2⟩
  | case2 => cases hOffset
  | case3 before position c rest hNot ih =>
    obtain ⟨hLe, hPrefix⟩ := ih hOffset
    refine ⟨by omega, ?_⟩
    obtain ⟨distance, rfl⟩ := Nat.exists_eq_add_of_le hLe
    rw [show position + 1 + distance - position = distance + 1 by omega, List.drop_succ_cons]
    rwa [Nat.add_sub_cancel_left] at hPrefix

/-- All marks of records that are shown. -/
def shownMarks : List String := ["$", "c", "t", "g", "\x60", "=", "~<", "\x7d"]

/-- A record that is shown has one of these marks. -/
theorem mark_mem_shownMarks {record : Record} (hShown : (mark record).isEmpty = false) :
    mark record ∈ shownMarks := by
  rw [mark] at hShown ⊢
  split_ifs at hShown ⊢
  · split <;> decide
  · decide
  · decide
  · decide
  · decide
  · cases hShown

/-- A token of a line stands in it at its place, and its mark is that of a record that is shown. -/
def Token.Fits (line : List Char) (token : Token) : Prop :=
  token.mark ∈ shownMarks ∧ token.text <+: line.drop token.offset

/-- The token of a record is found in the line. -/
theorem fits_of_token? {line : List Char} {record : Record} {token : Token}
    (hToken : token? line record = .ok (some token)) : token.Fits line := by
  rw [token?] at hToken
  split_ifs at hToken with hShown
  · cases hToken
  · obtain ⟨name, -, hToken⟩ := bind_eq_ok_iff.mp hToken
    obtain ⟨offset, hOffset, rfl⟩ := Option.map_eq_some_iff.mp (Except.ok.inj hToken)
    exact ⟨mark_mem_shownMarks (by simpa using hShown), (prefix_of_wordOffsetFrom hOffset).2⟩

theorem mem_of_mem_distinctTokens {found : List Token} {token : Token}
    (hToken : token ∈ distinctTokens found) : token ∈ found := by
  induction found with
  | nil => cases hToken
  | cons first rest ih =>
    rcases List.mem_cons.mp hToken with rfl | hToken
    · exact List.mem_cons_self
    · exact List.mem_cons_of_mem _ (ih (List.mem_of_mem_filter hToken))

theorem fits_of_mem_tokens {line : List Char} {records : List Record} {found : List Token}
    (hFound : tokens line records = .ok found) : ∀ token ∈ found, token.Fits line := by
  intro token hToken
  obtain ⟨options, hEach, hFound⟩ := bind_eq_ok_iff.mp hFound
  obtain rfl := Except.ok.inj hFound
  have hMem := mem_of_mem_distinctTokens (List.mem_mergeSort.mp hToken)
  obtain ⟨option, hOption, rfl⟩ := List.mem_filterMap.mp hMem
  obtain ⟨record, -, hRecord⟩ := exists_of_mem_mapM hEach hOption
  exact fits_of_token? hRecord

/-! Lines that name a file -/

/-- Whether a line starts like one that names a file. -/
def isHead (line : List Char) : Bool := ['\t', '@'].isPrefixOf line

/-- A text of complete lines, of which those that start like a name of a file are given. -/
def HasHeads (heads : List (List Char)) (text : List Char) : Prop :=
  ∃ lines : List (List Char), text = lines.flatMap (· ++ ['\n']) ∧
    (∀ line ∈ lines, '\n' ∉ line) ∧ lines.filter isHead = heads

namespace HasHeads

theorem nil : HasHeads [] [] := ⟨[], rfl, nofun, rfl⟩

/-- The names of files in two texts of complete lines are those of the first and then those of the
second. -/
theorem append {first second : List (List Char)} {text rest : List Char}
    (hText : HasHeads first text) (hRest : HasHeads second rest) :
    HasHeads (first ++ second) (text ++ rest) := by
  obtain ⟨lines, rfl, hLines, rfl⟩ := hText
  obtain ⟨others, rfl, hOthers, rfl⟩ := hRest
  refine ⟨lines ++ others, List.flatMap_append.symm, fun line hLine => ?_, List.filter_append ..⟩
  rcases List.mem_append.mp hLine with hLine | hLine
  · exact hLines line hLine
  · exact hOthers line hLine

/-- A line in front of complete lines. -/
theorem cons {heads : List (List Char)} {line rest : List Char} (hLine : '\n' ∉ line)
    (hRest : HasHeads heads rest) :
    HasHeads (if isHead line then line :: heads else heads) (line ++ '\n' :: rest) := by
  obtain ⟨lines, rfl, hLines, rfl⟩ := hRest
  refine ⟨line :: lines, by simp, fun other hOther => ?_, List.filter_cons ..⟩
  rcases List.mem_cons.mp hOther with rfl | hOther
  · exact hLine
  · exact hLines other hOther

/-- A line that does not start like a name of a file. -/
theorem cons_of_not {heads : List (List Char)} {line rest : List Char} (hLine : '\n' ∉ line)
    (hHead : isHead line = false) (hRest : HasHeads heads rest) :
    HasHeads heads (line ++ '\n' :: rest) := by
  simpa [hHead] using hRest.cons hLine

end HasHeads

theorem isHead_of_isPlain {line : List Char} (hLine : ∀ c ∈ line, IsPlain c) :
    isHead line = false := by
  cases line with
  | nil => rfl
  | cons c rest =>
    have hTab : ('\t' == c) = false := beq_eq_false_iff_ne.mpr (hLine c List.mem_cons_self).2.symm
    simp [isHead, List.isPrefixOf, hTab]

theorem lineFeed_not_mem_of_isPlain {line : List Char} (hLine : ∀ c ∈ line, IsPlain c) :
    '\n' ∉ line := fun hFeed => (hLine '\n' hFeed).1 rfl

/-- The line of a token starts with a mark, which is not the one for files. -/
theorem token_line {line : List Char} (hLine : ∀ c ∈ line, IsPlain c) {token : Token}
    (hToken : token.Fits line) :
    '\n' ∉ '\t' :: token.mark.toList ++ token.text ∧
      isHead ('\t' :: token.mark.toList ++ token.text) = false := by
  obtain ⟨hMark, hText⟩ := hToken
  have hFeed : '\n' ∉ token.text :=
    fun hMem => (hLine '\n' (List.mem_of_mem_drop (hText.subset hMem))).1 rfl
  have hMarks : ∀ mark ∈ shownMarks, '\n' ∉ mark.toList ∧
      ∃ c rest, mark.toList = c :: rest ∧ c ≠ '@' := by
    simp [shownMarks]
  obtain ⟨hMarkFeed, c, rest, hFirst, hNotAt⟩ := hMarks _ hMark
  constructor
  · simp [hMarkFeed, hFeed]
  · have hAt : ('@' == c) = false := beq_eq_false_iff_ne.mpr hNotAt.symm
    simp [isHead, List.isPrefixOf, hFirst, hAt]

/-- What is broken out of a line names no file. The line goes on after `start`. -/
theorem hasHeads_breakOut {line start : List Char} {found : List Token} {position : Nat}
    (hStart : ∀ c ∈ start, IsPlain c) (hLine : ∀ c ∈ line, IsPlain c)
    (hFound : ∀ token ∈ found, token.Fits line) :
    HasHeads [] (start ++ breakOut line position found) := by
  have hPiece {piece : List Char} (hPiece : piece ⊆ line) {start : List Char}
      (hStart : ∀ c ∈ start, IsPlain c) : ∀ c ∈ start ++ piece, IsPlain c := by
    intro c hc
    rcases List.mem_append.mp hc with hc | hc
    · exact hStart c hc
    · exact hLine c (hPiece hc)
  induction found generalizing start position with
  | nil =>
    have hRest := hPiece (List.drop_subset position line) hStart
    rw [breakOut, ← List.append_assoc]
    have hEmpty : HasHeads [] ([] ++ '\n' :: []) := HasHeads.nil.cons_of_not List.not_mem_nil rfl
    exact hEmpty.cons_of_not (lineFeed_not_mem_of_isPlain hRest) (isHead_of_isPlain hRest)
  | cons token rest ih =>
    have hRestFits : ∀ other ∈ rest, other.Fits line :=
      fun other hOther => hFound other (List.mem_cons_of_mem _ hOther)
    rw [breakOut]
    split_ifs
    · exact ih hStart hRestFits
    · have hSkipped := hPiece (List.Subset.trans (List.take_subset (token.offset - position) _)
        (List.drop_subset position line)) hStart
      obtain ⟨hFeed, hHead⟩ := token_line hLine (hFound token List.mem_cons_self)
      have hTail : HasHeads [] ([] ++ breakOut line (token.offset + token.text.length) rest) :=
        ih (by simp) hRestFits
      have hText := (hTail.cons_of_not hFeed hHead).cons_of_not
        (lineFeed_not_mem_of_isPlain hSkipped) (isHead_of_isPlain hSkipped)
      simpa [List.append_assoc] using hText

/-- Printable characters can stand in a collapsed line. -/
theorem isPlain_of_printable {text : List Char} (hText : JsonValue.Printable text) :
    ∀ c ∈ text, IsPlain c := by
  intro c hc
  have hCode := hText c hc
  constructor
  · rintro rfl
    exact absurd hCode (by decide)
  · rintro rfl
    exact absurd hCode (by decide)

theorem isPlain_lineNo (lineNo : Int) : ∀ c ∈ (toString lineNo ++ " ").toList, IsPlain c := by
  apply isPlain_of_printable
  rw [String.toList_append]
  exact JsonValue.printable_append.mpr
    ⟨JsonValue.printable_render_integer lineNo, JsonValue.printable_cons.mpr ⟨by decide, nofun⟩⟩

/-- A source line is written as complete lines, none of which names a file. Tokens with a mark are
lines of their own that begin with a tabulator, but no mark is an at sign. -/
theorem hasHeads_renderLine {lineNo : Int} {source : String} {records : List Record}
    {text : String} (hText : renderLine lineNo source records = .ok text) :
    HasHeads [] text.toList := by
  obtain ⟨found, hFound, hText⟩ := bind_eq_ok_iff.mp hText
  split_ifs at hText
  · obtain rfl := Except.ok.inj hText
    exact HasHeads.nil
  · obtain rfl := Except.ok.inj hText
    rw [String.toList_append, String.toList_ofList]
    exact hasHeads_breakOut (isPlain_lineNo lineNo) (fun c => isPlain_of_mem_collapse)
      (fits_of_mem_tokens hFound)

theorem HasHeads.flatMap_nil {texts : List String}
    (hTexts : ∀ text ∈ texts, HasHeads [] text.toList) :
    HasHeads [] (texts.flatMap String.toList) := by
  induction texts with
  | nil => exact .nil
  | cons text texts ih =>
    rw [List.flatMap_cons]
    exact (hTexts text List.mem_cons_self).append
      (ih fun other hOther => hTexts other (List.mem_cons_of_mem _ hOther))

theorem hasHeads_renderFileLines {lines : List (Int × List Record)} {text : String}
    (hText : renderFileLines lines = .ok text) : HasHeads [] text.toList := by
  obtain ⟨rendered, hRendered, hText⟩ := bind_eq_ok_iff.mp hText
  obtain rfl := Except.ok.inj hText
  rw [String.toList_join]
  refine HasHeads.flatMap_nil fun text hMem => ?_
  obtain ⟨⟨lineNo, records⟩, -, hLine⟩ := exists_of_mem_mapM hRendered hMem
  dsimp only at hLine
  split at hLine
  · obtain rfl := Except.ok.inj hLine
    exact HasHeads.nil
  · exact hasHeads_renderLine hLine
  · cases hLine

/-- The line that names a file. -/
def headLine (file : String) : List Char := '\t' :: '@' :: file.toList

theorem ofList_headLine (file : String) : String.ofList (headLine file) = "\t@" ++ file := by
  rw [← String.toList_inj]
  simp [headLine]

/-- A line that names a file starts its part, and there is no other such line in the part. -/
theorem hasHeads_headLine {file : String} (hFile : '\n' ∉ file.toList) {text : List Char}
    (hText : HasHeads [] text) :
    HasHeads [headLine file] (headLine file ++ '\n' :: '\n' :: text) := by
  have hLine : '\n' ∉ headLine file := by simpa [headLine] using hFile
  have hHead : isHead (headLine file) = true := by simp [isHead, headLine, List.isPrefixOf]
  have hRest : HasHeads [] ([] ++ '\n' :: text) := hText.cons_of_not List.not_mem_nil rfl
  simpa [hHead] using hRest.cons hLine

/-- The sections of the files: each starts with the line that names its file, and no other line
looks like one. -/
theorem hasHeads_sections {files : LineIndex} {parts : List String}
    (hFiles : ∀ entry ∈ files, '\n' ∉ entry.1.toList)
    (hParts : List.Forall₂ (fun entry part => (do
      return "\t@" ++ entry.1 ++ "\n\n" ++ (← renderFileLines entry.2)) = Except.ok part)
      files parts) :
    HasHeads (files.map fun entry => headLine entry.1) (String.join parts).toList := by
  rw [String.toList_join]
  induction hParts with
  | nil => exact .nil
  | @cons entry part files parts hPart _ ih =>
    obtain ⟨lines, hLines, hPart⟩ := bind_eq_ok_iff.mp hPart
    obtain rfl := Except.ok.inj hPart
    have hSection := hasHeads_headLine (hFiles entry List.mem_cons_self)
      (hasHeads_renderFileLines hLines)
    have hOthers := ih fun other hOther => hFiles other (List.mem_cons_of_mem _ hOther)
    simpa [headLine] using hSection.append hOthers

/-- The body names the listed files in turn, and at its end the empty path. That is how a reader
knows where the lines of each file are. -/
theorem hasHeads_renderBody {files : LineIndex}
    (hFiles : ∀ entry ∈ files, '\n' ∉ entry.1.toList) {body : String}
    (hBody : renderBody files = .ok body) :
    HasHeads ((files.map fun entry => headLine entry.1) ++ [headLine ""]) body.toList ∧
      "\t@\n".toList <:+ body.toList := by
  obtain ⟨parts, hParts, hBody⟩ := bind_eq_ok_iff.mp hBody
  obtain rfl := Except.ok.inj hBody
  have hSections := hasHeads_sections hFiles (forall₂_of_mapM hParts)
  have hLast : HasHeads [headLine ""] "\t@\n".toList :=
    ⟨[headLine ""], rfl, by decide, by decide⟩
  rw [String.toList_append]
  exact ⟨hSections.append hLast, List.suffix_append _ _⟩

/-! The whole file -/

/-- A text of complete lines is written in bytes line by line. -/
theorem HasHeads.encode_eq {heads : List (List Char)} {text : String}
    (hText : HasHeads heads text.toList) :
    ∃ lines : List String, Utf8.encode text = lineBytes lines ∧
      (∀ line ∈ lines, '\n' ∉ line.toList) ∧
      lines.filter (fun line => isHead line.toList) = heads.map String.ofList := by
  obtain ⟨lines, hLines, hFeeds, rfl⟩ := hText
  refine ⟨lines.map String.ofList, ?_, ?_, ?_⟩
  · rw [Utf8.encode_eq_encodeChars, hLines]
    clear hLines hFeeds
    induction lines with
    | nil => rfl
    | cons line lines ih =>
      rw [List.flatMap_cons, Utf8.encodeChars_append, ih, Utf8.encodeChars_append, List.map_cons,
        lineBytes_cons, Utf8.encode_eq_encodeChars, String.toList_ofList]
      rfl
  · intro text hText
    obtain ⟨line, hLine, rfl⟩ := List.mem_map.mp hText
    rw [String.toList_ofList]
    exact hFeeds line hLine
  · rw [List.filter_map]
    simp [Function.comp_def]

/-- The lines of the trailer: how many roots there are and each of them, a zero, how many files
there are, how many bytes follow, and each of the files. -/
def trailerLines (roots files : List String) : List String :=
  toString roots.length :: roots ++
    ["0", toString files.length, toString (lineBytes files).length] ++ files

/-- Lines are written in bytes one after the other. -/
theorem encode_join_lines (lines : List String) :
    Utf8.encode (String.join (lines.map (· ++ "\n"))) = lineBytes lines := by
  rw [Utf8.encode_eq_encodeChars, String.toList_join]
  induction lines with
  | nil => rfl
  | cons line lines ih =>
    rw [List.map_cons, List.flatMap_cons, Utf8.encodeChars_append, ih,
      ← Utf8.encode_eq_encodeChars, Utf8.encode_append, lineBytes_cons]
    rfl

theorem encode_renderTrailer (roots files : List String) :
    Utf8.encode (renderTrailer roots files) = lineBytes (trailerLines roots files) := by
  have hSize : (String.join (files.map (· ++ "\n"))).utf8ByteSize = (lineBytes files).length := by
    rw [← Utf8.length_encode, encode_join_lines]
  have hFeed : Utf8.encode "\n" = [10] := by decide
  have hZero : Utf8.encode "0\n" = Utf8.encode "0" ++ [10] := by decide
  simp only [renderTrailer, trailerLines, hSize, Utf8.encode_append, encode_join_lines, hFeed,
    hZero, lineBytes_append, lineBytes_cons, List.cons_append, List.append_assoc, List.nil_append]

/-! The number in the first line -/

/-- A number is filled up with zeros to ten digits. -/
theorem toList_paddedNumber (n : Nat) :
    (paddedNumber n).toList =
      List.replicate (10 - (Nat.toDigits 10 n).length) '0' ++ Nat.toDigits 10 n := by
  simp [paddedNumber, ← String.length_toList]

theorem isDigit_of_mem_paddedNumber {n : Nat} {c : Char} (hc : c ∈ (paddedNumber n).toList) :
    c.isDigit = true := by
  rw [toList_paddedNumber, List.mem_append] at hc
  rcases hc with hc | hc
  · rw [List.eq_of_mem_replicate hc]
    decide
  · exact Nat.isDigit_of_mem_toDigits (by decide) (by decide) hc

/-- Zeros in front do not change a number. -/
theorem decimalValue_zeros (count : Nat) (digits : List Char) :
    JsonValue.decimalValue (List.replicate count '0' ++ digits) =
      JsonValue.decimalValue digits := by
  induction count with
  | zero => rfl
  | succ count ih =>
    rw [List.replicate_succ, List.cons_append, ← ih]
    rfl

/-- A filled number has the value of the number. -/
theorem decimalValue_paddedNumber (n : Nat) :
    JsonValue.decimalValue (paddedNumber n).toList = n := by
  rw [toList_paddedNumber, decimalValue_zeros, JsonValue.decimalValue_toDigits]

/-- A filled number has ten digits unless it needs more. -/
theorem length_paddedNumber (n : Nat) :
    10 ≤ (paddedNumber n).toList.length ∧
      (n < 10 ^ 10 → (paddedNumber n).toList.length = 10) := by
  rw [toList_paddedNumber, List.length_append, List.length_replicate]
  refine ⟨by omega, fun hSmall => ?_⟩
  have hDigits : (Nat.toDigits 10 n).length ≤ 10 :=
    (Nat.length_toDigits_le_iff (by decide) (by decide)).mpr hSmall
  omega

/-- The first line up to its number. -/
def headerText (directory : String) : String := "cscope 15 " ++ directory ++ " -c "

/-- Each digit is one byte. So the first line has the same length for all numbers of ten digits, and
the position can be put into it afterwards. -/
theorem encode_paddedNumber (n : Nat) :
    Utf8.encode (paddedNumber n) =
      (paddedNumber n).toList.map fun c => UInt8.ofNat c.toNat := by
  rw [Utf8.encode_eq_encodeChars]
  refine Utf8.encodeChars_of_ascii fun c hc => ?_
  have hDigit := Char.isDigit_iff_toNat.mp (isDigit_of_mem_paddedNumber hc)
  have hNine : '9'.toNat = 57 := rfl
  omega

/-! The files -/

variable {index : LineIndex} {roots : List String} {directory text : String}

/-- The paths of the files that are listed. -/
def listedPaths (index : LineIndex) : List String := (listedFiles index).map Prod.fst

/-- The listed files are those of the index with lines. -/
theorem mem_listedFiles_iff {entry : String × List (Int × List Record)} :
    entry ∈ listedFiles index ↔ entry ∈ index ∧ entry.2 ≠ [] := by
  rw [listedFiles, List.mem_mergeSort, List.mem_filter]
  simp

theorem mem_listedPaths_iff {file : String} :
    file ∈ listedPaths index ↔ ∃ lines, (file, lines) ∈ index ∧ lines ≠ [] := by
  rw [listedPaths, List.mem_map]
  constructor
  · rintro ⟨⟨file, lines⟩, hEntry, rfl⟩
    exact ⟨lines, mem_listedFiles_iff.mp hEntry⟩
  · rintro ⟨lines, hEntry⟩
    exact ⟨(file, lines), mem_listedFiles_iff.mpr hEntry, rfl⟩

/-- The files are listed in ascending order. -/
theorem listedPaths_ascend (hIndex : (index.map Prod.fst).Nodup) :
    (listedPaths index).Pairwise (· < ·) := by
  have hSorted : (listedFiles index).Pairwise fun a b => decide (a.1 ≤ b.1) = true :=
    List.pairwise_mergeSort Table.keyLe_trans Table.keyLe_total _
  have hNodup : (listedPaths index).Nodup := by
    rw [listedPaths, listedFiles, ((List.mergeSort_perm _ _).map Prod.fst).nodup_iff]
    exact hIndex.sublist (List.filter_sublist.map Prod.fst)
  have hOrdered : (listedPaths index).Pairwise (· ≤ ·) :=
    List.pairwise_map.mpr (hSorted.imp fun h => of_decide_eq_true h)
  exact (hOrdered.and hNodup).imp fun ⟨hLe, hNe⟩ => Std.lt_of_le_of_ne hLe hNe

/-! What is written -/

/-- A record that can be shown: it has a name, and its source line is a text. -/
def IsShowable (record : Record) : Prop :=
  record.name ≠ [] ∧ ∀ line, record.line = some line → ∃ source, line = .text source

/-- A record that can be shown has a token, or none to be shown. -/
theorem exists_token? {line : List Char} {record : Record} (hRecord : IsShowable record) :
    ∃ found, token? line record = .ok found := by
  rw [token?]
  split
  · exact ⟨_, rfl⟩
  · rw [Record.shortName, List.getLast?_eq_some_getLast hRecord.1]
    exact ⟨_, rfl⟩

/-- A line whose records can be shown can be written. -/
theorem exists_renderLine {lineNo : Int} {source : String} {records : List Record}
    (hRecords : ∀ record ∈ records, IsShowable record) :
    ∃ text, renderLine lineNo source records = .ok text := by
  obtain ⟨found, hFound⟩ : ∃ found, records.mapM (token? (collapse source.toList)) = .ok found :=
    exists_mapM_eq_ok fun record hRecord => exists_token? (hRecords record hRecord)
  simp only [renderLine, tokens, hFound, ok_bind, pure_bind]
  split
  · exact ⟨_, rfl⟩
  · exact ⟨_, rfl⟩

theorem exists_renderFileLines {lines : List (Int × List Record)}
    (hLines : ∀ line ∈ lines, ∀ record ∈ line.2, IsShowable record) :
    ∃ text, renderFileLines lines = .ok text := by
  rw [renderFileLines]
  refine exists_bind_eq_ok (exists_mapM_eq_ok fun (lineNo, records) hLine => ?_)
    fun rendered => ⟨_, rfl⟩
  have hRecords := hLines _ (List.mem_mergeSort.mp hLine)
  cases hSource : records.findSome? Record.line with
  | none => exact ⟨"", by simp only [hSource]⟩
  | some value =>
    obtain ⟨record, hRecord, hValue⟩ := List.exists_of_findSome?_eq_some hSource
    obtain ⟨source, rfl⟩ := (hRecords record hRecord).2 value hValue
    simp only [hSource]
    exact exists_renderLine hRecords

/-- Showable records are written, whatever their names and lines are. -/
theorem exists_render
    (hRecords : ∀ file ∈ index, ∀ line ∈ file.2, ∀ record ∈ line.2, IsShowable record) :
    ∃ text, render index roots directory = .ok text := by
  rw [render]
  refine exists_bind_eq_ok ?_ fun body => ⟨_, rfl⟩
  rw [renderBody]
  refine exists_bind_eq_ok (exists_mapM_eq_ok fun (file, lines) hFile => ?_) fun parts => ⟨_, rfl⟩
  have hLines := hRecords _ (mem_listedFiles_iff.mp hFile).1
  exact exists_bind_eq_ok (exists_renderFileLines hLines) fun text => ⟨_, rfl⟩

/-! The layout -/

/-- How a cross-reference file is laid out in bytes, given the position of its trailer. -/
structure IsLayout (directory : String) (roots files : List String) (position : Nat)
    (bytes : List UInt8) : Prop where
  /-- There are as many bytes as the position says. -/
  within : position ≤ bytes.length
  /-- The first line ends with the position in ten digits, if they suffice. -/
  number : position < 10 ^ 10 → ∃ digits : String,
    (byteLines bytes).head? = some (Utf8.encode (headerText directory ++ digits)) ∧
      (Utf8.encode digits).length = 10 ∧ (∀ c ∈ digits.toList, c.isDigit = true) ∧
      JsonValue.decimalValue digits.toList = position
  /-- The line without a path stands right before the trailer. -/
  sectionsEnd : Utf8.encode "\t@\n" <:+ bytes.take position
  /-- After the first line and before the trailer, each file is named by one line in their order. -/
  heads : (byteLines (bytes.take position)).tail.filter (Utf8.encode "\t@").isPrefixOf =
    (files ++ [""]).map fun file => Utf8.encode ("\t@" ++ file)
  /-- The lines of the trailer, of which the last is ended. -/
  trailer : byteLines (bytes.drop position) = (trailerLines roots files ++ [""]).map Utf8.encode
  /-- The trailer ends with the list of files, whose size it gives. -/
  fileList : lineBytes files <:+ bytes.drop position

/-- Whether a line names a file shows at its first two bytes as well. -/
theorem isPrefixOf_encode (line : String) :
    (Utf8.encode "\t@").isPrefixOf (Utf8.encode line) = isHead line.toList := by
  have hMark : Utf8.encode "\t@" = [UInt8.ofNat '\t'.toNat, UInt8.ofNat '@'.toNat] := by decide
  rw [Bool.eq_iff_iff, isHead, List.isPrefixOf_iff_prefix, List.isPrefixOf_iff_prefix, hMark,
    Utf8.encode_eq_encodeChars, Utf8.cons_prefix_encodeChars_iff (by decide)]
  constructor
  · rintro ⟨rest, hRest, hAt⟩
    obtain ⟨others, rfl, -⟩ := (Utf8.cons_prefix_encodeChars_iff (by decide)).mp hAt
    exact ⟨others, hRest.symm⟩
  · rintro ⟨others, hOthers⟩
    exact ⟨'@' :: others, hOthers.symm,
      (Utf8.cons_prefix_encodeChars_iff (by decide)).mpr ⟨others, rfl, List.nil_prefix⟩⟩

/-- The lines of the whole file. The first of them carries a number, which falls short of the
position of the trailer by the digits that it has beyond ten. -/
theorem encode_render (hPaths : ∀ entry ∈ index, '\n' ∉ entry.1.toList)
    (hText : render index roots directory = .ok text) :
    ∃ number lines,
      Utf8.encode text = lineBytes ((headerText directory ++ paddedNumber number) :: lines) ++
        lineBytes (trailerLines roots (listedPaths index)) ∧
      (lineBytes ((headerText directory ++ paddedNumber number) :: lines)).length + 10 =
        number + (paddedNumber number).toList.length ∧
      (∀ line ∈ lines, '\n' ∉ line.toList) ∧
      lines.filter (fun line => isHead line.toList) =
        (listedPaths index ++ [""]).map ("\t@" ++ ·) ∧
      Utf8.encode "\t@\n" <:+ lineBytes lines := by
  obtain ⟨body, hBody, hText⟩ := bind_eq_ok_iff.mp hText
  obtain rfl := Except.ok.inj hText
  obtain ⟨hHeads, hEnd⟩ := hasHeads_renderBody
    (fun entry hEntry => hPaths entry (mem_listedFiles_iff.mp hEntry).1) hBody
  obtain ⟨lines, hLines, hFeeds, hFilter⟩ := hHeads.encode_eq
  set number := ("cscope 15 " ++ directory ++ " -c ").utf8ByteSize + 11 + body.utf8ByteSize
    with hNumber
  have hFirst : Utf8.encode "\n" = [10] := by decide
  refine ⟨number, lines, ?_, ?_, hFeeds, ?_, ?_⟩
  · rw [lineBytes_cons, headerText, Utf8.encode_append, Utf8.encode_append, Utf8.encode_append,
      hFirst, hLines, ← listedPaths, encode_renderTrailer]
  · have hDigits := congrArg List.length (encode_paddedNumber number)
    rw [List.length_map] at hDigits
    rw [lineBytes_cons, ← hLines, Utf8.encode_append, List.length_append, List.length_append,
      List.length_append, hDigits, Utf8.length_encode, Utf8.length_encode, hNumber, headerText,
      List.length_singleton]
    omega
  · rw [hFilter, listedPaths]
    simp [ofList_headLine]
  · rw [← hLines, Utf8.encode_eq_encodeChars, Utf8.encode_eq_encodeChars]
    obtain ⟨start, hStart⟩ := hEnd
    exact ⟨Utf8.encodeChars start, by rw [← Utf8.encodeChars_append, hStart]⟩

theorem lineFeed_not_mem_toString (n : Nat) : '\n' ∉ (toString n).toList := by
  have hPlain := isPlain_of_printable (JsonValue.printable_toDigits n)
  have hDigits := lineFeed_not_mem_of_isPlain hPlain
  simpa using hDigits

/-- Paths without line ends make lines of the trailer. -/
theorem lineFeed_not_mem_trailerLines {files : List String}
    (hRoots : ∀ root ∈ roots, '\n' ∉ root.toList) (hFiles : ∀ file ∈ files, '\n' ∉ file.toList) :
    ∀ line ∈ trailerLines roots files, '\n' ∉ line.toList := by
  intro line hLine
  simp only [trailerLines, List.cons_append, List.mem_cons, List.mem_append, List.not_mem_nil,
    or_false] at hLine
  rcases hLine with rfl | (hRoot | rfl | rfl | rfl) | hFile
  · exact lineFeed_not_mem_toString _
  · exact hRoots line hRoot
  · decide
  · exact lineFeed_not_mem_toString _
  · exact lineFeed_not_mem_toString _
  · exact hFiles line hFile

theorem lineFeed_not_mem_firstLine (hDirectory : '\n' ∉ directory.toList) (number : Nat) :
    '\n' ∉ (headerText directory ++ paddedNumber number).toList := by
  rw [String.toList_append, List.mem_append, not_or]
  constructor
  · simpa [headerText] using hDirectory
  · intro hFeed
    exact absurd (isDigit_of_mem_paddedNumber hFeed) (by decide)

/-- Whatever is written has the layout, with the trailer at the position that the first line says.
-/
theorem isLayout_render (hPaths : ∀ entry ∈ index, '\n' ∉ entry.1.toList)
    (hRoots : ∀ root ∈ roots, '\n' ∉ root.toList) (hDirectory : '\n' ∉ directory.toList)
    (hText : render index roots directory = .ok text) :
    ∃ position, IsLayout directory roots (listedPaths index) position (Utf8.encode text) := by
  obtain ⟨number, lines, hBytes, hLength, hFeeds, hHeads, hEnd⟩ := encode_render hPaths hText
  have hFirst := lineFeed_not_mem_firstLine hDirectory number
  set first := headerText directory ++ paddedNumber number
  set trailer := trailerLines roots (listedPaths index)
  have hSections : ∀ line ∈ first :: lines, '\n' ∉ line.toList :=
    List.forall_mem_cons.mpr ⟨hFirst, hFeeds⟩
  have hTrailer : ∀ line ∈ trailer, '\n' ∉ line.toList := by
    refine lineFeed_not_mem_trailerLines hRoots fun file hFile => ?_
    obtain ⟨lines, hEntry, -⟩ := mem_listedPaths_iff.mp hFile
    exact hPaths _ hEntry
  have hNone : byteLines [] = [Utf8.encode ""] := by decide
  have hTake : (Utf8.encode text).take (lineBytes (first :: lines)).length =
      lineBytes (first :: lines) := by
    rw [hBytes, List.take_left]
  have hDrop : (Utf8.encode text).drop (lineBytes (first :: lines)).length =
      lineBytes trailer := by
    rw [hBytes, List.drop_left]
  refine ⟨(lineBytes (first :: lines)).length, ?_⟩
  constructor
  case within =>
    rw [hBytes, List.length_append]
    omega
  case number =>
    -- The number is at most the position, so its digits are ten and it is the position.
    intro hSmall
    obtain ⟨hLeast, hTen⟩ := length_paddedNumber number
    have hDigits := hTen (by omega)
    have hPosition : number = (lineBytes (first :: lines)).length := by omega
    refine ⟨paddedNumber number, ?_, ?_, fun c hc => isDigit_of_mem_paddedNumber hc, ?_⟩
    · rw [hBytes, byteLines_lineBytes hSections]
      rfl
    · rw [encode_paddedNumber, List.length_map, hDigits]
    · rw [decimalValue_paddedNumber, hPosition]
  case sectionsEnd =>
    rw [hTake, lineBytes_cons]
    exact hEnd.trans (List.suffix_append _ _)
  case heads =>
    have hLines := byteLines_lineBytes hSections []
    rw [List.append_nil, hNone] at hLines
    have hMarked : (Utf8.encode "\t@").isPrefixOf ∘ Utf8.encode = fun line => isHead line.toList :=
      funext isPrefixOf_encode
    have hLast : [Utf8.encode ""].filter (Utf8.encode "\t@").isPrefixOf = [] := by decide
    rw [hTake, hLines, List.map_cons, List.cons_append, List.tail_cons, List.filter_append,
      List.filter_map, hMarked, hHeads, hLast, List.append_nil, List.map_map]
    rfl
  case trailer =>
    have hLines := byteLines_lineBytes hTrailer []
    rw [List.append_nil, hNone] at hLines
    rw [hDrop, hLines, List.map_append]
    rfl
  case fileList =>
    rw [hDrop]
    simp only [trailer, trailerLines, lineBytes_append]
    exact List.suffix_append _ _

/-- Every index of showable records is written as a cross-reference file. Its first line gives the
position of the trailer, which lists the files with lines in ascending order, and no line before
the trailer passes for one that names another file. -/
theorem render_layout (hIndex : (index.map Prod.fst).Nodup)
    (hPaths : ∀ entry ∈ index, '\n' ∉ entry.1.toList)
    (hRoots : ∀ root ∈ roots, '\n' ∉ root.toList) (hDirectory : '\n' ∉ directory.toList) :
    ((∀ file ∈ index, ∀ line ∈ file.2, ∀ record ∈ line.2, IsShowable record) →
      ∃ text, render index roots directory = .ok text) ∧
    ∀ text, render index roots directory = .ok text →
      ∃ files position, IsLayout directory roots files position (Utf8.encode text) ∧
        files.Pairwise (· < ·) ∧
        ∀ file, file ∈ files ↔ ∃ lines, (file, lines) ∈ index ∧ lines ≠ [] := by
  refine ⟨exists_render, fun text hText => ?_⟩
  obtain ⟨position, hLayout⟩ := isLayout_render hPaths hRoots hDirectory hText
  exact ⟨listedPaths index, position, hLayout, listedPaths_ascend hIndex,
    fun file => mem_listedPaths_iff⟩

/-- An index of two files, of which one has no lines and the other a line that names a file after
a tabulator. -/
def twoFiles : LineIndex :=
  [("b.py", [(3, [⟨defsTable, ["é"], "b.py", some 3, some (.text "é = \t@b.py"), none, none⟩])]),
    ("a.py", [])]

/-- The file without lines is left out, and the other one is named once, although its line holds
what looks like a name of a file. -/
theorem twoFiles_layout :
    (∃ text, render twoFiles ["/r"] "/w" = .ok text) ∧
      ∀ text, render twoFiles ["/r"] "/w" = .ok text →
        ∃ files position, IsLayout "/w" ["/r"] files position (Utf8.encode text) ∧
          files.Pairwise (· < ·) ∧
          ∀ file, file ∈ files ↔ ∃ lines, (file, lines) ∈ twoFiles ∧ lines ≠ [] := by
  obtain ⟨hWritten, hLayout⟩ := @render_layout twoFiles ["/r"] "/w" (by decide) (by decide)
    (by decide) (by decide)
  refine ⟨hWritten ?_, hLayout⟩
  simp [twoFiles, IsShowable]

end CodeIndex.CrossReference
