import CodeIndex.Proofs.CrossReferenceLayout
import CodeIndex.Proofs.PhysicalLines
import CodeIndex.Proofs.ScanHistory

/-! The names that are broken out of a source line. Each stands at the first place where it is a
whole word, and nothing of the line is lost or written twice, however the names overlap. -/
namespace CodeIndex.CrossReference

/-! Whole words -/

/-- A token stands at a place of a line as a whole word: no word character is next to it. -/
def IsWordAt (token line : List Char) (offset : Nat) : Prop :=
  ∃ before after, line = before ++ token ++ after ∧ before.length = offset ∧
    isWordPart before.getLast? = false ∧ isWordPart after.head? = false

variable {token past rest line : List Char} {offset : Nat}

/-- Whether a word stands right here is seen from the last character before and the next ones. -/
theorem isWordAt_length_iff :
    IsWordAt token (past ++ rest) past.length ↔
      (!isWordPart past.getLast? && token.isPrefixOf rest &&
        !isWordPart (rest.drop token.length).head?) = true := by
  simp only [Bool.and_eq_true, Bool.not_eq_true', List.isPrefixOf_iff_prefix]
  constructor
  · rintro ⟨before, after, hLine, hLength, hBefore, hAfter⟩
    rw [List.append_assoc] at hLine
    obtain ⟨rfl, rfl⟩ := List.append_inj hLine hLength.symm
    exact ⟨⟨hBefore, List.prefix_append token after⟩, by rwa [List.drop_left]⟩
  · rintro ⟨⟨hBefore, after, rfl⟩, hAfter⟩
    rw [List.drop_left] at hAfter
    exact ⟨past, after, (List.append_assoc ..).symm, rfl, hBefore, hAfter⟩

/-- The search finds a whole word, and there is none between the start and the place found. -/
theorem isWordAt_of_wordOffsetFrom
    (hOffset : wordOffsetFrom token past.getLast? past.length rest = some offset) :
    IsWordAt token (past ++ rest) offset ∧
      ∀ earlier, past.length ≤ earlier → earlier < offset →
        ¬ IsWordAt token (past ++ rest) earlier := by
  induction rest generalizing past with
  | nil =>
    rw [wordOffsetFrom] at hOffset
    split_ifs at hOffset with hHere
    obtain rfl := Option.some.inj hOffset
    exact ⟨isWordAt_length_iff.mpr hHere, fun earlier hLe hLt => absurd hLe (by omega)⟩
  | cons c rest ih =>
    rw [wordOffsetFrom] at hOffset
    split_ifs at hOffset with hHere
    · obtain rfl := Option.some.inj hOffset
      exact ⟨isWordAt_length_iff.mpr hHere, fun earlier hLe hLt => absurd hLe (by omega)⟩
    · have hNext : wordOffsetFrom token (past ++ [c]).getLast? (past ++ [c]).length rest =
          some offset := by simpa using hOffset
      obtain ⟨hFound, hNone⟩ := ih hNext
      rw [List.append_assoc, List.singleton_append] at hFound hNone
      refine ⟨hFound, fun earlier hLe hLt hWord => ?_⟩
      rcases Nat.eq_or_lt_of_le hLe with rfl | hLater
      · exact hHere (isWordAt_length_iff.mp hWord)
      · exact hNone earlier (by simpa [Nat.succ_le_iff] using hLater) hLt hWord

/-- The search misses no whole word. -/
theorem exists_wordOffsetFrom (past : List Char) (hWord : IsWordAt token (past ++ rest) offset)
    (hStart : past.length ≤ offset) :
    ∃ place, wordOffsetFrom token past.getLast? past.length rest = some place := by
  induction rest generalizing past with
  | nil =>
    have hEnd : offset = past.length := by
      obtain ⟨before, after, hLine, rfl, -⟩ := hWord
      have hLength := congrArg List.length hLine
      simp only [List.length_append, List.length_nil] at hLength
      omega
    subst hEnd
    exact ⟨_, by rw [wordOffsetFrom, if_pos (isWordAt_length_iff.mp hWord)]⟩
  | cons c rest ih =>
    rw [wordOffsetFrom]
    split_ifs with hHere
    · exact ⟨_, rfl⟩
    · rcases Nat.eq_or_lt_of_le hStart with rfl | hLater
      · exact absurd (isWordAt_length_iff.mp hWord) hHere
      · have hNext := ih (past ++ [c]) (by simpa using hWord)
          (by simpa [Nat.succ_le_iff] using hLater)
        simpa using hNext

/-- The place of a name in a line is the first one where it is a whole word. -/
theorem wordOffset?_eq_some_iff :
    wordOffset? token line = some offset ↔
      IsWordAt token line offset ∧ ∀ earlier < offset, ¬ IsWordAt token line earlier := by
  have hStart (place : Nat) :
      wordOffsetFrom token ([] : List Char).getLast? ([] : List Char).length line = some place ↔
        wordOffset? token line = some place := Iff.rfl
  constructor
  · intro hOffset
    obtain ⟨hWord, hNone⟩ := isWordAt_of_wordOffsetFrom ((hStart offset).mpr hOffset)
    exact ⟨hWord, fun earlier hLt => hNone earlier (Nat.zero_le _) hLt⟩
  · rintro ⟨hWord, hNone⟩
    obtain ⟨place, hPlace⟩ := exists_wordOffsetFrom [] hWord (Nat.zero_le _)
    obtain ⟨hFound, hFirst⟩ := isWordAt_of_wordOffsetFrom hPlace
    have hSame : place = offset := by
      rcases Nat.lt_trichotomy place offset with hLt | hEq | hGt
      · exact absurd hFound (hNone place hLt)
      · exact hEq
      · exact absurd hWord (hFirst offset (Nat.zero_le _) hGt)
    exact hSame ▸ (hStart place).mp hPlace

/-- A place is found exactly if the token is a word of the line somewhere. -/
theorem exists_wordOffset?_iff :
    (∃ offset, wordOffset? token line = some offset) ↔ ∃ offset, IsWordAt token line offset := by
  constructor
  · rintro ⟨offset, hOffset⟩
    exact ⟨offset, (wordOffset?_eq_some_iff.mp hOffset).1⟩
  · rintro ⟨offset, hWord⟩
    exact exists_wordOffsetFrom [] hWord (Nat.zero_le _)

/-! The tokens of a line -/

/-- The token of a record in a line. A record without a name is taken to have an empty one. -/
def tokenOf? (line : List Char) (record : Record) : Option Token :=
  if mark record = "" then none
  else (wordOffset? record.lastSegment.toList line).map fun offset =>
    ⟨offset, mark record, record.lastSegment.toList⟩

variable {records : List Record} {record : Record} {found : List Token} {position : Nat}

theorem token?_eq (line : List Char) (hName : record.name ≠ []) :
    token? line record = .ok (tokenOf? line record) := by
  rw [token?, tokenOf?, Record.shortName_eq hName, ok_bind]
  by_cases hMark : mark record = ""
  · simp [hMark]
    rfl
  · rw [if_neg hMark, if_neg (by simpa using hMark)]
    rfl

/-- A record has a token where its name is first a word, if it is shown at all. -/
theorem tokenOf?_eq_some_iff {token : Token} :
    tokenOf? line record = some token ↔
      mark record ≠ "" ∧ wordOffset? record.lastSegment.toList line = some token.offset ∧
        token.mark = mark record ∧ token.text = record.lastSegment.toList := by
  rw [tokenOf?]
  split_ifs with hMark
  · simp [hMark]
  · rw [Option.map_eq_some_iff]
    constructor
    · rintro ⟨offset, hOffset, rfl⟩
      exact ⟨hMark, hOffset, rfl, rfl⟩
    · rintro ⟨-, hOffset, hTokenMark, hText⟩
      exact ⟨token.offset, hOffset, by rw [← hTokenMark, ← hText]⟩

/-- The tokens of a line in the order of their places, for records that have names. -/
def tokensOf (line : List Char) (records : List Record) : List Token :=
  (distinctTokens (records.filterMap (tokenOf? line))).mergeSort fun a b =>
    decide (a.offset ≤ b.offset)

theorem tokens_eq (line : List Char) (hNames : ∀ record ∈ records, record.name ≠ []) :
    tokens line records = .ok (tokensOf line records) := by
  have hFound : records.mapM (token? line) = .ok (records.map (tokenOf? line)) :=
    mapM_eq_ok_map fun record hRecord => token?_eq line (hNames record hRecord)
  rw [tokens, hFound, ok_bind, tokensOf, List.filterMap_map]
  rfl

/-- A token of a line is that of one of the records. -/
theorem exists_record_of_mem_tokensOf {token : Token} (hToken : token ∈ tokensOf line records) :
    ∃ record ∈ records, tokenOf? line record = some token :=
  List.mem_filterMap.mp (mem_of_mem_distinctTokens (List.mem_mergeSort.mp hToken))

theorem tokensOf_eq_nil_iff :
    tokensOf line records = [] ↔ ∀ record ∈ records, tokenOf? line record = none := by
  rw [← List.filterMap_eq_nil_iff, tokensOf, ← List.length_eq_zero_iff, List.length_mergeSort,
    List.length_eq_zero_iff]
  cases records.filterMap (tokenOf? line) <;> simp [distinctTokens]

theorem fits_of_mem_tokensOf {token : Token} (hToken : token ∈ tokensOf line records) :
    token.Fits line := by
  obtain ⟨record, -, hRecord⟩ := exists_record_of_mem_tokensOf hToken
  obtain ⟨hMark, hOffset, hTokenMark, hText⟩ := tokenOf?_eq_some_iff.mp hRecord
  refine ⟨hTokenMark ▸ mark_mem_shownMarks (by simpa using hMark), ?_⟩
  obtain ⟨⟨before, after, hLine, hLength, -⟩, -⟩ := wordOffset?_eq_some_iff.mp hOffset
  rw [hText, hLine, List.append_assoc, ← hLength, List.drop_left]
  exact List.prefix_append _ _

/-! Breaking out -/

/-- The line from a position on, cut at its tokens: the text before the first one, and each token
with the text after it. Tokens that start before the end of an earlier one are passed over. -/
def cutAt (line : List Char) (position : Nat) : List Token → List Char × List (Token × List Char)
  | [] => (line.drop position, [])
  | token :: rest =>
    if token.offset < position then cutAt line position rest
    else
      let (after, pieces) := cutAt line (token.offset + token.text.length) rest
      ((line.drop position).take (token.offset - position), (token, after) :: pieces)

/-- The lines that a token and the text after it make. -/
def pieceLines (piece : Token × List Char) : List (List Char) :=
  ['\t' :: piece.1.mark.toList ++ piece.1.text, piece.2]

/-- What is written are lines: the text before the first token, then each token and the text after
it in turn, and an empty line. -/
theorem breakOut_eq_cutAt (start line : List Char) (position : Nat) (found : List Token) :
    start ++ breakOut line position found =
      ((start ++ (cutAt line position found).1) ::
        (cutAt line position found).2.flatMap pieceLines ++ [[]]).flatMap (· ++ ['\n']) := by
  induction found generalizing start position with
  | nil => simp [breakOut, cutAt]
  | cons token rest ih =>
    rw [breakOut, cutAt]
    split_ifs
    · exact ih start position
    · have hRest := ih [] (token.offset + token.text.length)
      rw [List.nil_append, List.nil_append] at hRest
      rw [hRest]
      simp [pieceLines]

/-- Put together again, the pieces are the line. -/
theorem cutAt_joined (hFound : ∀ token ∈ found, token.Fits line) :
    (cutAt line position found).1 ++ (cutAt line position found).2.flatMap (fun (token, after) =>
      token.text ++ after) = line.drop position := by
  induction found generalizing position with
  | nil => simp [cutAt]
  | cons token rest ih =>
    obtain ⟨hToken, hRest⟩ := List.forall_mem_cons.mp hFound
    rw [cutAt]
    split_ifs with hOverlap
    · exact ih hRest
    · -- The token and what follows it are the line from the place of the token on.
      have hText : token.text ++ line.drop (token.offset + token.text.length) =
          line.drop token.offset := by
        obtain ⟨after, hAfter⟩ := hToken.2
        rw [← List.drop_drop, ← hAfter, List.drop_left]
      have hStep : (line.drop position).drop (token.offset - position) =
          line.drop token.offset := by
        rw [List.drop_drop]
        congr 1
        omega
      simp only [List.flatMap_cons]
      rw [List.append_assoc, ih hRest, hText, ← hStep, List.take_append_drop]

theorem mem_of_mem_cutAt {piece : Token × List Char}
    (hPiece : piece ∈ (cutAt line position found).2) : piece.1 ∈ found := by
  induction found generalizing position with
  | nil => simp [cutAt] at hPiece
  | cons token rest ih =>
    rw [cutAt] at hPiece
    split_ifs at hPiece
    · exact List.mem_cons_of_mem _ (ih hPiece)
    · rcases List.mem_cons.mp hPiece with rfl | hPiece
      · exact List.mem_cons_self
      · exact List.mem_cons_of_mem _ (ih hPiece)

/-- The first token is never passed over. -/
theorem cutAt_ne_nil (hFound : found ≠ []) : (cutAt line 0 found).2 ≠ [] := by
  obtain ⟨token, rest, rfl⟩ := List.exists_cons_of_ne_nil hFound
  simp [cutAt]

/-- The text around the tokens is text of the line. -/
theorem mem_of_mem_cutAt_text (hFound : ∀ token ∈ found, token.Fits line) {part : List Char}
    (hPart : part ∈ (cutAt line position found).1 :: (cutAt line position found).2.map Prod.snd)
    {c : Char} (hc : c ∈ part) : c ∈ line := by
  apply List.mem_of_mem_drop (i := position)
  rw [← cutAt_joined hFound, List.mem_append]
  rcases List.mem_cons.mp hPart with rfl | hPart
  · exact .inl hc
  · obtain ⟨piece, hPiece, rfl⟩ := List.mem_map.mp hPart
    exact .inr (List.mem_flatMap.mpr ⟨piece, hPiece, List.mem_append_right _ hc⟩)

/-! Rendered lines -/

variable {lineNo : Int} {source text : String}

/-- A line with tokens is written with its number and its tokens broken out. A line without any is
left out. -/
theorem renderLine_eq (hNames : ∀ record ∈ records, record.name ≠ []) :
    renderLine lineNo source records = .ok (
      if tokensOf (collapse source.toList) records = [] then ""
      else toString lineNo ++ " " ++ String.ofList
        (breakOut (collapse source.toList) 0 (tokensOf (collapse source.toList) records))) := by
  rw [renderLine, tokens_eq _ hNames, ok_bind]
  split_ifs with hEmpty hNone
  · rfl
  · exact absurd (List.isEmpty_iff.mp hEmpty) hNone
  · exact absurd (List.isEmpty_iff.mpr ‹_›) hEmpty
  · rfl

/-- The lines of a rendered line that is not left out. -/
def renderedLines (lineNo : Int) (line : List Char) (found : List Token) : List (List Char) :=
  ((toString lineNo ++ " ").toList ++ (cutAt line 0 found).1) ::
    (cutAt line 0 found).2.flatMap pieceLines ++ [[]]

theorem lineFeed_not_mem_renderedLines (hLine : ∀ c ∈ line, IsPlain c)
    (hFound : ∀ token ∈ found, token.Fits line) :
    ∀ written ∈ renderedLines lineNo line found, '\n' ∉ written := by
  have hPlain {part : List Char}
      (hPart : part ∈ (cutAt line 0 found).1 :: (cutAt line 0 found).2.map Prod.snd) :
      '\n' ∉ part := fun hFeed => (hLine _ (mem_of_mem_cutAt_text hFound hPart hFeed)).1 rfl
  intro written hWritten
  rw [renderedLines, List.mem_append, List.mem_cons, List.mem_flatMap, List.mem_singleton]
    at hWritten
  rcases hWritten with (rfl | ⟨piece, hPiece, hWritten⟩) | rfl
  · rw [List.mem_append, not_or]
    exact ⟨lineFeed_not_mem_of_isPlain (isPlain_lineNo lineNo), hPlain List.mem_cons_self⟩
  · rw [pieceLines, List.mem_pair] at hWritten
    rcases hWritten with rfl | rfl
    · exact (token_line hLine (hFound _ (mem_of_mem_cutAt hPiece))).1
    · exact hPlain (List.mem_cons_of_mem _ (List.mem_map_of_mem hPiece))
  · exact List.not_mem_nil

/-- A rendered line is left out or made up of its lines. -/
theorem splitAt_renderLine (hNames : ∀ record ∈ records, record.name ≠ [])
    (hText : renderLine lineNo source records = .ok text)
    (hTokens : tokensOf (collapse source.toList) records ≠ []) :
    splitAt '\n' text.toList = renderedLines lineNo (collapse source.toList)
      (tokensOf (collapse source.toList) records) ++ [[]] := by
  rw [renderLine_eq hNames, if_neg hTokens] at hText
  obtain rfl := Except.ok.inj hText
  rw [String.toList_append, String.toList_ofList, breakOut_eq_cutAt]
  exact splitAt_flatMap (lineFeed_not_mem_renderedLines (fun c => isPlain_of_mem_collapse)
    fun token => fits_of_mem_tokensOf)

/-- A line is left out exactly if no record that is shown has a name that is a word of the line. -/
theorem renderLine_eq_empty_iff (hNames : ∀ record ∈ records, record.name ≠ [])
    (hText : renderLine lineNo source records = .ok text) :
    text = "" ↔ tokensOf (collapse source.toList) records = [] := by
  rw [renderLine_eq hNames] at hText
  obtain rfl := Except.ok.inj hText
  split_ifs with hTokens
  · simp [hTokens]
  · refine iff_of_false (fun hEmpty => ?_) hTokens
    have hLength := congrArg String.length hEmpty
    rw [String.length_append, String.length_append] at hLength
    have hSpace : " ".length = 1 := rfl
    have hNone : "".length = 0 := rfl
    omega

/-- A line is left out exactly if no record that is shown has a name that is a word of it. -/
theorem tokensOf_eq_nil_iff_forall (hNames : ∀ record ∈ records, record.name ≠ []) :
    tokensOf line records = [] ↔ ¬ ∃ record ∈ records, mark record ≠ "" ∧
      ∃ name offset, record.shortName = .ok name ∧ IsWordAt name.toList line offset := by
  rw [tokensOf_eq_nil_iff]
  push Not
  refine forall₂_congr fun record hRecord => ?_
  rw [Record.shortName_eq (hNames record hRecord), Option.eq_none_iff_forall_ne_some]
  constructor
  · rintro hNone hMark name offset hName hWord
    obtain rfl := Except.ok.inj hName
    obtain ⟨place, hPlace⟩ := exists_wordOffset?_iff.mpr ⟨offset, hWord⟩
    exact hNone ⟨place, mark record, record.lastSegment.toList⟩
      (tokenOf?_eq_some_iff.mpr ⟨hMark, hPlace, rfl, rfl⟩)
  · rintro hNone token hToken
    obtain ⟨hMark, hOffset, -⟩ := tokenOf?_eq_some_iff.mp hToken
    exact hNone hMark _ _ rfl (wordOffset?_eq_some_iff.mp hOffset).1

/-- Every source line is rendered if the records have names. It is left out exactly if no shown
record has a name that is a word of the line. Otherwise the names of some of the records stand on
lines of their own, each behind the mark of its record, and with the text between them they make up
the line. -/
theorem renderLine_lossless (lineNo : Int) (source : String) (records : List Record)
    (hNames : ∀ record ∈ records, record.name ≠ []) :
    ∃ text, renderLine lineNo source records = .ok text ∧
      (text = "" ↔ ¬ ∃ record ∈ records, mark record ≠ "" ∧ ∃ name offset,
        record.shortName = .ok name ∧ IsWordAt name.toList (collapse source.toList) offset) ∧
      (text ≠ "" → ∃ (first : List Char) (pieces : List (Token × List Char)), pieces ≠ [] ∧
        splitAt '\n' text.toList = ((toString lineNo ++ " ").toList ++ first) ::
          pieces.flatMap (fun (token, after) =>
            ['\t' :: token.mark.toList ++ token.text, after]) ++ [[], []] ∧
        (∀ piece ∈ pieces, ∃ record ∈ records, mark record ≠ "" ∧ piece.1.mark = mark record ∧
          record.shortName = .ok (String.ofList piece.1.text)) ∧
        (∀ part ∈ first :: pieces.map Prod.snd, part.head? ≠ some '\t') ∧
        first ++ pieces.flatMap (fun (token, after) => token.text ++ after) =
          collapse source.toList) := by
  set line := collapse source.toList with hLine
  have hFits : ∀ token ∈ tokensOf line records, token.Fits line :=
    fun token => fits_of_mem_tokensOf
  refine ⟨_, renderLine_eq hNames, ?_, fun hFilled => ?_⟩
  · rw [renderLine_eq_empty_iff hNames (renderLine_eq hNames), tokensOf_eq_nil_iff_forall hNames]
  · have hTokens : tokensOf line records ≠ [] :=
      mt (renderLine_eq_empty_iff hNames (renderLine_eq hNames)).mpr hFilled
    refine ⟨(cutAt line 0 (tokensOf line records)).1, (cutAt line 0 (tokensOf line records)).2,
      cutAt_ne_nil hTokens, ?_, fun piece hPiece => ?_, fun part hPart hTab => ?_, ?_⟩
    · rw [splitAt_renderLine hNames (renderLine_eq hNames) hTokens, renderedLines,
        List.append_assoc]
      rfl
    · obtain ⟨record, hRecord, hToken⟩ := exists_record_of_mem_tokensOf (mem_of_mem_cutAt hPiece)
      obtain ⟨hMark, -, hTokenMark, hText⟩ := tokenOf?_eq_some_iff.mp hToken
      refine ⟨record, hRecord, hMark, hTokenMark, ?_⟩
      rw [hText, String.ofList_toList, Record.shortName_eq (hNames record hRecord)]
    · have hMem : '\t' ∈ line :=
        mem_of_mem_cutAt_text hFits hPart (List.mem_of_mem_head? (Option.mem_def.mpr hTab))
      exact (isPlain_of_mem_collapse hMem).2 rfl
    · rw [cutAt_joined hFits, List.drop_zero]

/-- Records of one line whose names overlap and coincide, one of which is not shown. -/
def overlappingNames : List Record :=
  [⟨callsTable, ["a.b"], "x.go", some 2, none, none, none⟩,
    ⟨assignsTable, ["b"], "x.go", some 2, none, none, none⟩,
    ⟨endTable, ["T", "a"], "x.go", some 2, none, some "class", none⟩,
    ⟨importsTable, ["p", "b"], "x.go", some 2, none, none, none⟩]

/-- The line can be put together again although two of its names overlap. -/
theorem overlappingNames_lossless :
    (∀ record ∈ overlappingNames, record.name ≠ []) ∧
    ∃ text, renderLine 2 "\ta.b  =  b" overlappingNames = .ok text ∧
      ∃ (first : List Char) (pieces : List (Token × List Char)), pieces ≠ [] ∧
        splitAt '\n' text.toList = ("2 ".toList ++ first) :: pieces.flatMap (fun (token, after) =>
          ['\t' :: token.mark.toList ++ token.text, after]) ++ [[], []] ∧
        first ++ pieces.flatMap (fun (token, after) => token.text ++ after) = "a.b = b".toList := by
  have hNames : ∀ record ∈ overlappingNames, record.name ≠ [] := by simp [overlappingNames]
  obtain ⟨text, hText, hEmpty, hParts⟩ :=
    renderLine_lossless 2 "\ta.b  =  b" overlappingNames hNames
  have hLine : collapse "\ta.b  =  b".toList = "a.b = b".toList := by decide
  have hFilled : text ≠ "" := by
    intro hNone
    refine hEmpty.mp hNone ⟨overlappingNames[0], List.mem_cons_self, by decide, "a.b", 0, rfl, ?_⟩
    exact ⟨[], " = b".toList, by rw [hLine]; decide, rfl, rfl, by decide⟩
  obtain ⟨first, pieces, hPieces, hLines, -, -, hJoined⟩ := hParts hFilled
  exact ⟨hNames, text, hText, first, pieces, hPieces, hLines, hJoined.trans hLine⟩

end CodeIndex.CrossReference
