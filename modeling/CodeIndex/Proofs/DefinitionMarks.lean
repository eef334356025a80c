import CodeIndex.Proofs.BrokenOutNames
import CodeIndex.Proofs.Persistence

/-! When a definition is shown as one. The records of a line compete for places: at each place the
first record counts, and a name that starts inside an earlier one is passed over. -/
namespace CodeIndex

/-- The first item that passes a test comes before all others that pass it. -/
theorem rel_of_find?_eq_some {α : Type} {R : α → α → Prop} {items : List α} {p : α → Bool}
    {first item : α} (hOrder : items.Pairwise R) (hFirst : items.find? p = some first)
    (hItem : item ∈ items) (hPass : p item = true) : item = first ∨ R first item := by
  obtain ⟨-, before, after, rfl, hBefore⟩ := List.find?_eq_some_iff_append.mp hFirst
  rcases List.mem_append.mp hItem with hItem | hItem
  · simpa [hPass] using hBefore item hItem
  · rcases List.mem_cons.mp hItem with rfl | hItem
    · exact .inl rfl
    · exact .inr (List.rel_of_pairwise_cons (List.pairwise_append.mp hOrder).2.1 hItem)

namespace CrossReference

variable {line : List Char} {records : List Record} {record : Record} {found : List Token}
  {position offset : Nat} {token : Token}

/-! Which tokens are broken out -/

/-- Of the tokens at one place the first one is kept. -/
theorem mem_distinctTokens_iff :
    token ∈ distinctTokens found ↔
      found.find? (fun other => other.offset = token.offset) = some token := by
  induction found with
  | nil => simp [distinctTokens]
  | cons first rest ih =>
    rw [distinctTokens, List.mem_cons, List.mem_filter, ih, List.find?_cons]
    by_cases hPlace : first.offset = token.offset
    · simp [hPlace, eq_comm]
    · have hOther : token ≠ first := fun hSame => hPlace (hSame ▸ rfl)
      simp [hPlace, hOther, Ne.symm hPlace]

theorem distinctTokens_pairwise (found : List Token) :
    (distinctTokens found).Pairwise fun a b => a.offset ≠ b.offset := by
  induction found with
  | nil => exact .nil
  | cons first rest ih =>
    refine List.pairwise_cons.mpr ⟨fun other hOther => ?_, ih.filter _⟩
    have hNe : other.offset ≠ first.offset := by simpa using List.of_mem_filter hOther
    exact hNe.symm

/-- The tokens of a line stand one after the other. -/
theorem tokensOf_ascend (line : List Char) (records : List Record) :
    (tokensOf line records).Pairwise fun a b => a.offset < b.offset := by
  have hSorted : (tokensOf line records).Pairwise fun a b => decide (a.offset ≤ b.offset) = true :=
    List.pairwise_mergeSort (fun a b c hab hbc => by simp only [decide_eq_true_eq] at *; omega)
      (fun a b => by simp only [Bool.or_eq_true, decide_eq_true_eq]; omega) _
  have hDistinct : (tokensOf line records).Pairwise fun a b => a.offset ≠ b.offset :=
    (distinctTokens_pairwise _).perm (List.mergeSort_perm _ _).symm fun hNe => hNe.symm
  exact (hSorted.and hDistinct).imp fun ⟨hLe, hNe⟩ =>
    Nat.lt_of_le_of_ne (of_decide_eq_true hLe) hNe

/-- The tokens at which a line is cut. -/
def cutTokens (line : List Char) (position : Nat) (found : List Token) : List Token :=
  (cutAt line position found).2.map Prod.fst

/-- A token is passed over if one before it reaches beyond its place. -/
theorem cutTokens_cons (line : List Char) (position : Nat) (token : Token) (rest : List Token) :
    cutTokens line position (token :: rest) =
      if token.offset < position then cutTokens line position rest
      else token :: cutTokens line (token.offset + token.text.length) rest := by
  rw [cutTokens, cutAt]
  split_ifs <;> rfl

/-- A line is cut at each token that no earlier one of these reaches into. -/
theorem mem_cutTokens_iff (hFound : found.Pairwise fun a b => a.offset < b.offset) :
    token ∈ cutTokens line position found ↔
      token ∈ found ∧ position ≤ token.offset ∧
        ∀ other ∈ cutTokens line position found, other.offset < token.offset →
          other.offset + other.text.length ≤ token.offset := by
  induction found generalizing position token with
  | nil => simp [cutTokens, cutAt]
  | cons first rest ih =>
    obtain ⟨hFirst, hRest⟩ := List.pairwise_cons.mp hFound
    rw [cutTokens_cons]
    split_ifs with hOverlap
    · rw [ih hRest, List.mem_cons]
      constructor
      · rintro ⟨hMem, hLater⟩
        exact ⟨.inr hMem, hLater⟩
      · rintro ⟨rfl | hMem, hPosition, hOthers⟩
        · omega
        · exact ⟨hMem, hPosition, hOthers⟩
    · rw [List.mem_cons, List.mem_cons, List.forall_mem_cons, ih hRest]
      constructor
      · rintro (rfl | ⟨hMem, hPosition, hOthers⟩)
        · refine ⟨.inl rfl, by omega, fun hLt => absurd hLt (lt_irrefl _), ?_⟩
          -- What follows the first token does not come before it.
          intro other hOther hLt
          have hLater := hFirst other ((ih hRest).mp hOther).1
          omega
        · exact ⟨.inr hMem, by omega, fun _ => hPosition, hOthers⟩
      · rintro ⟨rfl | hMem, hPosition, hBefore, hOthers⟩
        · exact .inl rfl
        · exact .inr ⟨hMem, hBefore (hFirst token hMem), hOthers⟩

/-- The tokens that are broken out of a line. -/
def brokenOut (line : List Char) (records : List Record) : List Token :=
  cutTokens line 0 (tokensOf line records)

/-- No token that is broken out before a place reaches beyond it. -/
def IsFree (line : List Char) (records : List Record) (offset : Nat) : Prop :=
  ∀ other ∈ brokenOut line records, other.offset < offset →
    other.offset + other.text.length ≤ offset

/-- The tokens that are broken out are those at a free place. -/
theorem mem_brokenOut_iff :
    token ∈ brokenOut line records ↔
      token ∈ tokensOf line records ∧ IsFree line records token.offset := by
  rw [brokenOut, mem_cutTokens_iff (tokensOf_ascend line records)]
  simp [IsFree, brokenOut]

/-- Whether a record asks for a place of a line: it is shown, and its name is first a word there. -/
def asksFor (line : List Char) (offset : Nat) (record : Record) : Bool :=
  mark record ≠ "" ∧ wordOffset? record.lastSegment.toList line = some offset

theorem asksFor_iff :
    asksFor line offset record = true ↔
      mark record ≠ "" ∧ wordOffset? record.lastSegment.toList line = some offset := by
  simp [asksFor]

theorem tokenOf?_eq_some_of_asksFor (hAsks : asksFor line offset record = true) :
    tokenOf? line record = some ⟨offset, mark record, record.lastSegment.toList⟩ := by
  obtain ⟨hMark, hOffset⟩ := asksFor_iff.mp hAsks
  exact tokenOf?_eq_some_iff.mpr ⟨hMark, hOffset, rfl, rfl⟩

/-- The token at a place is that of the first record that asks for it. -/
theorem mem_tokensOf_iff :
    token ∈ tokensOf line records ↔
      ∃ holder, records.find? (asksFor line token.offset) = some holder ∧
        token.mark = mark holder ∧ token.text = holder.lastSegment.toList := by
  have hTest (record : Record) : (tokenOf? line record).any (fun other =>
      decide (other.offset = token.offset)) = asksFor line token.offset record := by
    rw [Bool.eq_iff_iff, Option.any_eq_true, asksFor_iff]
    constructor
    · rintro ⟨other, hOther, hPlace⟩
      obtain ⟨hMark, hOffset, -⟩ := tokenOf?_eq_some_iff.mp hOther
      exact ⟨hMark, by rw [hOffset, of_decide_eq_true hPlace]⟩
    · intro hAsks
      exact ⟨_, tokenOf?_eq_some_of_asksFor (asksFor_iff.mpr hAsks), by simp⟩
  rw [tokensOf, List.mem_mergeSort, mem_distinctTokens_iff, List.find?_filterMap, funext hTest,
    Option.bind_eq_some_iff]
  refine exists_congr fun holder => and_congr_right fun hHolder => ?_
  rw [tokenOf?_eq_some_of_asksFor (List.find?_some hHolder)]
  cases token
  simp [eq_comm]

/-! Definition marks -/

/-- The marks of definitions. -/
def definitionMarks : List String := ["$", "c", "t", "g"]

/-- A name is broken out of a rendered line behind the mark of a definition. -/
def ShowsDefinition (text name : String) : Prop :=
  ∃ mark ∈ definitionMarks, '\t' :: mark.toList ++ name.toList ∈ splitAt '\n' text.toList

/-- The marks of definitions are those of the table of definitions. -/
theorem mark_mem_definitionMarks_iff :
    mark record ∈ definitionMarks ↔ record.table = defsTable := by
  by_cases hTable : record.table = defsTable
  · rw [mark, if_pos hTable]
    refine iff_of_true ?_ hTable
    split <;> decide
  · refine iff_of_false ?_ hTable
    rw [mark, if_neg hTable]
    split_ifs <;> decide

/-- A mark of a definition is not the start of another mark. -/
theorem append_mark_inj {first second : String} (hFirst : first ∈ definitionMarks)
    (hSecond : second ∈ shownMarks) {rest others : List Char}
    (hSame : first.toList ++ rest = second.toList ++ others) : first = second ∧ rest = others := by
  have hMarks : ∀ first ∈ definitionMarks, ∀ second ∈ shownMarks,
      first.toList.length = 1 ∧ second.toList ≠ [] ∧
        (first.toList.head? = second.toList.head? → first = second) := by decide
  obtain ⟨hOne, hFilled, hHead⟩ := hMarks first hFirst second hSecond
  obtain ⟨c, hc⟩ := List.length_eq_one_iff.mp hOne
  obtain ⟨d, ds, hd⟩ := List.exists_cons_of_ne_nil hFilled
  have hMark : first = second := by
    apply hHead
    rw [hc, hd] at hSame ⊢
    simpa using (List.cons.inj hSame).1
  subst hMark
  exact ⟨rfl, List.append_cancel_left hSame⟩

variable {lineNo : Int} {source text name : String}

/-- A line that begins with a tabulator is that of a token. -/
theorem mem_renderedLines_iff (hLine : ∀ c ∈ line, IsPlain c)
    (hFound : ∀ token ∈ found, token.Fits line) {written : List Char} :
    '\t' :: written ∈ renderedLines lineNo line found ++ [[]] ↔
      ∃ token ∈ cutTokens line 0 found, written = token.mark.toList ++ token.text := by
  have hPlain {part : List Char}
      (hPart : part ∈ (cutAt line 0 found).1 :: (cutAt line 0 found).2.map Prod.snd) :
      '\t' :: written ≠ part := by
    rintro rfl
    exact (hLine _ (mem_of_mem_cutAt_text hFound hPart List.mem_cons_self)).2 rfl
  have hNumber : '\t' :: written ≠
      (toString lineNo ++ " ").toList ++ (cutAt line 0 found).1 := by
    intro hSame
    have hSpace : (toString lineNo ++ " ").toList ≠ [] := by simp
    obtain ⟨c, rest, hStart⟩ := List.exists_cons_of_ne_nil hSpace
    rw [hStart] at hSame
    refine (isPlain_lineNo lineNo c (by rw [hStart]; exact List.mem_cons_self)).2 ?_
    exact (List.cons.inj hSame).1.symm
  simp only [renderedLines, List.mem_append, List.mem_cons, List.not_mem_nil, or_false,
    List.mem_flatMap, pieceLines, hNumber, false_or, reduceCtorEq]
  constructor
  · rintro ⟨piece, hPiece, hWritten | hWritten⟩
    · exact ⟨piece.1, List.mem_map_of_mem hPiece, (List.cons.inj hWritten).2⟩
    · exact absurd hWritten (hPlain (List.mem_cons_of_mem _ (List.mem_map_of_mem hPiece)))
  · rintro ⟨token, hToken, rfl⟩
    obtain ⟨piece, hPiece, rfl⟩ := List.mem_map.mp hToken
    exact ⟨piece, hPiece, .inl rfl⟩

/-- A definition is shown exactly if a token with its name and the mark of one is broken out. -/
theorem showsDefinition_iff (hNames : ∀ record ∈ records, record.name ≠ [])
    (hText : renderLine lineNo source records = .ok text) :
    ShowsDefinition text name ↔
      ∃ token ∈ brokenOut (collapse source.toList) records,
        token.mark ∈ definitionMarks ∧ token.text = name.toList := by
  by_cases hTokens : tokensOf (collapse source.toList) records = []
  · have hEmpty : text = "" := (renderLine_eq_empty_iff hNames hText).mpr hTokens
    simp [ShowsDefinition, hEmpty, brokenOut, hTokens, cutTokens, cutAt, splitAt]
  · have hFits : ∀ token ∈ tokensOf (collapse source.toList) records,
        token.Fits (collapse source.toList) := fun token => fits_of_mem_tokensOf
    simp only [ShowsDefinition, splitAt_renderLine hNames hText hTokens, List.cons_append,
      brokenOut, mem_renderedLines_iff (fun c => isPlain_of_mem_collapse) hFits]
    constructor
    · rintro ⟨mark, hMark, token, hToken, hSame⟩
      have hShown := (hFits token (mem_brokenOut_iff.mp hToken).1).1
      obtain ⟨rfl, hName⟩ := append_mark_inj hMark hShown hSame
      exact ⟨token, hToken, hMark, hName.symm⟩
    · rintro ⟨token, hToken, hMark, hName⟩
      exact ⟨token.mark, hMark, token, hToken, by rw [hName]⟩

/-- A definition is shown exactly if the first record that asks for its place is a definition of
that name, and no name before it reaches beyond the place. -/
theorem showsDefinition_iff_holder (hNames : ∀ record ∈ records, record.name ≠ [])
    (hText : renderLine lineNo source records = .ok text)
    (hOffset : wordOffset? name.toList (collapse source.toList) = some offset) :
    ShowsDefinition text name ↔
      (∃ holder, records.find? (asksFor (collapse source.toList) offset) = some holder ∧
        holder.table = defsTable ∧ holder.lastSegment = name) ∧
      IsFree (collapse source.toList) records offset := by
  rw [showsDefinition_iff hNames hText]
  constructor
  · rintro ⟨token, hToken, hMark, hName⟩
    obtain ⟨hMem, hFree⟩ := mem_brokenOut_iff.mp hToken
    obtain ⟨holder, hHolder, hTokenMark, hTokenText⟩ := mem_tokensOf_iff.mp hMem
    have hSame : holder.lastSegment = name := String.toList_inj.mp (hTokenText.symm.trans hName)
    -- A name asks for one place only, which is the one given.
    have hPlace : token.offset = offset := by
      have hAsked := (asksFor_iff.mp (List.find?_some hHolder)).2
      rw [hSame, hOffset] at hAsked
      exact (Option.some.inj hAsked).symm
    rw [hPlace] at hHolder hFree
    exact ⟨⟨holder, hHolder, mark_mem_definitionMarks_iff.mp (hTokenMark ▸ hMark), hSame⟩, hFree⟩
  · rintro ⟨⟨holder, hHolder, hTable, hName⟩, hFree⟩
    refine ⟨⟨offset, mark holder, holder.lastSegment.toList⟩, ?_,
      mark_mem_definitionMarks_iff.mpr hTable, by rw [hName]⟩
    exact mem_brokenOut_iff.mpr ⟨mem_tokensOf_iff.mpr ⟨holder, hHolder, rfl, rfl⟩, hFree⟩

/-! Names of word characters -/

/-- All characters are word characters. -/
def IsWordText (text : List Char) : Prop := ∀ c ∈ text, isWord c = true

variable {first second : List Char} {start : Nat}

/-- A name of word characters ends before the next whole word. -/
theorem IsWordAt.end_le (hFirst : IsWordAt first line start) (hWords : IsWordText first)
    (hSecond : IsWordAt second line offset) (hLt : start < offset) :
    start + first.length ≤ offset := by
  obtain ⟨before, after, hLine, rfl, -⟩ := hFirst
  obtain ⟨past, rest, hOther, rfl, hLast, -⟩ := hSecond
  by_contra hInside
  -- The character before the second name would belong to the first one.
  have hPast : past = before ++ first.take (past.length - before.length) := by
    have hTake := congrArg (List.take past.length) (hLine.symm.trans hOther)
    rw [List.append_assoc, List.append_assoc, List.take_left, List.take_append,
      List.take_of_length_le (by omega), List.take_append_of_le_length (by omega)] at hTake
    exact hTake.symm
  have hFilled : first.take (past.length - before.length) ≠ [] := by
    rw [ne_eq, List.take_eq_nil_iff, not_or]
    refine ⟨by omega, ?_⟩
    rintro rfl
    simp only [List.length_nil] at hInside
    omega
  rw [hPast, List.getLast?_append_of_ne_nil _ hFilled,
    List.getLast?_eq_some_getLast hFilled] at hLast
  have hWord := hWords _ (List.mem_of_mem_take (List.getLast_mem hFilled))
  simp [isWordPart, hWord] at hLast

/-- The whole word at a place is a run of word characters that cannot go on. -/
theorem IsWordAt.eq_takeWhile (hFirst : IsWordAt first line offset) (hWords : IsWordText first) :
    first = (line.drop offset).takeWhile isWord := by
  obtain ⟨before, after, rfl, rfl, -, hNext⟩ := hFirst
  rw [List.append_assoc, List.drop_left, List.takeWhile_append_of_pos hWords]
  cases after with
  | nil => simp
  | cons c rest =>
    have hEnd : isWord c = false := by simpa [isWordPart] using hNext
    simp [hEnd]

/-- A name of one character at the place of a word is a character of the word. -/
theorem IsWordAt.isWordText_of_length_one (hFirst : IsWordAt first line offset)
    (hOne : first.length = 1) (hSecond : IsWordAt second line offset) (hFilled : second ≠ [])
    (hWords : IsWordText second) : IsWordText first := by
  obtain ⟨c, rfl⟩ := List.length_eq_one_iff.mp hOne
  obtain ⟨d, rest, rfl⟩ := List.exists_cons_of_ne_nil hFilled
  obtain ⟨before, after, rfl, rfl, -⟩ := hFirst
  obtain ⟨past, later, hLine, hLength, -⟩ := hSecond
  rw [List.append_assoc, List.append_assoc] at hLine
  have hSame : c = d := (List.cons.inj (List.append_inj hLine hLength.symm).2).1
  intro e he
  rw [List.mem_singleton.mp he, hSame]
  exact hWords d List.mem_cons_self

/-- A name in a line that cannot be mistaken for a part of another: it is made of word characters or
is a single character. -/
def IsSimpleName (name : String) : Prop := IsWordText name.toList ∨ name.toList.length = 1

/-- Between names of this kind no place is taken by an earlier name. -/
theorem isFree_of_isSimpleName
    (hNames : ∀ record ∈ records, mark record ≠ "" → IsSimpleName record.lastSegment)
    (hWord : IsWordAt second line offset) : IsFree line records offset := by
  intro other hOther hLt
  obtain ⟨record, hRecord, hToken⟩ :=
    exists_record_of_mem_tokensOf (mem_brokenOut_iff.mp hOther).1
  obtain ⟨hMark, hOffset, -, hText⟩ := tokenOf?_eq_some_iff.mp hToken
  rw [hText]
  rcases hNames record hRecord hMark with hWords | hOne
  · exact (wordOffset?_eq_some_iff.mp hOffset).1.end_le hWords hWord hLt
  · omega

/-- The first record that asks for the place of a word has the word as its name. -/
theorem lastSegment_of_asksFor {name : String} (hAsks : asksFor line offset record = true)
    (hRecord : IsSimpleName record.lastSegment) (hWord : IsWordAt name.toList line offset)
    (hFilled : name ≠ "") (hWords : IsWordText name.toList) : record.lastSegment = name := by
  have hPlace := (wordOffset?_eq_some_iff.mp (asksFor_iff.mp hAsks).2).1
  have hRecordWords : IsWordText record.lastSegment.toList := by
    rcases hRecord with hRecord | hOne
    · exact hRecord
    · exact hPlace.isWordText_of_length_one hOne hWord (by simpa using hFilled) hWords
  rw [← String.toList_inj, hPlace.eq_takeWhile hRecordWords, hWord.eq_takeWhile hWords]

/-- Shown records whose table does not come after that of definitions. -/
theorem table_of_le_defsTable (hMark : mark record ≠ "") (hTable : record.table ≤ defsTable) :
    record.table = assignsTable ∨ record.table = callsTable ∨ record.table = defsTable := by
  rw [mark] at hMark
  split_ifs at hMark with hDefs hCalls hAssigns hImports hEnd
  · exact .inr (.inr hDefs)
  · exact .inr (.inl hCalls)
  · exact .inl hAssigns
  · rw [hImports] at hTable
    exact absurd hTable (by decide)
  · rw [hEnd.1] at hTable
    exact absurd hTable (by decide)
  · exact absurd rfl hMark

theorem mark_ne_empty_of_table (hTable : record.table = assignsTable ∨ record.table = callsTable ∨
    record.table = defsTable) : mark record ≠ "" := by
  rcases hTable with hTable | hTable | hTable
  · rw [mark, hTable, if_neg (by decide), if_neg (by decide), if_pos rfl]
    decide
  · rw [mark, hTable, if_neg (by decide), if_pos rfl]
    decide
  · rw [mark, if_pos hTable]
    split <;> decide

/-- Where names are simple, a definition is shown exactly if no assignment and no call of the same
name share its line. -/
theorem holder_iff_of_isSimpleName {definition : Record}
    (hOrder : records.Pairwise fun a b => a.table ≤ b.table)
    (hNames : ∀ record ∈ records, mark record ≠ "" → IsSimpleName record.lastSegment)
    (hDefinition : definition ∈ records) (hTable : definition.table = defsTable)
    (hOffset : wordOffset? definition.lastSegment.toList line = some offset)
    (hFilled : definition.lastSegment ≠ "") (hWords : IsWordText definition.lastSegment.toList) :
    (∃ holder, records.find? (asksFor line offset) = some holder ∧ holder.table = defsTable ∧
        holder.lastSegment = definition.lastSegment) ↔
      ∀ other ∈ records, other.table = assignsTable ∨ other.table = callsTable →
        other.lastSegment ≠ definition.lastSegment := by
  have hAsks {other : Record} (hMark : mark other ≠ "")
      (hSame : other.lastSegment = definition.lastSegment) : asksFor line offset other = true :=
    asksFor_iff.mpr ⟨hMark, by rw [hSame, hOffset]⟩
  have hOwn := hAsks (mark_ne_empty_of_table (.inr (.inr hTable))) rfl
  constructor
  · rintro ⟨holder, hHolder, hHolderTable, -⟩ other hOther hEarlier hSame
    have hMark := mark_ne_empty_of_table (hEarlier.imp_right .inl)
    rcases rel_of_find?_eq_some hOrder hHolder hOther (hAsks hMark hSame) with rfl | hLe
    · rw [hHolderTable] at hEarlier
      exact absurd hEarlier (by decide)
    · rw [hHolderTable] at hLe
      rcases hEarlier with hEarlier | hEarlier
      · exact absurd (hEarlier ▸ hLe) (by decide)
      · exact absurd (hEarlier ▸ hLe) (by decide)
  · intro hNone
    obtain ⟨holder, hHolder⟩ : ∃ holder, records.find? (asksFor line offset) = some holder :=
      Option.isSome_iff_exists.mp (List.find?_isSome.mpr ⟨definition, hDefinition, hOwn⟩)
    have hMem := List.mem_of_find?_eq_some hHolder
    have hPlace := List.find?_some hHolder
    have hMark := (asksFor_iff.mp hPlace).1
    have hSame : holder.lastSegment = definition.lastSegment :=
      lastSegment_of_asksFor hPlace (hNames holder hMem hMark)
        (wordOffset?_eq_some_iff.mp hOffset).1 hFilled hWords
    refine ⟨holder, hHolder, ?_, hSame⟩
    have hLe : holder.table ≤ defsTable := by
      rcases rel_of_find?_eq_some hOrder hHolder hDefinition hOwn with rfl | hLe
      · exact hTable ▸ String.le_refl _
      · exact hTable ▸ hLe
    rcases table_of_le_defsTable hMark hLe with hHolderTable | hHolderTable | hHolderTable
    · exact absurd hSame (hNone holder hMem (.inl hHolderTable))
    · exact absurd hSame (hNone holder hMem (.inr hHolderTable))
    · exact hHolderTable

/-! Lines in the whole file -/

theorem infix_join {texts : List String} (hText : text ∈ texts) :
    text.toList <:+: (String.join texts).toList := by
  obtain ⟨before, after, rfl⟩ := List.append_of_mem hText
  rw [String.toList_join, List.flatMap_append, List.flatMap_cons, ← List.append_assoc]
  exact ⟨_, _, rfl⟩

/-- A line of the index is part of the file that is written. -/
theorem infix_render {index : LineIndex} {roots : List String} {directory file whole : String}
    {lines : List (Int × List Record)} (hWhole : render index roots directory = .ok whole)
    (hFile : (file, lines) ∈ index) (hLine : (lineNo, records) ∈ lines)
    (hSource : records.findSome? Record.line = some (.text source))
    (hText : renderLine lineNo source records = .ok text) : text.toList <:+: whole.toList := by
  obtain ⟨body, hBody, hWhole⟩ := bind_eq_ok_iff.mp hWhole
  obtain ⟨parts, hParts, hBody⟩ := bind_eq_ok_iff.mp hBody
  have hListed : (file, lines) ∈ listedFiles index :=
    mem_listedFiles_iff.mpr ⟨hFile, List.ne_nil_of_mem hLine⟩
  obtain ⟨part, hPart, hSection⟩ := exists_mem_of_mapM hParts hListed
  obtain ⟨rendered, hRendered, hSection⟩ := bind_eq_ok_iff.mp hSection
  obtain ⟨texts, hTexts, hRendered⟩ := bind_eq_ok_iff.mp hRendered
  obtain ⟨written, hWritten, hLineText⟩ := exists_mem_of_mapM hTexts (List.mem_mergeSort.mpr hLine)
  simp only [hSource] at hLineText
  obtain rfl := Except.ok.inj (hText.symm.trans hLineText)
  obtain rfl := Except.ok.inj hRendered
  obtain rfl := Except.ok.inj hSection
  obtain rfl := Except.ok.inj hBody
  obtain rfl := Except.ok.inj hWhole
  have hInPart : text.toList <:+: ("\t@" ++ file ++ "\n\n" ++ String.join texts).toList := by
    rw [String.toList_append]
    exact (infix_join hWritten).trans (List.suffix_append _ _).isInfix
  have hInBody : text.toList <:+: (String.join parts ++ "\t@\n").toList := by
    rw [String.toList_append]
    exact (hInPart.trans (infix_join hPart)).trans (List.prefix_append _ _).isInfix
  rw [String.toList_append, String.toList_append]
  exact (hInBody.trans (List.suffix_append _ _).isInfix).trans (List.prefix_append _ _).isInfix

end CrossReference

/-! The records of a line -/

namespace Database

open CrossReference

variable {database : Database}

/-- The records of a line of a file in the order in which they are taken. -/
def recordsAt (database : Database) (file : String) (lineNo : Int) : List Record :=
  (((database.byLine.lookup file).getD []).lookup lineNo).getD []

theorem lookup_addToLine (lineNo other : Int) (record : Record) (lines : List (Int × List Record)) :
    ((addToLine lineNo record lines).lookup other).getD [] =
      (lines.lookup other).getD [] ++ if lineNo = other then [record] else [] := by
  induction lines with
  | nil =>
    by_cases hLine : lineNo = other
    · simp [addToLine, hLine]
    · simp [addToLine, hLine, List.lookup_cons, beq_eq_false_iff_ne.mpr (Ne.symm hLine)]
  | cons entry rest ih =>
    obtain ⟨number, records⟩ := entry
    by_cases hNumber : number = lineNo
    · subst hNumber
      by_cases hLine : number = other
      · simp [addToLine, hLine]
      · simp [addToLine, hLine, List.lookup_cons, beq_eq_false_iff_ne.mpr (Ne.symm hLine)]
    · by_cases hOther : other = number
      · subst hOther
        simp [addToLine, hNumber, Ne.symm hNumber]
      · simp [addToLine, hNumber, List.lookup_cons, beq_eq_false_iff_ne.mpr hOther, ih]

/-- The records of each line are those with its number, in their order. -/
theorem lookup_foldl_addToLines (records : List Record) (lines : Option (List (Int × List Record)))
    (lineNo : Int) :
    (((records.foldl addToLines lines).getD []).lookup lineNo).getD [] =
      ((lines.getD []).lookup lineNo).getD [] ++
        records.filter fun record => record.lineNo = some lineNo := by
  induction records generalizing lines with
  | nil => simp
  | cons record records ih =>
    rw [List.foldl_cons, ih, addToLines, List.filter_cons]
    cases hNumber : record.lineNo with
    | none => simp
    | some number =>
      by_cases hLine : number = lineNo
      · simp [lookup_addToLine, hLine]
      · simp [lookup_addToLine, hLine]

/-- The records of a line are found among all records in their order. -/
theorem recordsAt_eq (file : String) (lineNo : Int) :
    database.recordsAt file lineNo =
      (database.allRecords.filter fun record => record.file = file).filter fun record =>
        record.lineNo = some lineNo := by
  have hLines : database.byLine.lookup file =
      (database.allRecords.filter fun record => record.file = file).foldl addToLines none := by
    rw [byLine_eq]
    exact get?_foldl_addToTable _ _ _
  rw [recordsAt, hLines, lookup_foldl_addToLines]
  rfl

/-- A line with records is in the index. -/
theorem exists_mem_byLine {file : String} {lineNo : Int}
    (hRecords : database.recordsAt file lineNo ≠ []) :
    ∃ lines, (file, lines) ∈ database.byLine ∧
      (lineNo, database.recordsAt file lineNo) ∈ lines := by
  obtain ⟨lines, hFile⟩ : ∃ lines, database.byLine.lookup file = some lines :=
    Option.ne_none_iff_exists'.mp fun hNone => hRecords (by simp [recordsAt, hNone])
  obtain ⟨records, hLine⟩ : ∃ records, lines.lookup lineNo = some records :=
    Option.ne_none_iff_exists'.mp fun hNone => hRecords (by simp [recordsAt, hFile, hNone])
  have hSame : database.recordsAt file lineNo = records := by simp [recordsAt, hFile, hLine]
  obtain ⟨before, after, hIndex, -⟩ := List.lookup_eq_some_iff.mp hFile
  obtain ⟨above, below, hLines, -⟩ := List.lookup_eq_some_iff.mp hLine
  exact ⟨lines, by simp [hIndex], by simp [hSame, hLines]⟩

/-- Every record is in the table that it names. -/
def IsFiled (database : Database) : Prop :=
  ∀ table, ∀ record ∈ database.recordsIn table, record.table = table

theorem IsSound.isFiled {past : List Scene} (hSound : IsSound past database) : database.IsFiled :=
  fun _ _ hRecord => (hSound.exists_batch hRecord).1

/-- The records of a line are in the order of their tables. -/
theorem recordsAt_tables_ascend (hFiled : database.IsFiled) (file : String) (lineNo : Int) :
    (database.recordsAt file lineNo).Pairwise fun a b => a.table ≤ b.table := by
  have hTables : database.tableNames.Pairwise (· < ·) := database.tables.inOrder_keys_ascend
  have hAll : database.allRecords.Pairwise fun a b => a.table ≤ b.table := by
    refine List.pairwise_flatMap.mpr ⟨fun table _ => ?_, hTables.imp fun hLt a ha b hb => ?_⟩
    · apply List.pairwise_of_forall_mem_list
      intro a ha b hb
      have hSame : a.table = b.table := (hFiled table a ha).trans (hFiled table b hb).symm
      exact hSame ▸ String.le_refl a.table
    · rw [hFiled _ a ha, hFiled _ b hb]
      exact Std.le_of_lt hLt
  rw [recordsAt_eq]
  exact (hAll.filter _).filter _

theorem name_ne_nil_of_mem_recordsAt (hNamed : database.IsNamed) {file : String} {lineNo : Int}
    {record : Record} (hRecord : record ∈ database.recordsAt file lineNo) : record.name ≠ [] := by
  rw [recordsAt_eq] at hRecord
  obtain ⟨table, -, hTable⟩ :=
    List.mem_flatMap.mp (List.mem_of_mem_filter (List.mem_of_mem_filter hRecord))
  exact hNamed table record hTable

/-- The line of a definition is rendered, and the rendering is part of every cross reference that is
written. The definition is shown as one exactly if, of the records that ask for the first place
where its name is a word, the first in the order of tables is a definition of this name, and no name
broken out before reaches beyond the place. Among simple names only an assignment or a call of the
same name in the same line can hide it. -/
theorem definition_shown_iff (hFiled : database.IsFiled) (hNamed : database.IsNamed)
    (file : String) (lineNo : Int) (source : String)
    (hSource : (database.recordsAt file lineNo).findSome? Record.line = some (.text source)) :
    ∃ text, renderLine lineNo source (database.recordsAt file lineNo) = .ok text ∧
      (∀ directory whole, database.crossReferenceText directory = .ok whole →
        text.toList <:+: whole.toList) ∧
      ∀ definition ∈ database.recordsAt file lineNo, definition.table = defsTable → ∀ offset,
        IsWordAt definition.lastSegment.toList (collapse source.toList) offset →
        (∀ earlier < offset,
          ¬ IsWordAt definition.lastSegment.toList (collapse source.toList) earlier) →
        (ShowsDefinition text definition.lastSegment ↔
          (∃ holder, (database.recordsAt file lineNo).find?
              (asksFor (collapse source.toList) offset) = some holder ∧
            holder.table = defsTable ∧ holder.lastSegment = definition.lastSegment) ∧
          IsFree (collapse source.toList) (database.recordsAt file lineNo) offset) ∧
        (definition.lastSegment ≠ "" → IsWordText definition.lastSegment.toList →
          (∀ other ∈ database.recordsAt file lineNo, mark other ≠ "" →
            IsSimpleName other.lastSegment) →
          (ShowsDefinition text definition.lastSegment ↔
            ∀ other ∈ database.recordsAt file lineNo,
              other.table = assignsTable ∨ other.table = callsTable →
                other.lastSegment ≠ definition.lastSegment)) := by
  set records := database.recordsAt file lineNo
  have hNames : ∀ record ∈ records, record.name ≠ [] :=
    fun record => name_ne_nil_of_mem_recordsAt hNamed
  have hText : renderLine lineNo source records = _ := renderLine_eq hNames
  refine ⟨_, hText, fun directory whole hWhole => ?_, ?_⟩
  · have hFilled : records ≠ [] := by
      intro hNone
      simp [hNone] at hSource
    obtain ⟨lines, hFile, hLine⟩ := exists_mem_byLine hFilled
    exact infix_render hWhole hFile hLine hSource hText
  · intro definition hDefinition hTable offset hWord hFirst
    have hOffset := wordOffset?_eq_some_iff.mpr ⟨hWord, hFirst⟩
    have hHolder := showsDefinition_iff_holder hNames hText hOffset
    refine ⟨hHolder, fun hFilled hWords hSimple => ?_⟩
    rw [hHolder, holder_iff_of_isSimpleName (recordsAt_tables_ascend hFiled file lineNo) hSimple
      hDefinition hTable hOffset hFilled hWords]
    exact and_iff_left (isFree_of_isSimpleName hSimple hWord)

/-- A file of two functions in a line each. Both call the first one. -/
def callsScene : Scene :=
  ⟨[.go], { entries := [(["a.go"], .file
    (Utf8.encode "func f() \x7b f() \x7d\nfunc g() \x7b f() \x7d\n") 1000)] }⟩

/-- The database of this file. -/
def callsScan : Database := (addPaths callsScene.extractors callsScene.tree {} ["a.go"]).database

theorem callsScan_isSound : IsSound [callsScene] callsScan :=
  (Reachable.addPaths callsScene ["a.go"] .empty).isSound

/-- A line that defines a function and calls the first one. -/
def callLine (name : String) : String := "func " ++ name ++ "() \x7b f() \x7d"

/-- The records of such a line. -/
def callLineRecords (name : String) (lineNo : Int) : List Record :=
  [⟨callsTable, ["f"], "a.go", some lineNo, some (.text (callLine name)), none, none⟩,
    ⟨defsTable, [name], "a.go", some lineNo, some (.text (callLine name)), some "func", none⟩]

theorem callsScan_recordsAt :
    callsScan.recordsAt "a.go" 1 = callLineRecords "f" 1 ∧
      callsScan.recordsAt "a.go" 2 = callLineRecords "g" 2 := by
  have hTables : callsScan.tableNames = ["calls", "defs"] := by
    have hEntries : callsScan.tables.entries =
        [("defs", callsScan.recordsIn "defs"), ("calls", callsScan.recordsIn "calls")] := rfl
    rw [tableNames, Table.sorted, hEntries]
    simp [List.mergeSort]
  have hCalls : callsScan.recordsIn "calls" =
      [(callLineRecords "f" 1)[0], (callLineRecords "g" 2)[0]] := rfl
  have hDefs : callsScan.recordsIn "defs" =
      [(callLineRecords "f" 1)[1], (callLineRecords "g" 2)[1]] := rfl
  rw [recordsAt_eq, recordsAt_eq, allRecords, hTables]
  simp [hCalls, hDefs, callLineRecords]

/-- A definition is shown although the line holds a call as well, since the call is of another name.
-/
theorem secondFunction_shown :
    callsScan.IsFiled ∧ callsScan.IsNamed ∧
    (callsScan.recordsAt "a.go" 2).findSome? Record.line = some (.text (callLine "g")) ∧
    ∃ text, renderLine 2 (callLine "g") (callsScan.recordsAt "a.go" 2) = .ok text ∧
      ShowsDefinition text "g" := by
  have hSource : (callsScan.recordsAt "a.go" 2).findSome? Record.line =
      some (.text (callLine "g")) := by
    rw [callsScan_recordsAt.2]
    rfl
  obtain ⟨text, hText, -, hShown⟩ := definition_shown_iff callsScan_isSound.isFiled
    callsScan_isSound.isNamed "a.go" 2 (callLine "g") hSource
  refine ⟨callsScan_isSound.isFiled, callsScan_isSound.isNamed, hSource, text, hText, ?_⟩
  have hOffset : wordOffset? "g".toList (collapse (callLine "g").toList) = some 5 := by
    decide +kernel
  obtain ⟨hWord, hFirst⟩ := wordOffset?_eq_some_iff.mp hOffset
  have hName : (callLineRecords "g" 2)[1].lastSegment = "g" := rfl
  have hCall : (callLineRecords "g" 2)[0].lastSegment = "f" := rfl
  have hEach {p : Record → Prop} (hFirst : p (callLineRecords "g" 2)[0])
      (hSecond : p (callLineRecords "g" 2)[1]) : ∀ other ∈ callLineRecords "g" 2, p other :=
    List.forall_mem_cons.mpr ⟨hFirst, List.forall_mem_cons.mpr ⟨hSecond, nofun⟩⟩
  rw [callsScan_recordsAt.2] at hShown
  have hDefinition := hShown (callLineRecords "g" 2)[1] (List.getElem_mem _) rfl 5
  rw [hName] at hDefinition
  refine ((hDefinition hWord hFirst).2 (by decide) ?_ (hEach ?_ ?_)).mpr (hEach ?_ ?_)
  · have hLetter : isWord 'g' = true := by decide +kernel
    simpa [IsWordText] using hLetter
  · exact fun _ => .inr (by rw [hCall]; decide)
  · exact fun _ => .inr (by rw [hName]; decide)
  · exact fun _ => by rw [hCall]; decide
  · exact fun hTable => absurd hTable (by decide)

/-- A call of the same name in the line of a definition takes its place, because calls come before
definitions. -/
theorem selfCall_hides_definition :
    Reachable [callsScene] callsScan ∧
    (callsScan.recordsAt "a.go" 1).findSome? Record.line = some (.text (callLine "f")) ∧
    ∃ definition ∈ callsScan.recordsAt "a.go" 1, definition.table = defsTable ∧
      definition.lastSegment = "f" ∧ IsWordAt "f".toList (collapse (callLine "f").toList) 5 ∧
      ∃ text, renderLine 1 (callLine "f") (callsScan.recordsAt "a.go" 1) = .ok text ∧
        ¬ ShowsDefinition text "f" := by
  have hNames : ∀ record ∈ callLineRecords "f" 1, record.name ≠ [] := by simp [callLineRecords]
  have hOffset : wordOffset? "f".toList (collapse (callLine "f").toList) = some 5 := by
    decide +kernel
  have hCall : asksFor (collapse (callLine "f").toList) 5 (callLineRecords "f" 1)[0] = true := by
    have hName : (callLineRecords "f" 1)[0].lastSegment = "f" := rfl
    rw [asksFor_iff, hName]
    exact ⟨by decide, hOffset⟩
  have hFirst : (callLineRecords "f" 1).find? (asksFor (collapse (callLine "f").toList) 5) =
      some (callLineRecords "f" 1)[0] := List.find?_cons_of_pos hCall
  rw [callsScan_recordsAt.1]
  refine ⟨.addPaths callsScene ["a.go"] .empty, rfl, (callLineRecords "f" 1)[1],
    List.getElem_mem _, rfl, rfl, (wordOffset?_eq_some_iff.mp hOffset).1, _,
    renderLine_eq hNames, ?_⟩
  rw [showsDefinition_iff_holder hNames (renderLine_eq hNames) hOffset, hFirst]
  rintro ⟨⟨holder, hHolder, hTable, -⟩, -⟩
  obtain rfl := Option.some.inj hHolder
  exact absurd hTable (by decide)

end Database

end CodeIndex
