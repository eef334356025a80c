import CodeIndex.Proofs.GoComments
import CodeIndex.Proofs.GoLiterals
import CodeIndex.Proofs.GoPadding

/-! The layout of a Go file does not matter for its index: neither the spaces and tabs at the ends
of its lines nor the characters that end them. The scanner does the same for a line with one more
blank at its end, whatever surrounds the line, and so it does for all lines with any number of
them. -/
namespace CodeIndex.Go

/-! Physical lines -/

theorem not_mem_append_padding {c : Char} (hc : ¬IsPadding c) {line padding : List Char}
    (hLine : c ∉ line) (hPadding : ∀ d ∈ padding, IsPadding d) : c ∉ line ++ padding := by
  intro hMem
  rcases List.mem_append.mp hMem with hMem | hMem
  · exact hLine hMem
  · exact hc (hPadding c hMem)

section Lines

variable {blank : Char} (hBlank : IsPadding blank)
include hBlank

/-- The lexer of marks finds the same with one more blank at the end of a line, which may be left
behind the code. -/
theorem markFrom_concat (zone : Zone) (line : List Char) :
    ∃ tail, (tail = [] ∨ tail = [blank]) ∧
      markFrom zone (line ++ [blank]) =
        ((markFrom zone line).1 ++ tail, (markFrom zone line).2) := by
  have hSlash : blank ≠ '/' := hBlank.ne (by decide)
  have hStar : blank ≠ '*' := hBlank.ne (by decide)
  -- the blank is left behind code that goes to the end of the line, and nowhere else
  fun_induction markFrom zone line with
  | case1 | case5 | case6 => exact ⟨[], .inl rfl, rfl⟩
  | case2 rest ih => exact ih
  | case10 rest ih => exact ih
  | case3 c rest hLine hOpen ih =>
    obtain ⟨tail, hTail, hRest⟩ := ih
    refine ⟨tail, hTail, ?_⟩
    rw [List.cons_append, markFrom, hRest]
    · rfl
    · exact fun tail hFirst => ne_cons_concat (hLine · hFirst) hSlash tail
    · exact fun tail hFirst => ne_cons_concat (hOpen · hFirst) hStar tail
  | case4 =>
    refine ⟨[blank], .inr rfl, ?_⟩
    rw [List.nil_append, markFrom]
    · rfl
    · exact fun _ _ hRest => List.cons_ne_nil _ _ hRest.symm
    · exact fun _ _ hRest => List.cons_ne_nil _ _ hRest.symm
  | case7 rest hNext ih =>
    obtain ⟨tail, hTail, hRest⟩ := ih
    refine ⟨tail, hTail, ?_⟩
    rw [List.cons_append, List.cons_append, markFrom, hRest]
    · rfl
    · exact ne_cons_concat hNext hSlash
  | case8 c rest hLine hLines hClose ih =>
    obtain ⟨tail, hTail, hRest⟩ := ih
    refine ⟨tail, hTail, ?_⟩
    rw [List.cons_append, markFrom, hRest]
    · exact fun tail hFirst => ne_cons_concat (hLine · hFirst) hSlash tail
    · exact fun tail hFirst => ne_cons_concat (hClose · hFirst) hSlash _
    · exact fun tail hFirst => ne_cons_concat (hClose · hFirst) hSlash tail
  | case9 =>
    refine ⟨[], .inl rfl, ?_⟩
    rw [List.nil_append, markFrom]
    · rfl
    all_goals exact fun _ _ hRest => List.cons_ne_nil _ _ hRest.symm
  | case11 c rest hClose ih =>
    obtain ⟨tail, hTail, hRest⟩ := ih
    refine ⟨tail, hTail, ?_⟩
    rw [List.cons_append, markFrom, hRest]
    exact fun tail hFirst => ne_cons_concat (hClose · hFirst) hSlash tail
  | case12 =>
    refine ⟨[], .inl rfl, ?_⟩
    rw [List.nil_append, markFrom]
    · rfl
    · exact fun _ _ hRest => List.cons_ne_nil _ _ hRest.symm

theorem IgnoresPadding.append {α : Type} {read : List Char → α} (hRead : IgnoresPadding read)
    {tail : List Char} (hTail : tail = [] ∨ tail = [blank]) (text : List Char) :
    read (text ++ tail) = read text := by
  rcases hTail with rfl | rfl
  · rw [List.append_nil]
  · exact hRead text blank hBlank

/-- Padding behind code stays behind it when literals are blanked, unless it is in a literal that is
never closed and goes with it. -/
theorem blankLiterals_append {tail : List Char} (hTail : tail = [] ∨ tail = [blank])
    (code : List Char) :
    ∃ rest, (rest = [] ∨ rest = [blank]) ∧
      blankLiterals (code ++ tail) = blankLiterals code ++ rest := by
  refine ⟨_, ?_, blankFrom_append .outside code tail⟩
  rcases hTail with rfl | rfl
  · rw [blankFrom]
    exact .inl rfl
  · have hQuote : blank ≠ '"' := hBlank.ne (by decide)
    have hSlash : blank ≠ '\\' := hBlank.ne (by decide)
    cases code.foldl LiteralMode.next .outside with
    | outside => simp [blankFrom, hQuote]
    | inside => simp [blankFrom, hQuote, hSlash]
    | escaped => simp [blankFrom]

/-- What the scan does with the code of a line does not depend on padding behind it. -/
theorem scanFound_append (state : ScanState) (lineNo : Int) {tail : List Char}
    (hTail : tail = [] ∨ tail = [blank]) (found : List Char × Bool) :
    scanFound state lineNo (found.1 ++ tail, found.2) = scanFound state lineNo found := by
  obtain ⟨rest, hRest, hBlanked⟩ := blankLiterals_append hBlank hTail found.1
  have hScan := scanCode_ignores state lineNo
  have hCode : scanCode state lineNo
        (if state.mode? = some .importGroup || startsImport (found.1 ++ tail) then found.1 ++ tail
          else blankLiterals (found.1 ++ tail)) =
      scanCode state lineNo
        (if state.mode? = some .importGroup || startsImport found.1 then found.1
          else blankLiterals found.1) := by
    rw [startsImport_ignores.append hBlank hTail, hBlanked]
    split_ifs
    · exact hScan.append hBlank hTail _
    · exact hScan.append hBlank hRest _
  rw [scanFound, scanFound]
  dsimp only
  rw [hCode]

/-- One more blank at the end of a physical line changes nothing, whatever surrounds the line. -/
theorem scanLine_concat (state : ScanState) (lineNo : Int) {line : List Char}
    (hLine : '\n' ∉ line) :
    scanLine state lineNo (line ++ [blank]) = scanLine state lineNo line := by
  have hPadded : '\n' ∉ line ++ [blank] :=
    not_mem_append_padding (by decide) hLine (List.forall_mem_singleton.mpr hBlank)
  have hFound (state : ScanState) (inside : Bool) :
      scanFound state lineNo (markLine inside (line ++ [blank])) =
        scanFound state lineNo (markLine inside line) := by
    obtain ⟨tail, hTail, hMark⟩ := markFrom_concat hBlank (if inside then .carried else .code) line
    rw [markLine, hMark]
    exact scanFound_append hBlank state lineNo hTail _
  have hClose : ['*', '/'] <:+: line ++ [blank] ↔ ['*', '/'] <:+: line := by
    rw [List.infix_concat_iff, or_iff_right_iff_imp]
    rintro ⟨before, hEnd⟩
    have hLast := congrArg List.getLast? hEnd
    rw [List.getLast?_concat, List.getLast?_append] at hLast
    exact absurd (Option.some.inj hLast).symm (hBlank.ne (by decide))
  rw [scanLine_eq_scanFound state lineNo hPadded, scanLine_eq_scanFound state lineNo hLine, hFound,
    hFound]
  simp only [hClose]

end Lines

/-- A line without line ends, and the blanks that it is padded with. -/
structure PaddedLine where
  line : List Char
  padding : List Char
  noFeed : '\n' ∉ line
  noReturn : '\r' ∉ line
  isPadding : ∀ c ∈ padding, IsPadding c

/-- The line with its padding. -/
def PaddedLine.chars (padded : PaddedLine) : List Char := padded.line ++ padded.padding

/-- Padding at the end of a physical line changes nothing, whatever surrounds the line. -/
theorem scanLine_append_padding (state : ScanState) (lineNo : Int) {line padding : List Char}
    (hLine : '\n' ∉ line) (hPadding : ∀ c ∈ padding, IsPadding c) :
    scanLine state lineNo (line ++ padding) = scanLine state lineNo line := by
  induction padding generalizing line with
  | nil => rw [List.append_nil]
  | cons blank padding ih =>
    obtain ⟨hBlank, hRest⟩ := List.forall_mem_cons.mp hPadding
    have hPadded : '\n' ∉ line ++ [blank] :=
      not_mem_append_padding (by decide) hLine (List.forall_mem_singleton.mpr hBlank)
    rw [List.append_cons, ih hPadded hRest, scanLine_concat hBlank state lineNo hLine]

/-- Lines with padding give the facts of the lines without. The induction is on the lines, and the
state is the same after each. -/
theorem scanLines_padded (state : ScanState) (lineNo : Int) (lines : List PaddedLine) :
    scanLines state lineNo (lines.map PaddedLine.chars) =
      scanLines state lineNo (lines.map PaddedLine.line) := by
  induction lines generalizing state lineNo with
  | nil => rfl
  | cons padded lines ih =>
    have hFirst : scanLine state lineNo padded.chars = scanLine state lineNo padded.line :=
      scanLine_append_padding state lineNo padded.noFeed padded.isPadding
    rw [List.map_cons, List.map_cons, scanLines, scanLines, hFirst]
    exact congrArg _ (ih _ _)

/-! Line ends -/

/-- The ways to end a line. -/
inductive LineEnd where
  | feed
  | returnFeed
  | carriageReturn
  deriving DecidableEq, Repr

/-- The characters that end a line. -/
def LineEnd.chars : LineEnd → List Char
  | .feed => ['\n']
  | .returnFeed => ['\r', '\n']
  | .carriageReturn => ['\r']

/-- A line end is unified unless what follows makes it longer. -/
theorem unifyLineEnds_lineEnd {ending : LineEnd} {rest : List Char}
    (hRest : ending = .carriageReturn → rest.head? ≠ some '\n') :
    unifyLineEnds (ending.chars ++ rest) = '\n' :: unifyLineEnds rest := by
  cases ending with
  | feed => exact unifyLineEnds_cons rest (by decide)
  | returnFeed => rfl
  | carriageReturn => exact unifyLineEnds_return (hRest rfl)

theorem not_mem_intercalate {c : Char} {separator : List Char} (hSeparator : c ∉ separator)
    {lines : List (List Char)} (hLines : ∀ line ∈ lines, c ∉ line) :
    c ∉ separator.intercalate lines := by
  induction lines with
  | nil => simp
  | cons line lines ih =>
    obtain ⟨hLine, hRest⟩ := List.forall_mem_cons.mp hLines
    cases lines with
    | nil => rwa [List.intercalate_singleton]
    | cons next lines =>
      rw [List.intercalate_cons_cons]
      simp [hLine, hSeparator, ih hRest]

variable {lines : List (List Char)}

/-- Lines with any line ends between them are unified to lines with line feeds. -/
theorem unifyLineEnds_intercalate (ending : LineEnd) {tail : List Char}
    (hTail : tail = [] ∨ tail = ending.chars) (hFeed : ∀ line ∈ lines, '\n' ∉ line)
    (hReturn : ∀ line ∈ lines, '\r' ∉ line) :
    unifyLineEnds (ending.chars.intercalate lines ++ tail) =
      ['\n'].intercalate lines ++ unifyLineEnds tail := by
  have hLine {line : List Char} (hLine : '\r' ∉ line) (rest : List Char) :
      unifyLineEnds (line ++ rest) = line ++ unifyLineEnds rest := by
    rw [unifyLineEnds_append fun hLast => absurd (List.mem_of_getLast? hLast) hLine,
      unifyLineEnds_eq_self hLine]
  induction lines with
  | nil => simp
  | cons line lines ih =>
    obtain ⟨-, hFeeds⟩ := List.forall_mem_cons.mp hFeed
    obtain ⟨hFirst, hReturns⟩ := List.forall_mem_cons.mp hReturn
    cases lines with
    | nil => rw [List.intercalate_singleton, List.intercalate_singleton, hLine hFirst]
    | cons next lines =>
      have hNext : ending = .carriageReturn →
          (ending.chars.intercalate (next :: lines) ++ tail).head? ≠ some '\n' := by
        rintro rfl hHead
        rcases List.mem_append.mp (List.mem_of_head? hHead) with hMem | hMem
        · exact not_mem_intercalate (by decide) hFeeds hMem
        · rcases hTail with rfl | rfl
          · cases hMem
          · revert hMem
            decide
      rw [List.intercalate_cons_cons, List.intercalate_cons_cons, List.append_assoc,
        List.append_assoc, hLine hFirst, unifyLineEnds_lineEnd hNext, ih hFeeds hReturns]
      simp

theorem splitAt_intercalate {separator : Char} (hLines : ∀ line ∈ lines, separator ∉ line)
    (hFilled : lines ≠ []) : splitAt separator ([separator].intercalate lines) = lines := by
  induction lines with
  | nil => exact absurd rfl hFilled
  | cons line lines ih =>
    obtain ⟨hLine, hRest⟩ := List.forall_mem_cons.mp hLines
    cases lines with
    | nil => rw [List.intercalate_singleton, splitAt_of_not_mem hLine]
    | cons next lines =>
      rw [List.intercalate_cons_cons, List.append_assoc, List.singleton_append, splitAt_append,
        splitAt_of_not_mem hLine, ih hRest (List.cons_ne_nil _ _), List.singleton_append]

/-- An empty line holds no facts. -/
theorem scanLine_nil (state : ScanState) (lineNo : Int) : (scanLine state lineNo []).2 = [] := by
  have hCode (state : ScanState) : (scanCode state lineNo []).2 = [] := by
    rw [scanCode]
    cases state.mode? with
    | none => rfl
    | some mode => cases mode <;> rfl
  have hFound (state : ScanState) (inside : Bool) :
      (scanFound state lineNo (markLine inside [])).2 = [] := by
    have hNone : (markLine inside []).1 = [] := by cases inside <;> rfl
    have hBlanked : blankLiterals [] = [] := rfl
    rw [scanFound, hNone, hBlanked, ite_self]
    exact hCode state
  rw [scanLine_eq_scanFound state lineNo List.not_mem_nil]
  split_ifs
  · exact hFound state false
  · exact hFound state.pop true
  · rfl

theorem scanLines_concat_nil (state : ScanState) (lineNo : Int) (lines : List (List Char)) :
    scanLines state lineNo (lines ++ [[]]) = scanLines state lineNo lines := by
  have hEmpty (state : ScanState) (lineNo : Int) : scanLines state lineNo [[]] = [] :=
    (List.append_nil _).trans (scanLine_nil state lineNo)
  rw [scanLines_append, hEmpty, List.append_nil]

/-- The facts of a text are those of its lines, which may have any line ends. -/
theorem facts_ofText (text : List Char) :
    facts (.ofText text) = scanLines {} 1 (splitAt '\n' (unifyLineEnds text)) := by
  change scanLines {} 1 (dropEmptyEnd _) = _
  rw [dropEmptyEnd]
  split_ifs with hLast
  · obtain ⟨before, hLines⟩ := List.getLast?_eq_some_iff.mp hLast
    rw [hLines, List.dropLast_concat, scanLines_concat_nil]
  · rfl

/-- The facts of lines do not depend on how they are ended, and whether the last one is. -/
theorem facts_intercalate (ending : LineEnd) (isEnded : Bool)
    (hFeed : ∀ line ∈ lines, '\n' ∉ line) (hReturn : ∀ line ∈ lines, '\r' ∉ line) :
    facts (.ofText (ending.chars.intercalate lines ++ if isEnded then ending.chars else [])) =
      scanLines {} 1 lines := by
  have hPlain : scanLines {} 1 (splitAt '\n' (['\n'].intercalate lines)) =
      scanLines {} 1 lines := by
    by_cases hFilled : lines = []
    · rw [hFilled]
      exact scanLines_concat_nil {} 1 []
    · rw [splitAt_intercalate hFeed hFilled]
  cases isEnded with
  | false =>
    have hUnified := unifyLineEnds_intercalate ending (.inl rfl) hFeed hReturn
    have hEmpty : unifyLineEnds [] = [] := rfl
    rw [facts_ofText, if_neg (by decide), hUnified, hEmpty, List.append_nil, hPlain]
  | true =>
    have hUnified := unifyLineEnds_intercalate ending (.inr rfl) hFeed hReturn
    have hEnd : unifyLineEnds ending.chars = ['\n'] := by cases ending <;> rfl
    rw [facts_ofText, if_pos rfl, hUnified, hEnd, splitAt_append]
    exact (scanLines_concat_nil {} 1 _).trans hPlain

/-- The facts of a Go text do not depend on its layout: on the blanks at the ends of its lines, on
the characters that end the lines, and on whether the last line is ended. -/
theorem facts_ignore_layout (ending : LineEnd) (isEnded : Bool) (lines : List PaddedLine) :
    facts (.ofText (ending.chars.intercalate (lines.map PaddedLine.chars) ++
      if isEnded then ending.chars else [])) =
    facts (.ofText (['\n'].intercalate (lines.map PaddedLine.line))) := by
  have hFeed : ∀ line ∈ lines.map PaddedLine.line, '\n' ∉ line :=
    List.forall_mem_map.mpr fun padded _ => padded.noFeed
  have hReturn : ∀ line ∈ lines.map PaddedLine.line, '\r' ∉ line :=
    List.forall_mem_map.mpr fun padded _ => padded.noReturn
  have hPlain := facts_intercalate .feed false hFeed hReturn
  rw [if_neg (by decide), List.append_nil] at hPlain
  refine (facts_intercalate ending isEnded ?_ ?_).trans
    ((scanLines_padded {} 1 lines).trans hPlain.symm)
  · exact List.forall_mem_map.mpr fun padded _ =>
      not_mem_append_padding (by decide) padded.noFeed padded.isPadding
  · exact List.forall_mem_map.mpr fun padded _ =>
      not_mem_append_padding (by decide) padded.noReturn padded.isPadding

end CodeIndex.Go
