import CodeIndex.Proofs.GoActions
import CodeIndex.Proofs.GoMarks
import CodeIndex.Proofs.PhysicalLines

/-! What stands between the quotes of a string literal does not matter for the index of a Go file,
as long as it holds no comment mark and no import is read. -/
namespace CodeIndex.Go

/-- A text that holds none of the comment marks. -/
def HoldsNoMark (text : List Char) : Prop :=
  ¬['/', '/'] <:+: text ∧ ¬['/', '*'] <:+: text ∧ ¬['*', '/'] <:+: text

instance (text : List Char) : Decidable (HoldsNoMark text) :=
  inferInstanceAs (Decidable (_ ∧ _ ∧ _))

/-- A line with a string literal between two other parts. -/
def literalLine (front content back : List Char) : List Char :=
  front ++ '"' :: (content ++ '"' :: back)

theorem not_mem_literalLine {c : Char} {front content back : List Char} (hQuote : c ≠ '"')
    (hParts : c ∉ front ++ back) (hContent : c ∉ content) : c ∉ literalLine front content back := by
  rw [List.mem_append, not_or] at hParts
  simp [literalLine, hQuote, hParts, hContent]

/-! A pass over text without its mark comes to the quote behind it. -/

/-- A quote behind a text makes no mark with its last character. -/
theorem not_pair_append_quote {a b c : Char} {text : List Char} (hb : b ≠ '"')
    (hText : ¬(c = a ∧ text.head? = some b)) (rest : List Char) :
    ¬(c = a ∧ (text ++ '"' :: rest).head? = some b) := by
  rintro ⟨rfl, hHead⟩
  cases text with
  | nil => exact hb (Option.some.inj hHead).symm
  | cons d text => exact hText ⟨rfl, hHead⟩

/-- A pair of marks is not looked for across a quote. -/
theorem pairPosition?_append_quote {a b : Char} {text : List Char} (hText : ¬[a, b] <:+: text)
    (ha : a ≠ '"') (hb : b ≠ '"') (rest : List Char) :
    pairPosition? a b (text ++ '"' :: rest) =
      (pairPosition? a b rest).map (· + (text.length + 1)) := by
  induction text with
  | nil => exact pairPosition?_cons fun hMark => ha hMark.1.symm
  | cons c text ih =>
    rw [infix_pair_cons_iff, not_or] at hText
    rw [List.cons_append, pairPosition?_cons (not_pair_append_quote hb hText.1 rest), ih hText.2,
      Option.map_map]
    rfl

/-- Without a mark before the first quote a line comment can only begin behind it. -/
theorem dropLineComment_append_quote {text : List Char} (hText : ¬['/', '/'] <:+: text)
    (rest : List Char) :
    dropLineComment (text ++ '"' :: rest) = text ++ '"' :: dropLineComment rest := by
  induction text with
  | nil => exact dropLineComment_cons (by simp)
  | cons c text ih =>
    rw [infix_pair_cons_iff, not_or] at hText
    rw [List.cons_append, dropLineComment_cons (not_pair_append_quote (by decide) hText.1 rest),
      ih hText.2, List.cons_append]

theorem dropBlockComments_append_quote {text : List Char} (hText : ¬['/', '*'] <:+: text)
    (rest : List Char) :
    dropBlockComments (text ++ '"' :: rest) =
      (text ++ '"' :: (dropBlockComments rest).1, (dropBlockComments rest).2) := by
  induction text with
  | nil => exact dropBlockComments_cons (by simp)
  | cons c text ih =>
    rw [infix_pair_cons_iff, not_or] at hText
    rw [List.cons_append, dropBlockComments_cons (not_pair_append_quote (by decide) hText.1 rest),
      ih hText.2]
    rfl

variable {front content back : List Char}

/-- Comments are looked for behind the literal only. -/
theorem comments_literalLine (hFront : HoldsNoMark front) (hContent : HoldsNoMark content) :
    dropBlockComments (dropLineComment (literalLine front content back)) =
      (literalLine front content (dropBlockComments (dropLineComment back)).1,
        (dropBlockComments (dropLineComment back)).2) := by
  rw [literalLine, dropLineComment_append_quote hFront.1,
    dropLineComment_append_quote hContent.1, dropBlockComments_append_quote hFront.2.1,
    dropBlockComments_append_quote hContent.2.1]
  rfl

/-- Where a comment from an earlier line ends, the literal is behind its end or part of it. -/
theorem closing_literalLine (hFront : HoldsNoMark front) (hContent : HoldsNoMark content) :
    pairPosition? '*' '/' (literalLine front content back) =
      (pairPosition? '*' '/' back).map (· + (front.length + content.length + 2)) := by
  rw [literalLine, pairPosition?_append_quote hFront.2.2 (by decide) (by decide),
    pairPosition?_append_quote hContent.2.2 (by decide) (by decide), Option.map_map]
  congr 1
  funext position
  simp only [Function.comp_apply]
  omega

theorem drop_literalLine (position : Nat) :
    (literalLine front content back).drop (position + (front.length + content.length + 2) + 2) =
      back.drop (position + 2) := by
  have hLine : literalLine front content back = (front ++ '"' :: (content ++ ['"'])) ++ back := by
    simp [literalLine]
  have hLength : (front ++ '"' :: (content ++ ['"'])).length =
      front.length + content.length + 2 := by
    simp only [List.length_append, List.length_cons, List.length_nil]
    omega
  have hPosition : position + (front.length + content.length + 2) + 2 =
      front.length + content.length + 2 + (position + 2) := by omega
  rw [hLine, hPosition, ← hLength, List.drop_length_add_append]

/-! Emptying literals -/

/-- Where a scan for string literals stands after a character. -/
def LiteralMode.next : LiteralMode → Char → LiteralMode
  | .outside, c => if c = '"' then .inside else .outside
  | .inside, c => if c = '"' then .outside else if c = '\\' then .escaped else .inside
  | .escaped, _ => .inside

/-- A text in which every string literal that it opens is closed. -/
def ClosesLiterals (text : List Char) : Prop := text.foldl LiteralMode.next .outside = .outside

instance (text : List Char) : Decidable (ClosesLiterals text) :=
  inferInstanceAs (Decidable (_ = _))

/-- To blank a text is to blank its parts, with the state at the end of the first handed on. -/
theorem blankFrom_append (mode : LiteralMode) (text rest : List Char) :
    blankFrom mode (text ++ rest) =
      blankFrom mode text ++ blankFrom (text.foldl LiteralMode.next mode) rest := by
  induction text generalizing mode with
  | nil => cases mode <;> rfl
  | cons c text ih =>
    rw [List.foldl_cons, List.cons_append]
    cases mode with
    | outside =>
      simp only [blankFrom, LiteralMode.next]
      split_ifs <;> simp [ih]
    | inside =>
      simp only [blankFrom, LiteralMode.next]
      split_ifs <;> simp [ih]
    | escaped =>
      simp only [blankFrom, LiteralMode.next, ih]

/-- A scan inside a literal comes out of it at the quote that closes it, whatever follows. -/
theorem blankFrom_literal {escaped : Bool} {content rest other : List Char}
    (hLength : literalLength escaped (content ++ '"' :: rest) = content.length) :
    blankFrom (if escaped then .escaped else .inside) (content ++ '"' :: other) =
      blankFrom .outside other := by
  induction content generalizing escaped with
  | nil =>
    cases escaped with
    | true => simp [literalLength] at hLength
    | false => simp [blankFrom]
  | cons c content ih =>
    cases escaped with
    | true =>
      have hRest : literalLength false (content ++ '"' :: rest) = content.length := by
        simpa [literalLength] using hLength
      simpa [blankFrom] using ih hRest
    | false =>
      rw [List.cons_append, literalLength] at hLength
      split_ifs at hLength with hQuote
      have hRest : literalLength (c == '\\') (content ++ '"' :: rest) = content.length := by
        simpa using hLength
      have hBlank := ih hRest
      by_cases hSlash : c = '\\'
      · simpa [blankFrom, hSlash] using hBlank
      · simpa [blankFrom, hSlash, hQuote] using hBlank

/-- The content of a literal that stands between two parts of a line: it holds no mark and no line
end, and the quote behind it is the one that closes the literal. -/
structure IsLiteral (front content back : List Char) : Prop where
  holdsNoMark : HoldsNoMark content
  noFeed : '\n' ∉ content
  noReturn : '\r' ∉ content
  closes : literalEnd (literalLine front content back) front.length =
    front.length + 1 + content.length

/-- The literal ends at the quote behind its content. -/
theorem IsLiteral.length_eq (hLiteral : IsLiteral front content back) :
    literalLength false (content ++ '"' :: back) = content.length := by
  have hStart : ((front.length : Int) + 1).toNat = front.length + 1 := by omega
  have hDrop : (literalLine front content back).drop (front.length + 1) =
      content ++ '"' :: back := by
    simp [literalLine]
  have hBound : front.length + 1 < (literalLine front content back).length := by
    simp only [literalLine, List.length_append, List.length_cons]
    omega
  have hEnd := hLiteral.closes
  rw [literalEnd, hStart, if_pos hBound, hDrop] at hEnd
  omega

/-- Emptying the literals of a line leaves nothing of the content of this one, also if something
else stands behind it. -/
theorem blankLiterals_literalLine (hClosed : ClosesLiterals front)
    (hLiteral : IsLiteral front content back) (rest : List Char) :
    blankLiterals (literalLine front content rest) =
      blankLiterals front ++ '"' :: '"' :: blankLiterals rest := by
  have hContent : blankFrom .inside (content ++ '"' :: rest) = blankFrom .outside rest :=
    blankFrom_literal hLiteral.length_eq
  rw [blankLiterals, literalLine, blankFrom_append, hClosed, blankFrom, if_pos rfl, hContent]
  rfl

/-! Imports -/

theorem after?_append_quote {keyword : List Char} (hKeyword : '"' ∉ keyword)
    (text rest : List Char) :
    after? keyword (text ++ '"' :: rest) = (after? keyword text).map (· ++ '"' :: rest) := by
  induction keyword generalizing text with
  | nil => rfl
  | cons c keyword ih =>
    rw [List.mem_cons, not_or] at hKeyword
    cases text with
    | nil => simp [after?, Ne.symm hKeyword.1]
    | cons d text =>
      simp only [List.cons_append, after?]
      split_ifs
      · exact ih hKeyword.2 text
      · rfl

theorem skipBlanks_append_quote (text rest : List Char) :
    skipBlanks (text ++ '"' :: rest) = skipBlanks text ++ '"' :: rest := by
  have hQuote : isBlank '"' = false := by decide
  induction text with
  | nil => simp [skipBlanks, hQuote]
  | cons c text ih =>
    simp only [skipBlanks, List.cons_append, List.dropWhile_cons] at ih ⊢
    split_ifs
    · exact ih
    · rfl

/-- Whether a line starts an import is decided before its first quote. -/
theorem startsImport_append_quote (text rest : List Char) :
    startsImport (text ++ '"' :: rest) = startsImport text := by
  have hQuote : isWord '"' = false := by decide
  rw [startsImport, startsImport, skipBlanks_append_quote, after?_append_quote (by decide)]
  cases after? "import".toList (skipBlanks text) with
  | none => rfl
  | some tail =>
    cases tail with
    | nil => simp [hQuote]
    | cons c tail => rfl

/-! Scanning -/

variable {first second : List Char}

/-- Two lines that differ in the content of a literal only do the same. An import is left out, since
its path is such a content. -/
theorem scanOutside_literalLine {state : ScanState} (lineNo : Int)
    (hMode : state.mode? ≠ some .importGroup) (hImport : startsImport front = false)
    (hFront : HoldsNoMark front) (hClosed : ClosesLiterals front)
    (hFirst : IsLiteral front first back) (hSecond : IsLiteral front second back) :
    scanOutside state lineNo (literalLine front first back) =
      scanOutside state lineNo (literalLine front second back) := by
  have hStart (content rest : List Char) :
      startsImport (literalLine front content rest) = false := by
    rw [literalLine, startsImport_append_quote, hImport]
  simp only [scanOutside, comments_literalLine hFront hFirst.holdsNoMark,
    comments_literalLine hFront hSecond.holdsNoMark, hStart, hMode, decide_false, Bool.or_self,
    Bool.false_eq_true, if_false, blankLiterals_literalLine hClosed hFirst,
    blankLiterals_literalLine hClosed hSecond]

/-- A line is scanned in the same way whatever its literal holds. -/
theorem scanLine_literalLine {state : ScanState} (lineNo : Int)
    (hMode : state.mode? ≠ some .importGroup) (hImport : startsImport front = false)
    (hFront : HoldsNoMark front) (hClosed : ClosesLiterals front)
    (hFirst : IsLiteral front first back) (hSecond : IsLiteral front second back) :
    scanLine state lineNo (literalLine front first back) =
      scanLine state lineNo (literalLine front second back) := by
  rw [scanLine, scanLine]
  split_ifs
  · -- a comment that ends behind the literal leaves the same rest of the line
    rw [closing_literalLine hFront hFirst.holdsNoMark,
      closing_literalLine hFront hSecond.holdsNoMark]
    cases pairPosition? '*' '/' back with
    | none => rfl
    | some position => simp only [Option.map_some, drop_literalLine]
  · exact scanOutside_literalLine lineNo hMode hImport hFront hClosed hFirst hSecond

/-- Two texts that differ in the content of one string literal have the same facts. The literal
stands in a line of its own between parts of which the first holds no comment mark and leaves no
literal open. Neither the line itself nor a group around it is about imports. -/
theorem facts_eq_of_literal {start rest : List Char} (hStart : EndsLine start)
    (hRest : StartsAfterLine rest) (hFeed : '\n' ∉ front ++ back) (hReturn : '\r' ∉ front ++ back)
    (hFront : HoldsNoMark front) (hClosed : ClosesLiterals front)
    (hFirst : IsLiteral front first back) (hSecond : IsLiteral front second back)
    (hImport : startsImport (literalLine front first back) = false)
    (hMode : (stateAfter {} 1 (physicalLines start)).mode? ≠ some .importGroup) :
    facts (.ofText (start ++ literalLine front first back ++ rest)) =
      facts (.ofText (start ++ literalLine front second back ++ rest)) := by
  obtain ⟨behind, hLines⟩ := exists_physicalLines_append hStart hRest
  have hFacts {content : List Char} (hLiteral : IsLiteral front content back) :
      facts (.ofText (start ++ literalLine front content back ++ rest)) =
        scanLines {} 1 (physicalLines start ++ literalLine front content back :: behind) := by
    rw [facts, SourceText.ofText, hLines]
    · simp [literalLine]
    · exact not_mem_literalLine (by decide) hFeed hLiteral.noFeed
    · exact not_mem_literalLine (by decide) hReturn hLiteral.noReturn
  have hPlain : startsImport front = false := by
    rwa [literalLine, startsImport_append_quote] at hImport
  rw [hFacts hFirst, hFacts hSecond, scanLines_append, scanLines_append, scanLines, scanLines,
    scanLine_literalLine _ hMode hPlain hFront hClosed hFirst hSecond]

/-- A call and a quote behind a backslash, each as the content of the same literal. The comment that
opens behind the literal goes on in the next line. -/
theorem facts_eq_of_literal_call :
    facts (.ofText ("func f() \x7b\n".toList ++
      literalLine "\ts := g(\"a\", ".toList "h(".toList ") /* k(".toList ++
        "\r\n*/ m()".toList)) =
    facts (.ofText ("func f() \x7b\n".toList ++
      literalLine "\ts := g(\"a\", ".toList "\\\"\x7d/".toList ") /* k(".toList ++
        "\r\n*/ m()".toList)) :=
  facts_eq_of_literal (.inr (.inl (by decide))) (.inr (.inr (by decide))) (by decide) (by decide)
    (by decide) (by decide) ⟨by decide, by decide, by decide, by decide⟩
    ⟨by decide, by decide, by decide, by decide⟩ (by decide) (by decide)

end CodeIndex.Go
