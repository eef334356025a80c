import CodeIndex.Extract.GoScan
import CodeIndex.Proofs.GoMarks
import CodeIndex.Proofs.GoPadding
import CodeIndex.Proofs.LiteralBlanking
import CodeIndex.Proofs.PhysicalLines
import Mathlib.Data.List.Basic
import Mathlib.Tactic.Common

/-! Lists of names on the left side of assignments and in value declarations. Blanks part the words
of a line, and commas only mark them. So the blanks around each comma decide which names are
found. -/
namespace CodeIndex.Go

/-! The characters of names -/

/-- The characters of an ASCII identifier. -/
def isNamePart (c : Char) : Bool := c.isAlphanum || c == '_'

/-- The characters of identifiers lie between the digits and the small letters in the order of
codes. -/
theorem toNat_of_isNamePart {c : Char} (hPart : isNamePart c = true) :
    48 ≤ c.toNat ∧ c.toNat ≤ 122 := by
  change (((decide (c.val ≥ 65 ∧ c.val ≤ 90) || (decide (c.val ≥ 97) && decide (c.val ≤ 122))) ||
    (decide (c.val ≥ 48) && decide (c.val ≤ 57))) || c == '_') = true at hPart
  simp only [Bool.or_eq_true, Bool.and_eq_true, decide_eq_true_eq, ge_iff_le,
    UInt32.le_iff_toNat_le, beq_iff_eq] at hPart
  change (((65 ≤ c.toNat ∧ c.toNat ≤ 90) ∨ (97 ≤ c.toNat ∧ c.toNat ≤ 122)) ∨
    (48 ≤ c.toNat ∧ c.toNat ≤ 57)) ∨ c = '_' at hPart
  rcases hPart with hAlphanumeric | rfl
  · omega
  · decide

theorem isWord_of_isNamePart {c : Char} (hPart : isNamePart c = true) : isWord c = true := by
  obtain ⟨-, hUpper⟩ := toNat_of_isNamePart hPart
  have hAscii : c.toNat < 128 := by omega
  simpa [isWord, isAlphanumeric, hAscii, isNamePart, or_comm] using hPart

theorem isBlank_of_isNamePart {c : Char} (hPart : isNamePart c = true) : isBlank c = false := by
  obtain ⟨hLower, hUpper⟩ := toNat_of_isNamePart hPart
  simp only [isBlank]
  rw [if_pos (by omega)]
  simp only [Bool.or_eq_false_iff, beq_eq_false_iff_ne, Bool.and_eq_false_iff,
    decide_eq_false_iff_not]
  omega

/-- The only digits among the characters of identifiers are the ASCII ones. -/
theorem isDecimal_of_isNamePart {c : Char} (hPart : isNamePart c = true)
    (hDigit : c.isDigit = false) : isDecimal c = false := by
  obtain ⟨-, hUpper⟩ := toNat_of_isNamePart hPart
  have hAscii : c.toNat < 128 := by omega
  simp [isDecimal, decimalValue?, hAscii, hDigit]

/-- An ASCII identifier that can be assigned to: no keyword that may stand before an assignment, and
not the single underscore, to which nothing is assigned. -/
structure Identifier where
  chars : List Char
  parts : ∀ c ∈ chars, isNamePart c = true
  first : ∃ c, chars.head? = some c ∧ c.isDigit = false
  plain : controlKeywords.contains (nameText chars) = false
  named : chars ≠ ['_']

namespace Identifier

variable (name : Identifier)

theorem ne_nil : name.chars ≠ [] := by
  obtain ⟨c, hHead, -⟩ := name.first
  intro hEmpty
  rw [hEmpty] at hHead
  cases hHead

/-- An identifier ends with a character of identifiers, and not with a comma. -/
theorem exists_last : ∃ c, name.chars.getLast? = some c ∧ isNamePart c = true := by
  obtain ⟨c, hLast⟩ := Option.isSome_iff_exists.mp (List.getLast?_isSome.mpr name.ne_nil)
  exact ⟨c, hLast, name.parts c (List.mem_of_getLast? hLast)⟩

theorem not_blank {c : Char} (hMem : c ∈ name.chars) : isBlank c = false :=
  isBlank_of_isNamePart (name.parts c hMem)

theorem not_mem {c : Char} (hOther : isNamePart c = false) : c ∉ name.chars := by
  intro hMem
  rw [name.parts c hMem] at hOther
  cases hOther

end Identifier

/-! Lists of names -/

/-- How many blanks stand before and after a comma. -/
structure Gap where
  before : Nat
  after : Nat

/-- A comma with the blanks around it. -/
def Gap.text (gap : Gap) : List Char :=
  List.replicate gap.before ' ' ++ ',' :: List.replicate gap.after ' '

/-- The text of the names behind the first one, each with the comma before it. -/
def tailText : List (Gap × Identifier) → List Char
  | [] => []
  | (gap, name) :: rest => gap.text ++ (name.chars ++ tailText rest)

/-- A list of one or more names. -/
structure NameList where
  head : Identifier
  tail : List (Gap × Identifier)

namespace NameList

variable (list : NameList)

def text : List Char := list.head.chars ++ tailText list.tail

/-- The names of the list, however they are written. -/
def names : List (List Char) := list.head.chars :: list.tail.map fun other => other.2.chars

/-- A short declaration of all the names, inside a function. -/
def assignment : List Char := '\t' :: (list.text ++ " := 0".toList)

/-- A declaration of all the names as variables of one type. -/
def declaration : List Char := "var ".toList ++ (list.text ++ " int".toList)

end NameList

/-- The names that an assignment finds, from the one read last on. Two names with only a comma
between them are taken for one. -/
def assignedFrom : (name : List Char) → List (Gap × Identifier) → List (List Char)
  | name, [] => [name]
  | name, (gap, next) :: rest =>
    if gap.before = 0 ∧ gap.after = 0 then assignedFrom (name ++ next.chars) rest
    else name :: assignedFrom next.chars rest

/-- The names that a declaration finds, from the one read last on. A name with a blank before its
comma is the last one, and names with only a comma between them are taken for one with that comma
in it. -/
def declaredFrom : (name : List Char) → List (Gap × Identifier) → List (List Char)
  | name, [] => [name]
  | name, (gap, next) :: rest =>
    if gap.before ≠ 0 then [name]
    else if gap.after = 0 then declaredFrom (name ++ ',' :: next.chars) rest
    else name :: declaredFrom next.chars rest

/-! The words of a list -/

/-- Blanks in front of a text make no words. -/
theorem wordsOf_replicate (count : Nat) (rest : List Char) :
    wordsOf (List.replicate count ' ' ++ rest) = wordsOf rest := by
  induction count with
  | zero => rfl
  | succ count ih =>
    rw [List.replicate_succ, List.cons_append]
    exact (wordsOf_append_blank (by decide) [] _).trans ih

/-- Where the words end at a comma: nowhere, behind it, before it, or on both sides of it. -/
theorem wordsOf_gap {word : List Char} (hWord : ∀ c ∈ word, isBlank c = false) (hNe : word ≠ [])
    (gap : Gap) (rest : List Char) :
    wordsOf (word ++ (gap.text ++ rest)) =
      if gap.before = 0 then
        if gap.after = 0 then wordsOf (word ++ ',' :: rest)
        else (word ++ [',']) :: wordsOf rest
      else if gap.after = 0 then word :: wordsOf (',' :: rest)
      else word :: [','] :: wordsOf rest := by
  obtain ⟨before, after⟩ := gap
  have hComma : isBlank ',' = false := by decide
  have hSpace : isBlank ' ' = true := by decide
  have hMarked : wordsOf (word ++ [',']) = [word ++ [',']] := by
    apply wordsOf_of_not_blank
    · exact List.forall_mem_append.mpr ⟨hWord, by simpa using hComma⟩
    · simp
  have hOne : wordsOf [','] = [[',']] := wordsOf_of_not_blank (by simpa using hComma) (by simp)
  cases before with
  | zero =>
    cases after with
    | zero => simp [Gap.text]
    | succ after =>
      have hText : word ++ (Gap.text ⟨0, after + 1⟩ ++ rest) =
          (word ++ [',']) ++ ' ' :: (List.replicate after ' ' ++ rest) := by
        simp [Gap.text, List.replicate_succ]
      rw [hText, wordsOf_append_blank hSpace, wordsOf_replicate, hMarked]
      rfl
  | succ before =>
    have hText : word ++ (Gap.text ⟨before + 1, after⟩ ++ rest) =
        word ++ ' ' :: (List.replicate before ' ' ++
          ',' :: (List.replicate after ' ' ++ rest)) := by
      simp [Gap.text, List.replicate_succ]
    rw [hText, wordsOf_append_blank hSpace, wordsOf_replicate, wordsOf_of_not_blank hWord hNe]
    cases after with
    | zero => simp
    | succ after =>
      have hRest : ',' :: (List.replicate (after + 1) ' ' ++ rest) =
          [','] ++ ' ' :: (List.replicate after ' ' ++ rest) := by
        simp [List.replicate_succ]
      rw [hRest, wordsOf_append_blank hSpace, wordsOf_replicate, hOne]
      rfl

/-! The names that are found -/

section

variable {scope : List String} {lineNo : Int}

/-- The fact about a name in a scope. -/
def nameFact (table : String) (scope : List String) (lineNo : Int) (name : List Char) : Fact :=
  { table := table, name := scope ++ [nameText name], lineNo := lineNo }

theorem nameText_ne_underscore {name : List Char} (hName : name ≠ ['_']) : nameText name ≠ "_" := by
  intro hSame
  exact hName (by simpa [nameText] using congrArg String.toList hSame)

/-- A word on the left side of an assignment, and the name that remains of it without commas. -/
structure IsTarget (word name : List Char) : Prop where
  blanks : ∀ c ∈ word, isBlank c = false
  letters : word.filter (· ≠ ',') = name
  ne_nil : name ≠ []
  single : '.' ∉ name
  named : name ≠ ['_']
  plain : controlKeywords.contains (nameText word) = false

/-- An identifier alone is a word that can be assigned to. -/
theorem Identifier.isTarget (name : Identifier) : IsTarget name.chars name.chars where
  blanks := fun _ => name.not_blank
  letters := by
    rw [List.filter_eq_self]
    intro c hMem
    simpa using ne_of_mem_of_not_mem hMem (name.not_mem (by decide))
  ne_nil := name.ne_nil
  single := name.not_mem (by decide)
  named := name.named
  plain := name.plain

/-- No keyword holds a comma. -/
theorem not_control_of_comma {word : List Char} (hComma : ',' ∈ word) :
    controlKeywords.contains (nameText word) = false := by
  have hKeywords : controlKeywords.all fun keyword => !keyword.toList.contains ',' := by decide
  rw [← Bool.not_eq_true, List.contains_iff_mem]
  intro hMem
  have hNone := List.all_eq_true.mp hKeywords _ hMem
  simp [nameText, hComma] at hNone

/-- It is one as well with the comma of the name before it. -/
theorem Identifier.isTarget_comma (name : Identifier) :
    IsTarget (',' :: name.chars) name.chars :=
  { name.isTarget with
    blanks := List.forall_mem_cons.mpr ⟨by decide, name.isTarget.blanks⟩
    letters := by simpa using name.isTarget.letters
    plain := not_control_of_comma List.mem_cons_self }

namespace IsTarget

variable {word name : List Char}

theorem word_ne_nil (hTarget : IsTarget word name) : word ≠ [] := by
  rintro rfl
  exact hTarget.ne_nil hTarget.letters.symm

/-- A word that can be assigned to may end with a comma. -/
theorem comma (hTarget : IsTarget word name) : IsTarget (word ++ [',']) name :=
  { hTarget with
    blanks := List.forall_mem_append.mpr ⟨hTarget.blanks, List.forall_mem_singleton.mpr (by decide)⟩
    letters := by simpa using hTarget.letters
    plain := not_control_of_comma (by simp) }

/-- Two names with only a comma between them are one word, and what remains of it without the comma
is one name. -/
theorem append (hTarget : IsTarget word name) (next : Identifier) :
    IsTarget (word ++ ',' :: next.chars) (name ++ next.chars) where
  blanks := List.forall_mem_append.mpr ⟨hTarget.blanks, next.isTarget_comma.blanks⟩
  letters := by rw [List.filter_append, hTarget.letters, next.isTarget_comma.letters]
  ne_nil := by simp [hTarget.ne_nil]
  single := by simpa using ⟨hTarget.single, next.isTarget.single⟩
  named := by
    intro hSame
    rcases List.append_eq_singleton_iff.mp hSame with ⟨hEmpty, -⟩ | ⟨-, hEmpty⟩
    · exact hTarget.ne_nil hEmpty
    · exact next.ne_nil hEmpty
  plain := not_control_of_comma (by simp)

/-- A word that can be assigned to gives a fact about its name. -/
theorem assignmentFact?_eq (hTarget : IsTarget word name) :
    assignmentFact? scope lineNo word = some (nameFact assignsTable scope lineNo name) := by
  have hSegments : segments name = [nameText name] := by
    simp [segments, splitAt_of_not_mem hTarget.single, hTarget.ne_nil]
  rw [assignmentFact?, hTarget.plain, hTarget.letters, hSegments]
  simp [nameText_ne_underscore hTarget.named, nameFact]

end IsTarget

/-- The facts of a left side whose first word has been read up to some comma in it. -/
theorem assignmentFacts_from {word name : List Char} (hTarget : IsTarget word name)
    (tail : List (Gap × Identifier)) :
    assignmentFacts scope lineNo (word ++ tailText tail) =
      (assignedFrom name tail).map (nameFact assignsTable scope lineNo) := by
  rw [assignmentFacts]
  induction tail generalizing word name with
  | nil =>
    rw [tailText, List.append_nil, wordsOf_of_not_blank hTarget.blanks hTarget.word_ne_nil]
    simp [assignedFrom, hTarget.assignmentFact?_eq]
  | cons other tail ih =>
    obtain ⟨gap, next⟩ := other
    have hOne : assignmentFact? scope lineNo [','] = none := rfl
    rw [tailText, wordsOf_gap hTarget.blanks hTarget.word_ne_nil, assignedFrom]
    -- One case for each side on which the comma may have blanks.
    by_cases hBefore : gap.before = 0 <;> by_cases hAfter : gap.after = 0
    · have hFused := ih (hTarget.append next)
      rw [List.append_assoc, List.cons_append] at hFused
      simpa [hBefore, hAfter] using hFused
    · simpa [hBefore, hAfter, hTarget.comma.assignmentFact?_eq] using ih next.isTarget
    · simpa [hBefore, hAfter, hTarget.assignmentFact?_eq] using ih next.isTarget_comma
    · simpa [hBefore, hAfter, hTarget.assignmentFact?_eq, hOne] using ih next.isTarget

/-- A word in a declaration that stands for a name as it is: it holds no blank, is not a single
underscore, and ends in something other than a comma. -/
structure IsListed (word : List Char) : Prop where
  blanks : ∀ c ∈ word, isBlank c = false
  named : word ≠ ['_']
  last : ∃ c, word.getLast? = some c ∧ c ≠ ','

theorem Identifier.isListed (name : Identifier) : IsListed name.chars where
  blanks := fun _ => name.not_blank
  named := name.named
  last := by
    obtain ⟨c, hLast, hPart⟩ := name.exists_last
    refine ⟨c, hLast, ?_⟩
    rintro rfl
    cases hPart

namespace IsListed

variable {word : List Char}

theorem ne_nil (hListed : IsListed word) : word ≠ [] := by
  rintro rfl
  obtain ⟨c, hLast, -⟩ := hListed.last
  cases hLast

/-- Two names with only a comma between them are one word in a declaration, and the comma stays in
it. -/
theorem append (hListed : IsListed word) (next : Identifier) :
    IsListed (word ++ ',' :: next.chars) where
  blanks := List.forall_mem_append.mpr ⟨hListed.blanks, next.isTarget_comma.blanks⟩
  named := by
    intro hSame
    have hComma : ',' ∈ ['_'] := by
      rw [← hSame]
      simp
    simp at hComma
  last := by
    obtain ⟨c, hLast, hOther⟩ := next.isListed.last
    refine ⟨c, ?_, hOther⟩
    rw [List.append_cons, List.getLast?_append_of_ne_nil _ next.ne_nil, hLast]

theorem trimEnd_eq (hListed : IsListed word) : trimEnd (· == ',') word = word := by
  obtain ⟨c, hLast, hOther⟩ := hListed.last
  apply trimEnd_of_getLast?
  intro d hSame
  rw [hLast, Option.some.injEq] at hSame
  rw [← hSame]
  exact beq_false_of_ne hOther

/-- Without a comma behind it, the word is the last one. -/
theorem listedNames_cons (hListed : IsListed word) (rest : List (List Char)) :
    listedNames (word :: rest) = [nameText word] := by
  obtain ⟨c, hLast, hOther⟩ := hListed.last
  have hName : nameText word ≠ "" := by simpa [nameText] using hListed.ne_nil
  simp [listedNames, hListed.trimEnd_eq, hName, nameText_ne_underscore hListed.named, hLast, hOther]

/-- A word with a comma behind it is a name, and the list goes on. -/
theorem listedNames_comma (hListed : IsListed word) (rest : List (List Char)) :
    listedNames ((word ++ [',']) :: rest) = nameText word :: listedNames rest := by
  have hTrimmed : trimEnd (· == ',') (word ++ [',']) = word := by
    have hSame := hListed.trimEnd_eq
    rw [trimEnd] at hSame ⊢
    simpa using hSame
  have hName : nameText word ≠ "" := by simpa [nameText] using hListed.ne_nil
  simp [listedNames, hTrimmed, hName, nameText_ne_underscore hListed.named]

end IsListed

/-- The names in a declaration whose first word has been read up to some comma in it. -/
theorem listedNames_from {word : List Char} (hListed : IsListed word)
    (tail : List (Gap × Identifier)) :
    listedNames (wordsOf (word ++ (tailText tail ++ " int".toList))) =
      (declaredFrom word tail).map nameText := by
  induction tail generalizing word with
  | nil =>
    have hText : word ++ (tailText [] ++ " int".toList) = word ++ ' ' :: "int".toList := rfl
    rw [hText, wordsOf_append_blank (by decide),
      wordsOf_of_not_blank hListed.blanks hListed.ne_nil]
    exact hListed.listedNames_cons _
  | cons other tail ih =>
    obtain ⟨gap, next⟩ := other
    rw [tailText, List.append_assoc, wordsOf_gap hListed.blanks hListed.ne_nil, declaredFrom]
    by_cases hBefore : gap.before = 0
    · by_cases hAfter : gap.after = 0
      · have hFused := ih (hListed.append next)
        rw [List.append_assoc, List.cons_append] at hFused
        simpa [hBefore, hAfter] using hFused
      · simpa [hBefore, hAfter, hListed.listedNames_comma] using ih next.isListed
    · by_cases hAfter : gap.after = 0 <;> simp [hBefore, hAfter, hListed.listedNames_cons]

end

/-! Lines without comments, literals and calls -/

/-- A line without slashes has no comments. -/
theorem joinComments_of_not_mem {line : List Char} (hSlash : '/' ∉ line) :
    joinComments 0 line = line := by
  induction line with
  | nil => rfl
  | cons c line ih =>
    rw [List.mem_cons, not_or] at hSlash
    rw [joinComments_cons fun hMark => hSlash.1 hMark.1.symm, ih hSlash.2]

/-- A pair of characters is nowhere if the first of them is not. -/
theorem pairPosition?_of_not_mem {a b : Char} {line : List Char} (hFirst : a ∉ line) :
    pairPosition? a b line = none :=
  pairPosition?_eq_none_iff.mpr fun hPair => hFirst (hPair.subset List.mem_cons_self)

theorem calledFrom_of_not_mem {line : List Char} (hCall : '(' ∉ line) (run : List Char) :
    calledFrom run line = [] := by
  induction line generalizing run with
  | nil => rfl
  | cons c line ih =>
    rw [List.mem_cons, not_or] at hCall
    simp [calledFrom, Ne.symm hCall.1, ih hCall.2]

/-- Outside type bodies and groups, a line that holds neither comments nor literals is read as it
stands. -/
theorem scanLine_plain {state : ScanState}
    (hMode : state.mode? = none ∨ state.mode? = some .functionBody) (lineNo : Int)
    {line : List Char} (hSlash : '/' ∉ line) (hQuote : '"' ∉ line)
    (hBrace : line.head? ≠ some '\x7d') :
    scanLine state lineNo line = scanPlain state lineNo line := by
  have hComments : dropBlockComments (dropLineComment line) = (line, false) := by
    simp only [dropLineComment, dropBlockComments, pairPosition?_of_not_mem hSlash,
      joinComments_of_not_mem hSlash]
  have hCode : scanCode state lineNo line = scanPlain state lineNo line := by
    rcases hMode with hNone | hBody
    · simp [scanCode, hNone]
    · simp [scanCode, hBody, scanFunction, closesFunction, hBrace]
  have hOutside : state.mode? ≠ some .comment := by
    rcases hMode with hNone | hBody
    · simp [hNone]
    · simp [hBody]
  simp [scanLine, hOutside, scanOutside, hComments, blankLiterals_of_not_mem hQuote, hCode]

/-! The two lines of a list -/

/-- The characters that the text of a list may hold. -/
def isListPart (c : Char) : Bool := isNamePart c || c == ',' || c == ' '

/-- The characters that the two lines may hold. -/
def isLinePart (c : Char) : Bool := isListPart c || ['\t', ':', '='].contains c

theorem isTargetPart_of_isListPart {c : Char} (hPart : isListPart c = true) :
    isTargetPart c = true := by
  simp only [isListPart, Bool.or_eq_true, beq_iff_eq] at hPart
  rcases hPart with (hName | rfl) | rfl
  · rw [isTargetPart, isWord_of_isNamePart hName]
    rfl
  · decide
  · decide

theorem Identifier.all_chars (name : Identifier) : name.chars.all isListPart = true := by
  rw [List.all_eq_true]
  intro c hMem
  rw [isListPart, name.parts c hMem]
  rfl

/-- The names behind the first one are written in the characters of lists. -/
theorem all_tailText (tail : List (Gap × Identifier)) : (tailText tail).all isListPart = true := by
  induction tail with
  | nil => rfl
  | cons other tail ih =>
    have hGap : isListPart ' ' = true ∧ isListPart ',' = true := by decide
    simp [tailText, Gap.text, other.2.all_chars, ih, hGap]

/-- Behind a name there is a character that cannot belong to it. -/
theorem head?_tailText (tail : List (Gap × Identifier)) (more : List Char) :
    ∃ c, (tailText tail ++ ' ' :: more).head? = some c ∧ isNamePart c = false := by
  cases tail with
  | nil => exact ⟨' ', rfl, by decide⟩
  | cons other tail =>
    obtain ⟨⟨before, after⟩, name⟩ := other
    cases before with
    | zero => exact ⟨',', rfl, by decide⟩
    | succ before => exact ⟨' ', rfl, by decide⟩

/-- A list ends with a name. -/
theorem getLast?_tailText (name : Identifier) (tail : List (Gap × Identifier)) :
    ∃ c, (name.chars ++ tailText tail).getLast? = some c ∧ isNamePart c = true := by
  induction tail generalizing name with
  | nil =>
    rw [tailText, List.append_nil]
    exact name.exists_last
  | cons other tail ih =>
    obtain ⟨c, hLast, hPart⟩ := ih other.2
    refine ⟨c, ?_, hPart⟩
    have hNe : other.2.chars ++ tailText tail ≠ [] := by simp [other.2.ne_nil]
    rw [tailText, ← List.append_assoc, List.getLast?_append_of_ne_nil _ hNe, hLast]

/-- Fixed characters that are found stand at the front. -/
theorem append_of_after? {chars text rest : List Char} (hRest : after? chars text = some rest) :
    text = chars ++ rest := by
  fun_induction after? chars text with
  | case1 text => exact Option.some.inj hRest
  | case2 chars c text ih => rw [List.cons_append, ← ih hRest]
  | case3 => cases hRest
  | case4 => cases hRest

/-- A keyword is told by its first character already. -/
theorem keyword?_of_head {keyword : String} {k c : Char} {more : List Char}
    (hKeyword : keyword.toList = k :: more) (hOther : c ≠ k) (rest : List Char) :
    keyword? keyword (c :: rest) = none := by
  rw [keyword?, hKeyword, after?, if_neg (Ne.symm hOther), Option.bind_none]

/-- A line that starts with none of the letters of other declarations holds values or is an
assignment, if it is anything. -/
theorem ofLine_of_head {c : Char} (rest : List Char) (hOther : c ∉ ['f', 'p', 't', 'i']) :
    LineShape.ofLine (c :: rest) =
      ((if opensValues (c :: rest) then some .valueGroup else none).or
        (((valueText? (c :: rest)).map .values).or
          ((assignmentTargets? (c :: rest)).map .assignment))).getD .other := by
  simp only [List.mem_cons, List.not_mem_nil, or_false, not_or] at hOther
  obtain ⟨hFunc, hPackage, hType, hImport⟩ := hOther
  have hNoFunc : keyword? "func" (c :: rest) = none := keyword?_of_head rfl hFunc rest
  have hNoPackage : keyword? "package" (c :: rest) = none := keyword?_of_head rfl hPackage rest
  have hNoType : keyword? "type" (c :: rest) = none := keyword?_of_head rfl hType rest
  have hNoImport : keyword? "import" (c :: rest) = none := keyword?_of_head rfl hImport rest
  have hName : typeName? (c :: rest) = none := by rw [typeName?, hNoType]; rfl
  have hBody (keyword : String) : bodyTypeName? keyword (c :: rest) = none := by
    rw [bodyTypeName?, hName]
    rfl
  have hFunction : functionName? (c :: rest) = none ∧ methodName? (c :: rest) = none := by
    rw [functionName?, methodName?, hNoFunc]
    exact ⟨rfl, rfl⟩
  have hClause : packageName? (c :: rest) = none := by rw [packageName?, hNoPackage]; rfl
  have hPath : importPath? (c :: rest) = none := by rw [importPath?, hNoImport]; rfl
  have hGroup : opensImports (c :: rest) = false := by
    have hWord : "import".toList = 'i' :: "mport".toList := rfl
    rw [opensImports, hWord, after?, if_neg (Ne.symm hImport)]
    rfl
  rw [LineShape.ofLine, hFunction.1, hFunction.2, hClause, hBody, hBody, hName, hPath, hGroup]
  rfl

namespace NameList

variable (list : NameList)

/-- A list starts with the first character of a name. -/
theorem exists_text :
    ∃ c rest, list.text = c :: rest ∧ isNamePart c = true ∧ c.isDigit = false := by
  obtain ⟨c, hHead, hDigit⟩ := list.head.first
  obtain ⟨rest, hChars⟩ := List.head?_eq_some_iff.mp hHead
  refine ⟨c, rest ++ tailText list.tail, by rw [text, hChars, List.cons_append], ?_, hDigit⟩
  exact list.head.parts c (by rw [hChars]; exact List.mem_cons_self)

theorem all_text : list.text.all isListPart = true := by
  rw [text, List.all_append, list.head.all_chars, all_tailText]
  rfl

theorem all_text_line : list.text.all isLinePart = true := by
  rw [List.all_eq_true]
  intro c hMem
  rw [isLinePart, List.all_eq_true.mp list.all_text c hMem, Bool.true_or]

/-- No other characters are on the two lines, so there are no comments, literals, braces or calls.
-/
theorem not_mem_lines {c : Char} (hOther : isLinePart c = false) :
    c ∉ list.assignment ∧ c ∉ list.declaration := by
  have hFixed : isLinePart '\t' = true ∧ " := 0".toList.all isLinePart = true ∧
      "var ".toList.all isLinePart = true ∧ " int".toList.all isLinePart = true := by decide
  have hAll : list.assignment.all isLinePart = true ∧ list.declaration.all isLinePart = true := by
    simp only [assignment, declaration, List.all_cons, List.all_append, all_text_line, hFixed,
      Bool.and_self, and_self]
  constructor
  · intro hMem
    exact absurd (List.all_eq_true.mp hAll.1 c hMem) (by simp [hOther])
  · intro hMem
    exact absurd (List.all_eq_true.mp hAll.2 c hMem) (by simp [hOther])

theorem skipBlanks_text (more : List Char) :
    skipBlanks (list.text ++ more) = list.text ++ more := by
  obtain ⟨c, rest, hText, hPart, -⟩ := list.exists_text
  rw [hText, List.cons_append, skipBlanks,
    List.dropWhile_cons_of_neg (by simp [isBlank_of_isNamePart hPart])]

/-- If the list starts like a keyword, its first name goes on behind it. -/
theorem head?_behind_keyword {keyword more rest : List Char}
    (hKeyword : keyword.all isNamePart = true) (hOther : list.head.chars ≠ keyword)
    (hText : list.text ++ ' ' :: more = keyword ++ rest) :
    ∃ c, rest.head? = some c ∧ isNamePart c = true := by
  rw [text, List.append_assoc] at hText
  obtain ⟨c, hHead, hNot⟩ := head?_tailText list.tail more
  rcases List.append_eq_append_iff.mp hText with ⟨tail, hName, hTail⟩ | ⟨tail, hName, hTail⟩
  · cases tail with
    | nil => exact absurd (by rw [hName, List.append_nil]) hOther
    | cons d tail =>
      rw [hTail, List.cons_append, List.head?_cons, Option.some.injEq] at hHead
      have hPart := List.all_eq_true.mp hKeyword d (by simp [hName])
      rw [hHead, hNot] at hPart
      cases hPart
  · cases tail with
    | nil => exact absurd (by rw [hName, List.append_nil]) hOther
    | cons d tail => exact ⟨d, by rw [hTail]; rfl, list.head.parts d (by simp [hName])⟩

/-- If the first name begins with a keyword of values, a letter follows, so that it is no
declaration. -/
theorem valueKeyword?_assignment {rest : List Char}
    (hRest : valueKeyword? list.assignment = some rest) :
    ∃ c, rest.head? = some c ∧ isNamePart c = true := by
  have hKeywords : controlKeywords.contains "var" = true ∧
      controlKeywords.contains "const" = true := by decide
  have hLine : skipBlanks list.assignment = list.text ++ " := 0".toList := list.skipBlanks_text _
  have hNot (keyword : String) (hControl : controlKeywords.contains keyword = true) :
      list.head.chars ≠ keyword.toList := by
    intro hSame
    have hPlain := list.head.plain
    rw [hSame, nameText, String.ofList_toList, hControl] at hPlain
    cases hPlain
  rw [valueKeyword?, hLine, Option.or_eq_some_iff] at hRest
  rcases hRest with hVar | ⟨-, hConst⟩
  · exact list.head?_behind_keyword (by decide) (hNot "var" hKeywords.1) (append_of_after? hVar)
  · exact list.head?_behind_keyword (by decide) (hNot "const" hKeywords.2)
      (append_of_after? hConst)

/-- The left side of the assignment is the text of the list. -/
theorem assignmentTargets?_assignment : assignmentTargets? list.assignment = some list.text := by
  have hLine : skipBlanks list.assignment = list.text ++ " := 0".toList := list.skipBlanks_text _
  have hSplit : list.text ++ " := 0".toList = (list.text ++ [' ']) ++ ":= 0".toList := by simp
  have hTargets : ∀ c ∈ list.text ++ [' '], isTargetPart c = true := by
    refine List.forall_mem_append.mpr ⟨fun c hMem => ?_, ?_⟩
    · exact isTargetPart_of_isListPart (List.all_eq_true.mp list.all_text c hMem)
    · exact List.forall_mem_singleton.mpr (by decide)
  have hTake : (list.text ++ " := 0".toList).takeWhile isTargetPart = list.text ++ [' '] := by
    rw [hSplit, List.takeWhile_append_of_pos hTargets]
    exact List.append_nil _
  have hDrop : (list.text ++ " := 0".toList).dropWhile isTargetPart = ":= 0".toList := by
    rw [hSplit, List.dropWhile_append_of_pos hTargets]
    rfl
  obtain ⟨c, hLast, hPart⟩ : ∃ c, list.text.getLast? = some c ∧ isNamePart c = true :=
    getLast?_tailText list.head list.tail
  have hTrim : trimEnd isBlank (list.text ++ [' ']) = list.text := by
    rw [trimEnd_concat (.inl rfl)]
    apply trimEnd_of_getLast?
    intro d hSame
    rw [hLast, Option.some.injEq] at hSame
    exact hSame ▸ isBlank_of_isNamePart hPart
  have hComma : c ≠ ',' := by
    rintro rfl
    cases hPart
  have hOperator : startsAssignment ":= 0".toList = true := by decide
  simp only [assignmentTargets?, hLine, hTake, hDrop, hTrim, hLast]
  exact if_pos ⟨hComma, hOperator⟩

/-- The first line is an assignment, since no other shape starts with a tabulator and a name. -/
theorem ofLine_assignment : LineShape.ofLine list.assignment = .assignment list.text := by
  have hValues : opensValues list.assignment = false ∧ valueText? list.assignment = none := by
    cases hKeyword : valueKeyword? list.assignment with
    | none => simp [opensValues, valueText?, hKeyword]
    | some rest =>
      obtain ⟨c, hHead, hPart⟩ := list.valueKeyword?_assignment hKeyword
      obtain ⟨rest, rfl⟩ := List.head?_eq_some_iff.mp hHead
      have hBlank := isBlank_of_isNamePart hPart
      have hParenthesis : '(' ≠ c := by
        rintro rfl
        cases hPart
      simp [opensValues, valueText?, hKeyword, blanks?, skipBlanks, hBlank, after?, hParenthesis]
  have hLine := ofLine_of_head (list.text ++ " := 0".toList)
    (show '\t' ∉ ['f', 'p', 't', 'i'] by decide)
  rw [← assignment] at hLine
  simp [hLine, hValues, list.assignmentTargets?_assignment]

/-- The second line declares values. -/
theorem ofLine_declaration :
    LineShape.ofLine list.declaration = .values (list.text ++ " int".toList) := by
  obtain ⟨c, rest, hText, hPart, -⟩ := list.exists_text
  have hKeyword : valueKeyword? list.declaration = some (' ' :: (list.text ++ " int".toList)) := rfl
  have hSkip := list.skipBlanks_text " int".toList
  have hGroup : opensValues list.declaration = false := by
    have hParenthesis : '(' ≠ c := by
      rintro rfl
      cases hPart
    have hBehind : skipBlanks (' ' :: (list.text ++ " int".toList)) = list.text ++ " int".toList :=
      hSkip
    rw [opensValues, hKeyword, Option.bind_some, hBehind, hText, List.cons_append, after?,
      if_neg hParenthesis]
    rfl
  have hValue : valueText? list.declaration = some (list.text ++ " int".toList) := by
    have hBlanks : blanks? (' ' :: (list.text ++ " int".toList)) =
        some (list.text ++ " int".toList) := by
      rw [blanks?, if_pos (by decide), hSkip]
    have hHead : (list.text ++ " int".toList).head? = some c := by
      rw [hText]
      rfl
    rw [valueText?, hKeyword]
    simp only [Option.bind_eq_bind, Option.bind_some, hBlanks, hHead]
    exact if_pos (isWord_of_isNamePart hPart)
  have hLine := ofLine_of_head ("ar ".toList ++ (list.text ++ " int".toList))
    (show 'v' ∉ ['f', 'p', 't', 'i'] by decide)
  have hSame : 'v' :: ("ar ".toList ++ (list.text ++ " int".toList)) = list.declaration := rfl
  rw [hSame] at hLine
  simp [hLine, hGroup, hValue]

/-- The names that an assignment to the list finds. -/
def assigned : List (List Char) := assignedFrom list.head.chars list.tail

/-- The names that a declaration of the list finds. -/
def declared : List (List Char) := declaredFrom list.head.chars list.tail

variable {state : ScanState} (hMode : state.mode? = none ∨ state.mode? = some .functionBody)
  (lineNo : Int)
include hMode

/-- Outside groups and in functions an assignment gives the facts about the names that it finds. -/
theorem scanLine_assignment :
    scanLine state lineNo list.assignment =
      (state, list.assigned.map (nameFact assignsTable state.scope lineNo)) := by
  rw [scanLine_plain hMode lineNo (list.not_mem_lines (by decide)).1
    (list.not_mem_lines (by decide)).1 (by simp [assignment])]
  have hCalls : callFacts state.scope lineNo list.assignment = [] := by
    rw [callFacts, calledFrom_of_not_mem (list.not_mem_lines (by decide)).1]
    rfl
  simp only [scanPlain, list.ofLine_assignment, hCalls, List.append_nil]
  rw [text, assignmentFacts_from list.head.isTarget, assigned]

theorem scanLine_declaration :
    scanLine state lineNo list.declaration =
      (state, list.declared.map (nameFact defsTable state.scope lineNo)) := by
  rw [scanLine_plain hMode lineNo (list.not_mem_lines (by decide)).2
    (list.not_mem_lines (by decide)).2 (by simp [declaration])]
  have hCalls : callFacts state.scope lineNo list.declaration = [] := by
    rw [callFacts, calledFrom_of_not_mem (list.not_mem_lines (by decide)).2]
    rfl
  have hNames : startsWithName (list.text ++ " int".toList) = true := by
    obtain ⟨c, rest, hText, hPart, hDigit⟩ := list.exists_text
    rw [startsWithName, list.skipBlanks_text, hText]
    simp [isWord_of_isNamePart hPart, isDecimal_of_isNamePart hPart hDigit]
  simp only [scanPlain, list.ofLine_declaration, hCalls, List.append_nil, definitionFacts, hNames,
    if_true]
  rw [text, List.append_assoc, listedNames_from list.head.isListed, declared, List.map_map]
  rfl

end NameList

/-! Where all names are found -/

/-- An assignment never finds more names than there are. -/
theorem length_assignedFrom_le (name : List Char) (tail : List (Gap × Identifier)) :
    (assignedFrom name tail).length ≤ tail.length + 1 := by
  induction tail generalizing name with
  | nil => exact Nat.le_refl 1
  | cons other tail ih =>
    rw [assignedFrom]
    split
    · exact Nat.le_succ_of_le (ih _)
    · exact Nat.succ_le_succ (ih _)

/-- An assignment finds all names exactly if there is a blank at each comma, before it or behind it.
-/
theorem assignedFrom_eq_iff (name : List Char) (tail : List (Gap × Identifier)) :
    assignedFrom name tail = name :: tail.map (fun other => other.2.chars) ↔
      ∀ other ∈ tail, other.1.before ≠ 0 ∨ other.1.after ≠ 0 := by
  induction tail generalizing name with
  | nil => simp [assignedFrom]
  | cons other tail ih =>
    rw [assignedFrom, List.forall_mem_cons]
    split
    · next hNone =>
      have hLength := length_assignedFrom_le (name ++ other.2.chars) tail
      constructor
      · intro hSame
        simp only [hSame, List.length_cons, List.length_map] at hLength
        omega
      · rintro ⟨hSome, -⟩
        omega
    · next hSome =>
      rw [List.map_cons, List.cons_inj_right, ih]
      constructor
      · intro hRest
        exact ⟨by omega, hRest⟩
      · exact And.right

/-- A declaration never finds more names than there are. -/
theorem length_declaredFrom_le (name : List Char) (tail : List (Gap × Identifier)) :
    (declaredFrom name tail).length ≤ tail.length + 1 := by
  induction tail generalizing name with
  | nil => exact Nat.le_refl 1
  | cons other tail ih =>
    rw [declaredFrom]
    split
    · simp
    · split
      · exact Nat.le_succ_of_le (ih _)
      · exact Nat.succ_le_succ (ih _)

/-- A declaration finds all names exactly if there is a blank behind each comma and none before it.
-/
theorem declaredFrom_eq_iff (name : List Char) (tail : List (Gap × Identifier)) :
    declaredFrom name tail = name :: tail.map (fun other => other.2.chars) ↔
      ∀ other ∈ tail, other.1.before = 0 ∧ other.1.after ≠ 0 := by
  induction tail generalizing name with
  | nil => simp [declaredFrom]
  | cons other tail ih =>
    rw [declaredFrom, List.forall_mem_cons]
    split
    · next hBefore => simp [hBefore]
    · next hBefore =>
      split
      · next hAfter =>
        have hLength := length_declaredFrom_le (name ++ ',' :: other.2.chars) tail
        constructor
        · intro hSame
          simp only [hSame, List.length_cons, List.length_map] at hLength
          omega
        · rintro ⟨⟨-, hSome⟩, -⟩
          exact absurd hAfter hSome
      · next hAfter =>
        rw [List.map_cons, List.cons_inj_right, ih]
        constructor
        · intro hRest
          exact ⟨⟨by omega, hAfter⟩, hRest⟩
        · exact And.right

namespace NameList

/-- Outside type bodies and groups, the line of an assignment or of a declaration yields one fact
for each name that is found there, and nothing else. All names of an assignment are found exactly if
each comma has a blank on one side at least, and all names of a declaration exactly if each comma
has a blank behind it and none before it. -/
theorem facts_by_gaps (list : NameList) {state : ScanState}
    (hMode : state.mode? = none ∨ state.mode? = some .functionBody) (lineNo : Int) :
    scanLine state lineNo list.assignment =
      (state, list.assigned.map (nameFact assignsTable state.scope lineNo)) ∧
    scanLine state lineNo list.declaration =
      (state, list.declared.map (nameFact defsTable state.scope lineNo)) ∧
    (list.assigned = list.names ↔
      ∀ other ∈ list.tail, other.1.before ≠ 0 ∨ other.1.after ≠ 0) ∧
    (list.declared = list.names ↔
      ∀ other ∈ list.tail, other.1.before = 0 ∧ other.1.after ≠ 0) :=
  ⟨list.scanLine_assignment hMode lineNo, list.scanLine_declaration hMode lineNo,
    assignedFrom_eq_iff list.head.chars list.tail, declaredFrom_eq_iff list.head.chars list.tail⟩

/-- The names a and b with a blank before the comma between them. -/
def spacedPair : NameList where
  head := ⟨['a'], List.all_eq_true.mp (by decide), ⟨'a', rfl, by decide⟩, by decide, by decide⟩
  tail := [(⟨1, 0⟩,
    ⟨['b'], List.all_eq_true.mp (by decide), ⟨'b', rfl, by decide⟩, by decide, by decide⟩)]

/-- With a blank before the comma only, an assignment finds both names and a declaration the first
one. -/
theorem spacedPair_facts :
    ScanState.mode? {} = none ∧ spacedPair.assignment = "\ta ,b := 0".toList ∧
      scanLine {} 1 spacedPair.assignment =
        ({}, [nameFact assignsTable [] 1 ['a'], nameFact assignsTable [] 1 ['b']]) ∧
      spacedPair.declaration = "var a ,b int".toList ∧
      scanLine {} 1 spacedPair.declaration = ({}, [nameFact defsTable [] 1 ['a']]) := by
  have hMode : ScanState.mode? {} = none := rfl
  obtain ⟨hAssignment, hDeclaration, -, -⟩ := spacedPair.facts_by_gaps (.inl hMode) 1
  exact ⟨hMode, rfl, hAssignment, rfl, hDeclaration⟩

/-- Without blanks around the comma, an assignment to two names is taken for one to a third name,
and their declaration for one of a name with a comma in it. -/
theorem unspaced_names_fused :
    facts (.ofText "\ta,b := 0\n".toList) = [nameFact assignsTable [] 1 ['a', 'b']] ∧
      facts (.ofText "var a,b int\n".toList) = [nameFact defsTable [] 1 ['a', ',', 'b']] := by
  decide +kernel

end NameList

end CodeIndex.Go
