import CodeIndex.Proofs.GoMarks
import CodeIndex.Proofs.GoNesting
import CodeIndex.Proofs.PhysicalLines

/-! Comments are taken out of a line of Go in passes, line comments first, and literals are emptied
only after that. What comes out is compared with two lexers that go through the line once. The one
that knows comment marks only always agrees; the one that knows string literals too agrees exactly
where no mark is hidden in a literal and no line comment in a block comment. -/
namespace CodeIndex.Go

/-! The passes and a lexer that knows marks only. -/

/-- Where a lexer of comment marks stands: in code, in a block comment that was opened on the same
line, or in one from an earlier line. -/
inductive Zone where
  | code
  | comment
  | carried
  deriving DecidableEq, Repr

/-- The code of the rest of a line, and whether a block comment stays open at its end. Outside
comments a mark counts wherever it stands, and in a block comment of the same line the mark of a
line comment still drops the rest of the line, so that the block comment stays open. -/
def markFrom : Zone → List Char → List Char × Bool
  | .code, '/' :: '/' :: _ => ([], false)
  | .code, '/' :: '*' :: rest => markFrom .comment rest
  | .code, c :: rest => withChar c (markFrom .code rest)
  | .code, [] => ([], false)
  | .comment, '/' :: '/' :: _ => ([], true)
  | .comment, '*' :: '/' :: '/' :: _ => ([], true)
  | .comment, '*' :: '/' :: rest => withChar ' ' (markFrom .code rest)
  | .comment, _ :: rest => markFrom .comment rest
  | .comment, [] => ([], true)
  | .carried, '*' :: '/' :: rest => markFrom .code rest
  | .carried, _ :: rest => markFrom .carried rest
  | .carried, [] => ([], true)

/-- What the passes make of the rest of a line. In a comment everything up to its end is left out;
one that was opened on the same line is read only as far as the line goes without a line comment. -/
def passesFrom : Zone → List Char → List Char × Bool
  | .code, rest => dropBlockComments (dropLineComment rest)
  | .comment, rest =>
    match pairPosition? '*' '/' (dropLineComment rest) with
    | none => ([], true)
    | some position =>
      withChar ' ' (dropBlockComments ((dropLineComment rest).drop (position + 2)))
  | .carried, rest =>
    match pairPosition? '*' '/' rest with
    | none => ([], true)
    | some position => dropBlockComments (dropLineComment (rest.drop (position + 2)))

/-- Two characters are no pair if the rest never starts with the second one after the first. -/
theorem not_pair_of_forall {a b c : Char} {rest : List Char}
    (hPair : ∀ tail, c = a → rest = b :: tail → False) : ¬(c = a ∧ rest.head? = some b) := by
  rintro ⟨hFirst, hHead⟩
  obtain ⟨tail, hTail⟩ := List.head?_eq_some_iff.mp hHead
  exact hPair tail hFirst hTail

theorem passesFrom_code_open {rest : List Char} (hLine : '\n' ∉ rest) :
    passesFrom .code ('/' :: '*' :: rest) = passesFrom .comment rest := by
  have hKept : '\n' ∉ dropLineComment rest := fun hMem => hLine (mem_of_mem_dropLineComment hMem)
  rw [passesFrom, dropLineComment_cons (by simp), dropLineComment_cons (by simp), passesFrom]
  cases hClose : pairPosition? '*' '/' (dropLineComment rest) with
  | none => exact dropBlockComments_open hClose hKept
  | some position => exact dropBlockComments_closed hClose hKept

theorem passesFrom_code_cons {c : Char} {rest : List Char}
    (hLine : ¬(c = '/' ∧ rest.head? = some '/')) (hOpen : ¬(c = '/' ∧ rest.head? = some '*')) :
    passesFrom .code (c :: rest) = withChar c (passesFrom .code rest) := by
  rw [passesFrom, dropLineComment_cons hLine, dropBlockComments_cons, passesFrom]
  exact fun hHead => hOpen ⟨hHead.1, head?_of_head?_dropLineComment hHead.2⟩

/-- A closing mark leaves a space behind, unless a slash follows it and makes it the start of a line
comment. -/
theorem passesFrom_comment_close {rest : List Char} (hSlash : rest.head? ≠ some '/') :
    passesFrom .comment ('*' :: '/' :: rest) = withChar ' ' (passesFrom .code rest) := by
  have hDrop : dropLineComment ('*' :: '/' :: rest) = '*' :: '/' :: dropLineComment rest := by
    rw [dropLineComment_cons (by simp), dropLineComment_cons (by simp [hSlash])]
  have hClose := pairPosition?_cons_pair '*' '/' (dropLineComment rest)
  simp only [passesFrom, hDrop, hClose]
  rfl

theorem passesFrom_comment_cons {c : Char} {rest : List Char}
    (hLine : ¬(c = '/' ∧ rest.head? = some '/')) (hClose : ¬(c = '*' ∧ rest.head? = some '/')) :
    passesFrom .comment (c :: rest) = passesFrom .comment rest := by
  have hPair : ¬(c = '*' ∧ (dropLineComment rest).head? = some '/') :=
    fun hHead => hClose ⟨hHead.1, head?_of_head?_dropLineComment hHead.2⟩
  rw [passesFrom, dropLineComment_cons hLine, pairPosition?_cons hPair, passesFrom]
  cases pairPosition? '*' '/' (dropLineComment rest) <;> rfl

/-- In a comment that began on an earlier line two slashes mean nothing. -/
theorem passesFrom_carried_cons {c : Char} {rest : List Char}
    (hClose : ¬(c = '*' ∧ rest.head? = some '/')) :
    passesFrom .carried (c :: rest) = passesFrom .carried rest := by
  rw [passesFrom, pairPosition?_cons hClose, passesFrom]
  cases pairPosition? '*' '/' rest <;> rfl

/-- The passes find what the lexer of marks finds. -/
theorem passesFrom_eq_markFrom {zone : Zone} {rest : List Char} (hLine : '\n' ∉ rest) :
    passesFrom zone rest = markFrom zone rest := by
  have hTail {c : Char} {tail : List Char} (hMem : '\n' ∉ c :: tail) : '\n' ∉ tail :=
    fun hFeed => hMem (List.mem_cons_of_mem _ hFeed)
  fun_induction markFrom zone rest with
  | case1 rest => rw [passesFrom, dropLineComment_mark]; rfl
  | case2 rest ih => rw [passesFrom_code_open (hTail (hTail hLine)), ih (hTail (hTail hLine))]
  | case3 c rest hSlashes hOpen ih =>
    rw [passesFrom_code_cons (not_pair_of_forall hSlashes) (not_pair_of_forall hOpen),
      ih (hTail hLine)]
  | case4 => rfl
  | case5 rest => rw [passesFrom, dropLineComment_mark]; rfl
  | case6 rest => rw [passesFrom, dropLineComment_cons (by simp), dropLineComment_mark]; rfl
  | case7 rest hSlash ih =>
    have hHead : rest.head? ≠ some '/' := by
      intro hHead
      obtain ⟨tail, hTail⟩ := List.head?_eq_some_iff.mp hHead
      exact hSlash tail hTail
    rw [passesFrom_comment_close hHead, ih (hTail (hTail hLine))]
  | case8 c rest hSlashes _ hClose ih =>
    rw [passesFrom_comment_cons (not_pair_of_forall hSlashes) (not_pair_of_forall hClose),
      ih (hTail hLine)]
  | case9 => rfl
  | case10 rest ih =>
    rw [← ih (hTail (hTail hLine))]
    simp only [passesFrom, pairPosition?_cons_pair]
    rfl
  | case11 c rest hClose ih =>
    rw [passesFrom_carried_cons (not_pair_of_forall hClose), ih (hTail hLine)]
  | case12 => rfl

/-! A lexer that knows string literals. -/

/-- Where the lexer stands: in code, in a string literal, behind a backslash in one, in a block
comment that was opened on the same line, or in one from an earlier line. -/
inductive Region where
  | code
  | literal
  | escaped
  | comment
  | carried
  deriving DecidableEq, Repr

/-- The region behind a character of code or of a literal. -/
def Region.next : Region → Char → Region
  | .code, c => if c = '"' then .literal else .code
  | .literal, c => if c = '"' then .code else if c = '\\' then .escaped else .literal
  | _, _ => .literal

/-- The code of the rest of a line, with its literals, and whether a block comment stays open at the
end. Outside comments a quote opens a literal up to the quote that closes it or to the end of the
line, two slashes drop the rest, and a block comment goes up to its next closing mark and leaves a
space if it was opened here. Whatever comes first counts. -/
def lexFrom : Region → List Char → List Char × Bool
  | .code, '/' :: '/' :: _ => ([], false)
  | .code, '/' :: '*' :: rest => lexFrom .comment rest
  | .code, c :: rest => withChar c (lexFrom (Region.next .code c) rest)
  | .code, [] => ([], false)
  | .literal, c :: rest => withChar c (lexFrom (Region.next .literal c) rest)
  | .literal, [] => ([], false)
  | .escaped, c :: rest => withChar c (lexFrom .literal rest)
  | .escaped, [] => ([], false)
  | .comment, '*' :: '/' :: rest => withChar ' ' (lexFrom .code rest)
  | .comment, _ :: rest => lexFrom .comment rest
  | .comment, [] => ([], true)
  | .carried, '*' :: '/' :: rest => lexFrom .code rest
  | .carried, _ :: rest => lexFrom .carried rest
  | .carried, [] => ([], true)

/-- Whether a text starts with a mark that opens a comment. -/
def startsComment : List Char → Bool
  | '/' :: '/' :: _ => true
  | '/' :: '*' :: _ => true
  | _ => false

/-- Whether the rest of a line holds no mark that only the passes take for one: none of the marks
that open a comment begins in a literal, and two slashes begin in no block comment that is opened
and closed on the line. -/
def isPlain : Region → List Char → Bool
  | .code, '/' :: '/' :: _ => true
  | .code, '/' :: '*' :: rest => isPlain .comment rest
  | .code, c :: rest => isPlain (Region.next .code c) rest
  | .code, [] => true
  | .literal, c :: rest => !startsComment (c :: rest) && isPlain (Region.next .literal c) rest
  | .literal, [] => true
  | .escaped, c :: rest => !startsComment (c :: rest) && isPlain .literal rest
  | .escaped, [] => true
  | .comment, '/' :: '/' :: rest => (pairPosition? '*' '/' rest).isNone
  | .comment, '*' :: '/' :: '/' :: _ => false
  | .comment, '*' :: '/' :: rest => isPlain .code rest
  | .comment, _ :: rest => isPlain .comment rest
  | .comment, [] => true
  | .carried, '*' :: '/' :: rest => isPlain .code rest
  | .carried, _ :: rest => isPlain .carried rest
  | .carried, [] => true

/-- The zone of a region for a lexer that does not know literals. -/
def Region.zone : Region → Zone
  | .code | .literal | .escaped => .code
  | .comment => .comment
  | .carried => .carried

theorem Region.zone_next (region : Region) (c : Char) : (region.next c).zone = .code := by
  cases region with
  | code => rw [next]; split_ifs <;> rfl
  | literal => rw [next]; split_ifs <;> rfl
  | _ => rfl

theorem withChar_inj {c d : Char} {found other : List Char × Bool} :
    withChar c found = withChar d other ↔ c = d ∧ found = other := by
  obtain ⟨code, isOpen⟩ := found
  obtain ⟨otherCode, otherOpen⟩ := other
  simp [withChar, and_assoc]

theorem nil_ne_withChar (isOpen : Bool) (c : Char) (found : List Char × Bool) :
    ([], isOpen) ≠ withChar c found := by
  simp [withChar]

/-- In a block comment of the same line the lexer goes on behind the next closing mark. -/
theorem lexFrom_comment (rest : List Char) :
    lexFrom .comment rest =
      match pairPosition? '*' '/' rest with
      | none => ([], true)
      | some position => withChar ' ' (lexFrom .code (rest.drop (position + 2))) := by
  induction rest with
  | nil => rfl
  | cons c rest ih =>
    by_cases hClose : c = '*' ∧ rest.head? = some '/'
    · obtain ⟨rfl, hHead⟩ := hClose
      obtain ⟨tail, rfl⟩ := List.head?_eq_some_iff.mp hHead
      simp only [pairPosition?_cons_pair]
      rfl
    · rw [lexFrom, ih, pairPosition?_cons hClose]
      · cases pairPosition? '*' '/' rest <;> rfl
      · rintro tail rfl rfl
        exact hClose ⟨rfl, rfl⟩

/-- Behind an opening mark the code of a line is at its end or goes on with a space. -/
theorem markFrom_comment_ne_withChar {c : Char} (hSpace : c ≠ ' ') (rest : List Char)
    (found : List Char × Bool) : markFrom .comment rest ≠ withChar c found := by
  generalize hZone : Zone.comment = zone
  fun_induction markFrom zone rest with
  | case5 | case6 | case9 => exact nil_ne_withChar true c found
  | case7 => exact fun hEq => hSpace (withChar_inj.mp hEq).1.symm
  | case8 _ _ _ _ _ ih => exact ih rfl
  | _ => cases hZone

/-- Text that starts no comment is code for the lexer of marks. -/
theorem markFrom_code_cons {c : Char} {rest : List Char}
    (hPlain : startsComment (c :: rest) = false) :
    markFrom .code (c :: rest) = withChar c (markFrom .code rest) := by
  rw [markFrom]
  · rintro tail rfl rfl
    simp [startsComment] at hPlain
  · rintro tail rfl rfl
    simp [startsComment] at hPlain

/-- A mark that opens a comment is no code for the lexer of marks. -/
theorem markFrom_code_ne_withChar {c : Char} {rest : List Char}
    (hStarts : startsComment (c :: rest) = true) (found : List Char × Bool) :
    markFrom .code (c :: rest) ≠ withChar c found := by
  unfold startsComment at hStarts
  split at hStarts
  · next hText =>
    obtain ⟨rfl, rfl⟩ := List.cons.inj hText
    exact nil_ne_withChar false _ found
  · next hText =>
    obtain ⟨rfl, rfl⟩ := List.cons.inj hText
    exact markFrom_comment_ne_withChar (by decide) _ found
  · cases hStarts

/-- A character of a literal is the same to both lexers unless it starts a comment for the one. -/
theorem markFrom_literal_iff {c : Char} {rest : List Char} {found : List Char × Bool} {plain : Bool}
    (hRest : markFrom .code rest = found ↔ plain = true) :
    markFrom .code (c :: rest) = withChar c found ↔
      (!startsComment (c :: rest) && plain) = true := by
  cases hStarts : startsComment (c :: rest) with
  | true => simpa using markFrom_code_ne_withChar hStarts found
  | false => simpa [markFrom_code_cons hStarts, withChar_inj] using hRest

/-- The two lexers agree on the rest of a line, its code included, exactly if it is plain. -/
theorem markFrom_eq_lexFrom_iff (region : Region) (rest : List Char) :
    markFrom region.zone rest = lexFrom region rest ↔ isPlain region rest = true := by
  fun_induction isPlain region rest with
  | case1 rest => exact ⟨fun _ => rfl, fun _ => rfl⟩
  | case2 rest ih => exact ih
  | case3 c rest hSlashes hOpen ih =>
    rw [Region.zone_next] at ih
    rw [Region.zone, markFrom, lexFrom, withChar_inj, ih]
    · simp
    all_goals assumption
  | case4 => exact ⟨fun _ => rfl, fun _ => rfl⟩
  | case5 c rest ih =>
    rw [Region.zone_next] at ih
    exact markFrom_literal_iff ih
  | case6 => exact ⟨fun _ => rfl, fun _ => rfl⟩
  | case7 c rest ih => exact markFrom_literal_iff ih
  | case8 => exact ⟨fun _ => rfl, fun _ => rfl⟩
  | case9 rest =>
    -- a comment with two slashes in it is the same to both lexers only if it is not closed
    have hMark : markFrom Region.comment.zone ('/' :: '/' :: rest) = ([], true) := rfl
    rw [hMark, lexFrom_comment, pairPosition?_cons (by simp), pairPosition?_cons (by simp)]
    cases pairPosition? '*' '/' rest with
    | none => simp
    | some position => simpa using nil_ne_withChar true ' ' _
  | case10 rest =>
    exact ⟨fun hEq => absurd hEq (nil_ne_withChar true ' ' _), nofun⟩
  | case11 rest hSlash ih =>
    rw [Region.zone, markFrom, lexFrom, withChar_inj]
    · simpa [Region.zone] using ih
    · exact hSlash
  | case12 c rest hSlashes hClosed hClose ih =>
    rw [Region.zone, markFrom, lexFrom]
    · exact ih
    all_goals assumption
  | case13 => exact ⟨fun _ => rfl, fun _ => rfl⟩
  | case14 rest ih => exact ih
  | case15 c rest hClose ih =>
    rw [Region.zone, markFrom, lexFrom]
    · exact ih
    all_goals assumption
  | case16 => exact ⟨fun _ => rfl, fun _ => rfl⟩

/-! Lines, one after the other. -/

/-- What the passes make of a line that starts inside or outside a block comment. -/
def passesLine (inside : Bool) (line : List Char) : List Char × Bool :=
  passesFrom (if inside then .carried else .code) line

/-- What the lexer of marks makes of a line that starts inside or outside a block comment. -/
def markLine (inside : Bool) (line : List Char) : List Char × Bool :=
  markFrom (if inside then .carried else .code) line

/-- What the lexer makes of a line that starts inside or outside a block comment. -/
def lexLine (inside : Bool) (line : List Char) : List Char × Bool :=
  lexFrom (if inside then .carried else .code) line

/-- Whether a line that starts inside or outside a block comment is plain. -/
def isPlainLine (inside : Bool) (line : List Char) : Bool :=
  isPlain (if inside then .carried else .code) line

/-- Whether a block comment is open after lines, by what is made of each of them. -/
def insideAfter (lexer : Bool → List Char → List Char × Bool) :
    (inside : Bool) → List (List Char) → Bool
  | inside, [] => inside
  | inside, line :: rest => insideAfter lexer (lexer inside line).2 rest

/-- Whether each line is plain where the lexer comes to it. -/
def arePlain : (inside : Bool) → List (List Char) → Bool
  | _, [] => true
  | inside, line :: rest => isPlainLine inside line && arePlain (lexLine inside line).2 rest

/-- The passes over a line give what the lexer of marks gives. -/
theorem passesLine_eq_markLine {line : List Char} (hLine : '\n' ∉ line) (inside : Bool) :
    passesLine inside line = markLine inside line :=
  passesFrom_eq_markFrom hLine

/-- The lexer of marks agrees with the lexer exactly on plain lines. -/
theorem markLine_eq_lexLine_iff (inside : Bool) (line : List Char) :
    markLine inside line = lexLine inside line ↔ isPlainLine inside line = true := by
  cases inside with
  | false => exact markFrom_eq_lexFrom_iff .code line
  | true => exact markFrom_eq_lexFrom_iff .carried line

/-- The passes and the lexer of marks agree on whether a comment is open after some lines. -/
theorem insideAfter_passesLine {lines : List (List Char)} (hLines : ∀ line ∈ lines, '\n' ∉ line)
    (inside : Bool) : insideAfter passesLine inside lines = insideAfter markLine inside lines := by
  induction lines generalizing inside with
  | nil => rfl
  | cons line rest ih =>
    rw [insideAfter, insideAfter, passesLine_eq_markLine (hLines line List.mem_cons_self),
      ih fun other hOther => hLines other (List.mem_cons_of_mem _ hOther)]

/-- After plain lines the lexer of marks knows whether a comment is open. The induction is on the
lines. -/
theorem insideAfter_markLine {inside : Bool} {lines : List (List Char)}
    (hPlain : arePlain inside lines = true) :
    insideAfter markLine inside lines = insideAfter lexLine inside lines := by
  induction lines generalizing inside with
  | nil => rfl
  | cons line rest ih =>
    rw [arePlain, Bool.and_eq_true] at hPlain
    rw [insideAfter, insideAfter, (markLine_eq_lexLine_iff inside line).mpr hPlain.1, ih hPlain.2]

namespace Nest

variable {nest : Nest}

/-- A line that is read outside comments ends in one exactly if the passes left one open. -/
theorem IsSound.mode?_outside (hSound : nest.IsSound) (hTop : nest.mode? ≠ some .comment)
    (line : List Char) :
    ((outsideActions nest.mode? line).foldl ScanState.perform nest.toState).mode? =
        some .comment ↔ (dropBlockComments (dropLineComment line)).2 = true := by
  simp only [outsideActions, List.foldl_append]
  cases (dropBlockComments (dropLineComment line)).2 with
  | true => simp [ScanState.perform, ScanState.push, ScanState.mode?]
  | false =>
    simp only [Bool.false_eq_true, if_false, List.foldl_nil, iff_false]
    cases hAction : codeAction? nest.mode? _ with
    | none =>
      rw [Option.toList_none, List.foldl_nil, mode?_toState]
      exact hTop
    | some action =>
      obtain ⟨hFits, hEnters⟩ := codeAction?_fits hTop hAction
      obtain ⟨next, hPerform, -, hState⟩ := hSound.exists_perform hFits
      rw [Option.toList_some, List.foldl_cons, List.foldl_nil, ← hState, mode?_toState]
      exact hSound.mode?_ne_comment hFits hEnters hPerform

/-- The scan is in a comment after a line exactly if the passes over the line leave one open. -/
theorem IsSound.mode?_scanLine (hSound : nest.IsSound) (lineNo : Int) (line : List Char) :
    (scanLine nest.toState lineNo line).1.mode? = some .comment ↔
      (passesLine (nest.mode? = some .comment) line).2 = true := by
  rw [scanLine_fst, lineActions, mode?_toState]
  by_cases hComment : nest.mode? = some .comment
  · rw [if_pos hComment]
    simp only [passesLine, hComment, decide_true, if_true, passesFrom]
    cases pairPosition? '*' '/' line with
    | none => simpa [mode?_toState] using hComment
    | some position =>
      have hFits : (Action.leave .comment).fits nest.mode? = true := by simp [Action.fits, hComment]
      obtain ⟨middle, hPerform, hMiddle, hState⟩ := hSound.exists_perform hFits
      have hOutside := hMiddle.mode?_outside (hSound.mode?_ne_comment hFits rfl hPerform)
        (line.drop (position + 2))
      rw [← mode?_toState, hState] at hOutside
      exact hOutside
  · rw [if_neg hComment]
    simpa [passesLine, hComment, passesFrom] using hSound.mode?_outside hComment line

/-- After any lines the scanner is in a comment exactly if the passes left one open. -/
theorem IsSound.mode?_stateAfter (hSound : nest.IsSound) (lineNo : Int)
    (lines : List (List Char)) :
    (stateAfter nest.toState lineNo lines).mode? = some .comment ↔
      insideAfter passesLine (nest.mode? = some .comment) lines = true := by
  induction lines generalizing nest lineNo with
  | nil => simp [stateAfter, insideAfter, mode?_toState]
  | cons line rest ih =>
    obtain ⟨next, hRuns⟩ := hSound.exists_runs_line line
    obtain ⟨hNext, hState⟩ := hRuns.isSound_toState hSound
    have hLine := hSound.mode?_scanLine lineNo line
    rw [scanLine_fst, ← hState, mode?_toState] at hLine
    rw [stateAfter, insideAfter, scanLine_fst, ← hState, ih hNext]
    simp only [hLine, Bool.decide_eq_true]

end Nest

/-- The scan of a line by what was found in it: the code is read in the innermost mode, with its
literals emptied unless imports are read, and then a comment that stays open is entered. -/
def scanFound (state : ScanState) (lineNo : Int) (found : List Char × Bool) :
    ScanState × List Fact :=
  let code := if state.mode? = some .importGroup || startsImport found.1 then found.1
    else blankLiterals found.1
  let (next, facts) := scanCode state lineNo code
  (if found.2 then next.push .comment else next, facts)

/-- The scanner hands on what the lexer of marks finds. In a comment that is not closed on the line
it does nothing. -/
theorem scanLine_eq_scanFound (state : ScanState) (lineNo : Int) {line : List Char}
    (hLine : '\n' ∉ line) :
    scanLine state lineNo line =
      if state.mode? ≠ some .comment then scanFound state lineNo (markLine false line)
      else if ['*', '/'] <:+: line then scanFound state.pop lineNo (markLine true line)
      else (state, []) := by
  rw [← passesLine_eq_markLine hLine, ← passesLine_eq_markLine hLine, scanLine]
  by_cases hComment : state.mode? = some .comment
  · rw [if_pos hComment, if_neg (not_not.mpr hComment)]
    cases hClose : pairPosition? '*' '/' line with
    | none => rw [if_neg (pairPosition?_eq_none_iff.mp hClose)]
    | some position =>
      have hInfix : ['*', '/'] <:+: line := by
        by_contra hNone
        rw [pairPosition?_eq_none_iff.mpr hNone] at hClose
        cases hClose
      rw [if_pos hInfix]
      simp only [passesLine, if_true, passesFrom, hClose]
      rfl
  · rw [if_neg hComment, if_pos hComment]
    rfl

/-- After any number of lines of any text, the scanner is in a comment exactly if the lexer of marks
is, and what it does with a line is decided by the code that this lexer finds there. The lexer that
knows string literals finds the same exactly if the line is plain; as long as all lines are plain,
the scanner is in a comment exactly if that lexer is. -/
theorem comment_iff_insideAfter (text : List Char) (count : Nat) :
    let lines := (SourceText.ofText text).lines
    let state := stateAfter {} 1 (lines.take count)
    (state.mode? = some .comment ↔ insideAfter markLine false (lines.take count) = true) ∧
    (∀ line ∈ lines, ∀ state lineNo, scanLine state lineNo line =
      if state.mode? ≠ some .comment then scanFound state lineNo (markLine false line)
      else if ['*', '/'] <:+: line then scanFound state.pop lineNo (markLine true line)
      else (state, [])) ∧
    (∀ line inside, markLine inside line = lexLine inside line ↔ isPlainLine inside line = true) ∧
    (arePlain false (lines.take count) = true →
      (state.mode? = some .comment ↔ insideAfter lexLine false (lines.take count) = true)) := by
  intro lines state
  have hLines : ∀ line ∈ lines, '\n' ∉ line := fun line hLine =>
    lineFeed_not_mem_of_mem_physicalLines hLine
  have hMarks : state.mode? = some .comment ↔
      insideAfter markLine false (lines.take count) = true := by
    have hEmpty : Nest.IsSound {} := ⟨rfl, nofun⟩
    rw [← insideAfter_passesLine fun line hLine => hLines line (List.mem_of_mem_take hLine)]
    exact hEmpty.mode?_stateAfter 1 (lines.take count)
  refine ⟨hMarks, ?_, fun line inside => markLine_eq_lexLine_iff inside line, fun hPlain => ?_⟩
  · exact fun line hLine state lineNo => scanLine_eq_scanFound state lineNo (hLines line hLine)
  · rw [hMarks, insideAfter_markLine hPlain]

/-- Marks of all kinds that no lexer takes for another: a closing mark in a literal, quotes and
slashes in comments, and an opening mark behind two slashes. -/
def plainText : List Char :=
  "x := f(\"\\\"*/\") /* \"open // on\nstill */ g() /* in \" */ h() // \"/*\n".toList

/-- A comment is open after the first of these lines and closed after the second. -/
theorem plainText_comment_iff :
    arePlain false ((SourceText.ofText plainText).lines.take 1) = true ∧
    ((stateAfter {} 1 ((SourceText.ofText plainText).lines.take 1)).mode? = some .comment ↔
      insideAfter lexLine false ((SourceText.ofText plainText).lines.take 1) = true) ∧
    insideAfter lexLine false ((SourceText.ofText plainText).lines.take 1) = true ∧
    arePlain false ((SourceText.ofText plainText).lines.take 2) = true ∧
    ((stateAfter {} 1 ((SourceText.ofText plainText).lines.take 2)).mode? = some .comment ↔
      insideAfter lexLine false ((SourceText.ofText plainText).lines.take 2) = true) ∧
    insideAfter lexLine false ((SourceText.ofText plainText).lines.take 2) = false :=
  ⟨by decide, (comment_iff_insideAfter plainText 1).2.2.2 (by decide), by decide, by decide,
    (comment_iff_insideAfter plainText 2).2.2.2 (by decide), by decide⟩

/-- A literal that holds an opening mark. -/
def markInLiteral : List Char := "s := \"/*\"\nf()\n".toList

/-- The mark in the literal opens a comment for the scanner and not for the lexer that knows
literals, and the call in the next line is lost. There are no other quotes and no imports. -/
theorem markInLiteral_opens_comment :
    ('\x60' ∉ markInLiteral ∧ '\x27' ∉ markInLiteral ∧
      ∀ line ∈ (SourceText.ofText markInLiteral).lines, startsImport line = false) ∧
    (stateAfter {} 1 ((SourceText.ofText markInLiteral).lines.take 1)).mode? = some .comment ∧
    insideAfter lexLine false ((SourceText.ofText markInLiteral).lines.take 1) = false ∧
    facts (.ofText markInLiteral) =
      [{ table := assignsTable, name := ["s"], lineNo := some 1 }] := by
  decide

end CodeIndex.Go
