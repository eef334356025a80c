import CodeIndex.Proofs.GoComments
import CodeIndex.Proofs.GoPadding

/-! Every fact of a Go file is grounded in the line that it points to. Names are read from code out
of which comments and literals have been taken, but what is left of the line on their two sides is
never put together: a word of the code is a word of the line. -/
namespace CodeIndex.Go

/-! Words in texts -/

/-- Word characters next to each other, at least one, with some text right behind them. -/
structure IsWordBefore (next text word : List Char) : Prop where
  ne_nil : word ≠ []
  isWord : ∀ c ∈ word, isWord c = true
  isInfix : word ++ next <:+: text

/-- A word of a part of a text is a word of the text. -/
theorem IsWordBefore.mono {next text other word : List Char} (hWord : IsWordBefore next text word)
    (hText : text <:+: other) : IsWordBefore next other word :=
  { hWord with isInfix := hWord.isInfix.trans hText }

/-- A part that does not hold the first character of a text lies behind it. -/
theorem infix_of_infix_cons {c : Char} {part text : List Char} (hPart : part <:+: c :: text)
    (hFirst : c ∉ part) : part <:+: text := by
  rcases List.infix_cons_iff.mp hPart with hPrefix | hInfix
  · cases part with
    | nil => exact List.nil_infix
    | cons d part =>
      obtain rfl : d = c := (List.cons_prefix_cons.mp hPrefix).1
      exact absurd List.mem_cons_self hFirst
  · exact hInfix

/-- What stands at the start of the blanked code stands there in the code, up to the first quote. -/
theorem prefix_blankFrom {code part : List Char} (hPart : part <+: blankFrom .outside code)
    (hQuote : '"' ∉ part) : part <+: code := by
  induction code generalizing part with
  | nil => exact hPart
  | cons c rest ih =>
    cases part with
    | nil => exact List.nil_prefix
    | cons d part =>
      rw [List.mem_cons, not_or] at hQuote
      rw [blankFrom] at hPart
      split_ifs at hPart with hOpens
      · exact absurd (List.cons_prefix_cons.mp hPart).1.symm hQuote.1
      · obtain ⟨rfl, hRest⟩ := List.cons_prefix_cons.mp hPart
        exact List.cons_prefix_cons.mpr ⟨rfl, ih hRest hQuote.2⟩

/-- What stands in code with emptied literals, and holds no quote, stands in the code. -/
theorem infix_of_infix_blankFrom {mode : LiteralMode} {code part : List Char}
    (hPart : part <:+: blankFrom mode code) (hQuote : '"' ∉ part) : part <:+: code := by
  fun_induction blankFrom mode code with
  | case1 => exact hPart
  | case2 rest ih =>
    have hInside := infix_of_infix_cons (infix_of_infix_cons hPart hQuote) hQuote
    exact (ih hInside).trans (List.suffix_cons _ _).isInfix
  | case3 c rest hOpens ih =>
    rcases List.infix_cons_iff.mp hPart with hPrefix | hInfix
    · apply List.IsPrefix.isInfix
      apply prefix_blankFrom _ hQuote
      rwa [blankFrom, if_neg hOpens]
    · exact (ih hInfix).trans (List.suffix_cons _ _).isInfix
  | case4 rest ih => exact (ih hPart).trans (List.suffix_cons _ _).isInfix
  | case5 rest _ ih => exact (ih hPart).trans (List.suffix_cons _ _).isInfix
  | case6 c rest _ _ ih => exact (ih hPart).trans (List.suffix_cons _ _).isInfix
  | case7 c rest ih => exact (ih hPart).trans (List.suffix_cons _ _).isInfix

/-- Behind an opening mark the code is at its end or goes on with a space. -/
theorem eq_nil_of_prefix_markFrom_comment {part rest : List Char}
    (hPart : part <+: (markFrom .comment rest).1) (hSpace : ' ' ∉ part) : part = [] := by
  cases part with
  | nil => rfl
  | cons c part =>
    rw [List.mem_cons, not_or] at hSpace
    obtain ⟨tail, hCode⟩ := hPart
    refine absurd ?_ (markFrom_comment_ne_withChar (Ne.symm hSpace.1) rest
      (part ++ tail, (markFrom .comment rest).2))
    rw [withChar, ← List.cons_append, hCode]

/-- What stands at the start of the marked line stands there in the line, up to the first space. A
comment leaves a space behind. -/
theorem prefix_markFrom {line part : List Char} (hPart : part <+: (markFrom .code line).1)
    (hSpace : ' ' ∉ part) : part <+: line := by
  generalize hZone : Zone.code = zone at hPart
  fun_induction markFrom zone line generalizing part with
  | case1 rest =>
    rw [List.prefix_nil.mp hPart]
    exact List.nil_prefix
  | case2 rest =>
    rw [eq_nil_of_prefix_markFrom_comment hPart hSpace]
    exact List.nil_prefix
  | case3 c rest _ _ ih =>
    cases part with
    | nil => exact List.nil_prefix
    | cons d part =>
      rw [List.mem_cons, not_or] at hSpace
      obtain ⟨rfl, hRest⟩ := List.cons_prefix_cons.mp hPart
      exact List.cons_prefix_cons.mpr ⟨rfl, ih hSpace.2 rfl hRest⟩
  | case4 => exact hPart
  | _ => cases hZone

/-- What stands in the code of a line, and holds no space, stands in the line. -/
theorem infix_of_infix_markFrom {zone : Zone} {line part : List Char}
    (hPart : part <:+: (markFrom zone line).1) (hSpace : ' ' ∉ part) : part <:+: line := by
  fun_induction markFrom zone line with
  | case3 c rest hLine hOpen ih =>
    rcases List.infix_cons_iff.mp hPart with hPrefix | hInfix
    · apply List.IsPrefix.isInfix
      apply prefix_markFrom _ hSpace
      rwa [markFrom]
      · exact hLine
      · exact hOpen
    · exact (ih hInfix).trans (List.suffix_cons _ _).isInfix
  | case7 rest _ ih =>
    have hCode := infix_of_infix_cons hPart hSpace
    exact (ih hCode).trans (List.suffix_append ['*', '/'] rest).isInfix
  | case2 rest ih => exact (ih hPart).trans (List.suffix_append ['/', '*'] rest).isInfix
  | case10 rest ih => exact (ih hPart).trans (List.suffix_append ['*', '/'] rest).isInfix
  | case8 c rest _ _ _ ih => exact (ih hPart).trans (List.suffix_cons _ _).isInfix
  | case11 c rest _ ih => exact (ih hPart).trans (List.suffix_cons _ _).isInfix
  | case4 | case9 | case12 => exact hPart
  | case1 | case5 | case6 =>
    rw [List.infix_nil.mp hPart]
    exact List.nil_infix

/-- A word and what follows it hold no other characters. -/
theorem not_mem_word {next text word : List Char} {c : Char} (hWord : IsWordBefore next text word)
    (hNext : c ∉ next) (hc : isWord c = false) : c ∉ word ++ next := by
  intro hMem
  rcases List.mem_append.mp hMem with hMem | hMem
  · rw [hWord.isWord c hMem] at hc
    cases hc
  · exact hNext hMem

/-- A word outside literals is a word of the code. -/
theorem IsWordBefore.of_blankLiterals {next code word : List Char} (hQuote : '"' ∉ next)
    (hWord : IsWordBefore next (blankLiterals code) word) : IsWordBefore next code word :=
  { hWord with
    isInfix := infix_of_infix_blankFrom hWord.isInfix (not_mem_word hWord hQuote (by decide)) }

/-- A word outside comments is a word of the line. -/
theorem IsWordBefore.of_markFrom {zone : Zone} {next line word : List Char} (hSpace : ' ' ∉ next)
    (hWord : IsWordBefore next (markFrom zone line).1 word) : IsWordBefore next line word :=
  { hWord with
    isInfix := infix_of_infix_markFrom hWord.isInfix (not_mem_word hWord hSpace (by decide)) }

/-! Words that are read from the start of a text -/

/-- What is left behind fixed characters is an end of the text. -/
theorem suffix_of_after? {chars text rest : List Char} (hRest : after? chars text = some rest) :
    rest <:+ text := by
  fun_induction after? chars text with
  | case1 text =>
    cases hRest
    exact List.suffix_rfl
  | case2 chars c text ih => exact (ih hRest).trans (List.suffix_cons _ _)
  | case3 | case4 => cases hRest

theorem skipBlanks_suffix (text : List Char) : skipBlanks text <:+ text :=
  List.dropWhile_suffix isBlank

theorem suffix_of_blanks? {text rest : List Char} (hRest : blanks? text = some rest) :
    rest <:+ text := by
  cases text with
  | nil => cases hRest
  | cons c text =>
    rw [blanks?] at hRest
    split_ifs at hRest
    cases hRest
    exact (skipBlanks_suffix text).trans (List.suffix_cons _ _)

theorem suffix_of_keyword? {keyword : String} {text rest : List Char}
    (hRest : keyword? keyword text = some rest) : rest <:+ text := by
  obtain ⟨middle, hKeyword, hBlanks⟩ := Option.bind_eq_some_iff.mp hRest
  exact (suffix_of_blanks? hBlanks).trans (suffix_of_after? hKeyword)

theorem skipBrackets_suffix (text : List Char) : skipBrackets text <:+ text := by
  rw [skipBrackets.eq_def]
  split
  · rename_i rest
    split
    · rename_i closing tail hTail
      have hSuffix : closing :: tail <:+ rest := hTail ▸ List.dropWhile_suffix _
      exact ((List.suffix_cons _ _).trans hSuffix).trans (List.suffix_cons _ _)
    · exact List.suffix_rfl
  · exact List.suffix_rfl

/-- A word that is read stands in the text, and so does the rest behind it. -/
theorem word?_spec {text word rest : List Char} (hWord : word? text = some (word, rest)) :
    IsWordBefore [] text word ∧ rest <:+ text := by
  rw [word?] at hWord
  split_ifs at hWord with hEmpty
  cases hWord
  refine ⟨⟨by simpa using hEmpty, fun c hc => List.mem_takeWhile_imp hc, ?_⟩,
    List.dropWhile_suffix _⟩
  rw [List.append_nil]
  exact (List.takeWhile_prefix _).isInfix

theorem suffix_of_starredType? {text type rest : List Char}
    (hType : starredType? text = some (type, rest)) : rest <:+ text := by
  rw [starredType?.eq_def] at hType
  split at hType
  · exact ((word?_spec hType).2.trans (skipBlanks_suffix _)).trans (List.suffix_cons _ _)
  · exact (word?_spec hType).2

theorem suffix_of_receiverType? {text receiver rest : List Char}
    (hReceiver : receiverType? text = some (receiver, rest)) : rest <:+ text := by
  cases hWord : word? text with
  | none =>
    rw [receiverType?_of_none hWord] at hReceiver
    exact suffix_of_starredType? hReceiver
  | some found =>
    obtain ⟨name, behind⟩ := found
    rw [receiverType?_of_some hWord] at hReceiver
    refine .trans ?_ (word?_spec hWord).2
    rcases Option.or_eq_some_iff.mp hReceiver with hNamed | ⟨-, hPlain⟩
    · obtain ⟨next, hNext, hType⟩ := Option.bind_eq_some_iff.mp hNamed
      exact (suffix_of_starredType? hType).trans (suffix_of_blanks? hNext)
    · cases hPlain
      exact List.suffix_rfl

/-- The word at the start of a rest of a text. -/
theorem isWordBefore_of_suffix {text start word rest : List Char}
    (hWord : word? start = some (word, rest)) (hStart : start <:+ text) :
    IsWordBefore [] text word :=
  (word?_spec hWord).1.mono hStart.isInfix

/-- The name of a function is a word of its line. -/
theorem functionName?_isWord {line name : List Char} (hName : functionName? line = some name) :
    IsWordBefore [] line name := by
  obtain ⟨rest, hKeyword, hName⟩ := Option.bind_eq_some_iff.mp hName
  obtain ⟨⟨word, behind⟩, hWord, hName⟩ := Option.bind_eq_some_iff.mp hName
  dsimp only at hName
  split_ifs at hName
  cases hName
  exact isWordBefore_of_suffix hWord (suffix_of_keyword? hKeyword)

theorem methodName?_isWord {line receiver name : List Char}
    (hName : methodName? line = some (receiver, name)) : IsWordBefore [] line name := by
  obtain ⟨start, hKeyword, hName⟩ := Option.bind_eq_some_iff.mp hName
  obtain ⟨inner, hOpen, hName⟩ := Option.bind_eq_some_iff.mp hName
  obtain ⟨⟨type, behind⟩, hType, hName⟩ := Option.bind_eq_some_iff.mp hName
  obtain ⟨rest, hClose, hName⟩ := Option.bind_eq_some_iff.mp hName
  obtain ⟨⟨word, tail⟩, hWord, hName⟩ := Option.bind_eq_some_iff.mp hName
  dsimp only at hName
  split_ifs at hName
  cases hName
  apply isWordBefore_of_suffix hWord
  calc skipBlanks rest <:+ rest := skipBlanks_suffix rest
    _ <:+ skipBlanks (skipBrackets behind) := suffix_of_after? hClose
    _ <:+ skipBrackets behind := skipBlanks_suffix _
    _ <:+ behind := skipBrackets_suffix behind
    _ <:+ skipBlanks inner := suffix_of_receiverType? hType
    _ <:+ inner := skipBlanks_suffix inner
    _ <:+ start := suffix_of_after? hOpen
    _ <:+ line := suffix_of_keyword? hKeyword

theorem typeName?_isWord {line name rest : List Char} (hName : typeName? line = some (name, rest)) :
    IsWordBefore [] line name := by
  obtain ⟨start, hKeyword, hWord⟩ := Option.bind_eq_some_iff.mp hName
  exact isWordBefore_of_suffix hWord (suffix_of_keyword? hKeyword)

theorem packageName?_isWord {line name : List Char} (hName : packageName? line = some name) :
    IsWordBefore [] line name := by
  obtain ⟨start, hKeyword, hName⟩ := Option.bind_eq_some_iff.mp hName
  obtain ⟨⟨word, rest⟩, hWord, hName⟩ := Option.bind_eq_some_iff.mp hName
  cases hName
  exact isWordBefore_of_suffix hWord (suffix_of_keyword? hKeyword)

theorem bodyTypeName?_isWord {keyword : String} {line name : List Char}
    (hName : bodyTypeName? keyword line = some name) : IsWordBefore [] line name := by
  obtain ⟨⟨word, rest⟩, hWord, hName⟩ := Option.bind_eq_some_iff.mp hName
  obtain ⟨_, -, hName⟩ := Option.bind_eq_some_iff.mp hName
  cases hName
  exact typeName?_isWord hWord

theorem nestedStruct?_isWord {line name : List Char} (hName : nestedStruct? line = some name) :
    IsWordBefore [] line name := by
  obtain ⟨⟨word, rest⟩, hWord, hName⟩ := Option.bind_eq_some_iff.mp hName
  obtain ⟨_, -, hName⟩ := Option.bind_eq_some_iff.mp hName
  split_ifs at hName
  cases hName
  exact isWordBefore_of_suffix hWord (skipBlanks_suffix line)

theorem interfaceMethod?_isWord {line name : List Char}
    (hName : interfaceMethod? line = some name) : IsWordBefore [] line name := by
  obtain ⟨⟨word, rest⟩, hWord, hName⟩ := Option.bind_eq_some_iff.mp hName
  obtain ⟨_, -, hName⟩ := Option.bind_eq_some_iff.mp hName
  cases hName
  exact isWordBefore_of_suffix hWord (skipBlanks_suffix line)

/-- The name that a shape declares is a word of the line. -/
def LineShape.DeclaresWordOf (line : List Char) : LineShape → Prop
  | .function name | .method _ name | .package name | .structType name | .interfaceType name
  | .namedType name => IsWordBefore [] line name
  | _ => True

/-- A choice between attempts has a property if each attempt that succeeds gives it, and so does the
last resort. -/
theorem getD_or {α : Type} {post : α → Prop} {first second : Option α} {last : α}
    (hFirst : ∀ value, first = some value → post value) (hSecond : post (second.getD last)) :
    post ((first.or second).getD last) := by
  cases first with
  | none => exact hSecond
  | some value => exact hFirst value rfl

/-- Whatever shape a line has, the name that it declares is a word of the line. -/
theorem ofLine_declaresWordOf (line : List Char) :
    (LineShape.ofLine line).DeclaresWordOf line := by
  have hMap {α : Type} {found : Option α} {shape : α → LineShape}
      (hFound : ∀ value, found = some value → (shape value).DeclaresWordOf line) :
      ∀ value, found.map shape = some value → value.DeclaresWordOf line := by
    rintro _ hValue
    obtain ⟨value, hSome, rfl⟩ := Option.map_eq_some_iff.mp hValue
    exact hFound value hSome
  have hIf {isShape : Bool} {shape : LineShape} (hShape : shape.DeclaresWordOf line) :
      ∀ value, (if isShape then some shape else none) = some value →
        value.DeclaresWordOf line := by
    rintro value hValue
    split_ifs at hValue
    cases hValue
    exact hShape
  refine getD_or (hMap fun _ hName => functionName?_isWord hName) <|
    getD_or (hMap fun _ hName => methodName?_isWord hName) <|
    getD_or (hMap fun _ hName => packageName?_isWord hName) <|
    getD_or (hMap fun _ hName => bodyTypeName?_isWord hName) <|
    getD_or (hMap fun _ hName => bodyTypeName?_isWord hName) <|
    getD_or (hMap fun _ hName => typeName?_isWord hName) <|
    getD_or (hMap fun _ _ => trivial) <| getD_or (hIf trivial) <| getD_or (hIf trivial) <|
    getD_or (hMap fun _ _ => trivial) ?_
  cases assignmentTargets? line <;> trivial

/-! Called names -/

/-- A called name ends in a word character that a parenthesis follows. -/
theorem calledFrom_spec {run text name : List Char} (hRun : ∀ c ∈ run, isCallPart c = true)
    (hName : name ∈ calledFrom run text) :
    (∀ c ∈ name, isCallPart c = true) ∧ (∃ c, name.getLast? = some c ∧ isWord c = true) ∧
      name ++ ['('] <:+: run.reverse ++ text := by
  induction text generalizing run with
  | nil => cases hName
  | cons c rest ih =>
    have hRest : rest <:+: run.reverse ++ c :: rest :=
      ((List.suffix_cons c rest).trans (List.suffix_append _ _)).isInfix
    rw [calledFrom] at hName
    split_ifs at hName with hPart hCall
    · have hLonger := ih (List.forall_mem_cons.mpr ⟨hPart, hRun⟩) hName
      rwa [List.reverse_cons, List.append_assoc, List.singleton_append] at hLonger
    · obtain ⟨rfl, hLast⟩ := hCall
      rcases List.mem_cons.mp hName with rfl | hLater
      · refine ⟨fun c hc => hRun c (List.mem_reverse.mp hc), ?_, ?_⟩
        · obtain ⟨last, hHead, hWord⟩ := (Option.any_eq_true _ _).mp hLast
          exact ⟨last, by rw [List.getLast?_reverse, hHead], hWord⟩
        · exact ((List.prefix_append_right_inj run.reverse).mpr ⟨rest, rfl⟩).isInfix
      · obtain ⟨hParts, hEnd, hInfix⟩ := ih (List.forall_mem_nil _) hLater
        exact ⟨hParts, hEnd, hInfix.trans hRest⟩
    · obtain ⟨hParts, hEnd, hInfix⟩ := ih (List.forall_mem_nil _) hName
      exact ⟨hParts, hEnd, hInfix.trans hRest⟩

/-- The last piece of a text stands at its end. It is empty only behind a separator. -/
theorem exists_last_splitAt (separator : Char) (text : List Char) :
    ∃ pieces last, splitAt separator text = pieces ++ [last] ∧ last <:+ text ∧
      (last = [] → text = [] ∨ text.getLast? = some separator) := by
  by_cases hMem : separator ∈ text
  · obtain ⟨last, before, hText, hLast⟩ :=
      List.eq_append_cons_of_mem (List.mem_reverse.mpr hMem)
    have hSplit : text = before.reverse ++ separator :: last.reverse := by
      rw [← List.reverse_reverse text, hText]
      simp
    refine ⟨splitAt separator before.reverse, last.reverse, ?_, ?_, fun hEmpty => .inr ?_⟩
    · have hPiece : separator ∉ last.reverse := by rwa [List.mem_reverse]
      rw [hSplit, splitAt_append, splitAt_of_not_mem hPiece]
    · rw [hSplit]
      exact (List.suffix_cons _ _).trans (List.suffix_append _ _)
    · rw [hSplit, hEmpty, List.getLast?_concat]
  · exact ⟨[], text, splitAt_of_not_mem hMem, List.suffix_rfl, fun hEmpty => .inl hEmpty⟩

/-- The last part of a name is a word that stands in a line, with some text right behind it. -/
def EndsInWord (next line : List Char) (name : List String) : Prop :=
  ∃ word, name.getLast? = some (nameText word) ∧ IsWordBefore next line word

/-- The last segment of a called name is a word that a parenthesis follows. -/
theorem endsInWord_segments {line name : List Char} (hName : name ∈ calledFrom [] line) :
    EndsInWord ['('] line (segments name) := by
  obtain ⟨hParts, ⟨c, hEnd, hc⟩, hInfix⟩ := calledFrom_spec (List.forall_mem_nil _) hName
  obtain ⟨pieces, last, hSplit, hSuffix, hEmpty⟩ := exists_last_splitAt '.' name
  have hFilled : last ≠ [] := by
    intro hNil
    rcases hEmpty hNil with rfl | hDot
    · cases hEnd
    · rw [hEnd] at hDot
      cases hDot
      revert hc
      decide
  have hNoDot : '.' ∉ last := not_mem_of_mem_splitAt (by rw [hSplit]; simp)
  refine ⟨last, ?_, hFilled, fun d hd => ?_, ?_⟩
  · have hKept : [last].filter (fun segment => !segment.isEmpty) = [last] :=
      List.filter_cons_of_pos (by simpa using hFilled)
    rw [segments, hSplit, List.filter_append, hKept, List.map_append]
    exact List.getLast?_concat
  · have hPart := hParts d (hSuffix.subset hd)
    rw [isCallPart, Bool.or_eq_true, beq_iff_eq] at hPart
    exact hPart.resolve_right fun hDot => hNoDot (hDot ▸ hd)
  · obtain ⟨front, rfl⟩ := hSuffix
    rw [List.append_assoc] at hInfix
    exact (List.suffix_append _ _).isInfix.trans hInfix

/-! Facts -/

/-- The kinds of definitions that have one. -/
def definitionKinds : List String := ["func", "class", "type", "package"]

/-- What a fact says is found in a line: it has a name, a called name is followed by a parenthesis
there, and the name of a definition of some kind stands there. -/
structure IsGroundedIn (line : List Char) (fact : Fact) : Prop where
  named : fact.name ≠ []
  call : fact.table = callsTable → EndsInWord ['('] line fact.name
  definition : fact.table = defsTable → ∀ kind ∈ fact.kind,
    kind ∈ definitionKinds ∧ EndsInWord [] line fact.name

/-- Such a name has a last part. -/
theorem EndsInWord.ne_nil {next line : List Char} {name : List String}
    (hName : EndsInWord next line name) : name ≠ [] := by
  obtain ⟨word, hLast, -⟩ := hName
  rintro rfl
  cases hLast

/-- A name that ends in a word of one line does so in another that has all its words. -/
theorem EndsInWord.mono {next line other : List Char} {name : List String}
    (hLine : ∀ word, IsWordBefore next line word → IsWordBefore next other word)
    (hName : EndsInWord next line name) : EndsInWord next other name := by
  obtain ⟨word, hLast, hWord⟩ := hName
  exact ⟨word, hLast, hLine word hWord⟩

/-- A fact that is grounded in the code of a line is grounded in the line. -/
theorem IsGroundedIn.of_code {code line : List Char} {fact : Fact}
    (hLine : ∀ next, next = [] ∨ next = ['('] →
      ∀ word, IsWordBefore next code word → IsWordBefore next line word)
    (hFact : IsGroundedIn code fact) : IsGroundedIn line fact where
  named := hFact.named
  call hTable := (hFact.call hTable).mono (hLine _ (.inr rfl))
  definition hTable kind hKind :=
    ⟨(hFact.definition hTable kind hKind).1,
      (hFact.definition hTable kind hKind).2.mono (hLine _ (.inl rfl))⟩

/-- All facts are those of one line, and are grounded in it. -/
def AreGroundedIn (line : List Char) (lineNo : Int) (facts : List Fact) : Prop :=
  ∀ fact ∈ facts, fact.lineNo = some lineNo ∧ IsGroundedIn line fact

namespace AreGroundedIn

variable {line : List Char} {lineNo : Int} {scope : List String}

theorem nil : AreGroundedIn line lineNo [] := nofun

/-- Facts are grounded together if they are apart. -/
theorem append {first second : List Fact} (hFirst : AreGroundedIn line lineNo first)
    (hSecond : AreGroundedIn line lineNo second) : AreGroundedIn line lineNo (first ++ second) :=
  List.forall_mem_append.mpr ⟨hFirst, hSecond⟩

theorem cons {fact : Fact} {others : List Fact}
    (hFact : AreGroundedIn line lineNo [fact]) (hOthers : AreGroundedIn line lineNo others) :
    AreGroundedIn line lineNo (fact :: others) := hFact.append hOthers

/-- A fact of another table, or a definition of no kind, needs no more than a name. -/
theorem ofTable {fact : Fact} (table : String) (hTable : fact.table = table)
    (hCalls : table ≠ callsTable) (hKind : table ≠ defsTable ∨ fact.kind = none)
    (hLine : fact.lineNo = some lineNo) (hName : fact.name ≠ []) :
    AreGroundedIn line lineNo [fact] := by
  subst hTable
  intro other hOther
  rw [List.mem_singleton.mp hOther]
  refine ⟨hLine, hName, fun hTable => absurd hTable hCalls, fun hTable kind hSome => ?_⟩
  rw [hKind.resolve_left (not_not.mpr hTable)] at hSome
  cases hSome

/-- A definition with a kind is grounded if its last part is a word of the line. -/
theorem kindFact {name : List String} {word : List Char} {kind : String}
    (hWord : IsWordBefore [] line word) (hKind : kind ∈ definitionKinds) :
    AreGroundedIn line lineNo [kindFact (name ++ [nameText word]) kind lineNo] := by
  intro fact hFact
  rw [List.mem_singleton.mp hFact]
  have hEnds : EndsInWord [] line (name ++ [nameText word]) :=
    ⟨word, List.getLast?_concat, hWord⟩
  refine ⟨rfl, hEnds.ne_nil, fun hTable => ?_, fun _ other hOther => ?_⟩
  · have hDifferent : defsTable ≠ callsTable := by decide
    exact absurd hTable hDifferent
  cases hOther
  exact ⟨hKind, hEnds⟩

/-- The calls on a line are grounded in it: each ends in a word with a parenthesis behind it. -/
theorem callFacts (line : List Char) :
    AreGroundedIn line lineNo (callFacts scope lineNo line) := by
  intro fact hFact
  obtain ⟨name, hName, hCall⟩ := List.mem_filterMap.mp hFact
  have hEnds := endsInWord_segments hName
  have hGrounded {name : List String} (hLast : EndsInWord ['('] line name) :
      IsGroundedIn line { table := callsTable, name := name, lineNo := lineNo } :=
    ⟨hLast.ne_nil, fun _ => hLast, nofun⟩
  rw [callFact?] at hCall
  split at hCall
  · cases hCall
  · rename_i segment hSegments
    rw [hSegments] at hEnds
    split_ifs at hCall
    · cases hCall
      exact ⟨rfl, hGrounded hEnds⟩
    · cases hCall
      refine ⟨rfl, hGrounded ?_⟩
      obtain ⟨word, hLast, hWord⟩ := hEnds
      exact ⟨word, List.getLast?_concat.trans hLast, hWord⟩
  · cases hCall
    exact ⟨rfl, hGrounded hEnds⟩

/-- The values of a declaration have no kind, so that it is enough that they have names. -/
theorem definitionFacts (text : List Char) :
    AreGroundedIn line lineNo (definitionFacts scope lineNo text) := by
  intro fact hFact
  rw [Go.definitionFacts] at hFact
  split_ifs at hFact
  · obtain ⟨name, -, rfl⟩ := List.mem_map.mp hFact
    exact ofTable defsTable rfl (by decide) (.inr rfl) rfl (by simp) _ List.mem_cons_self
  · cases hFact

/-- Assignments are of another table, and it is enough that they have names. -/
theorem assignmentFacts (targets : List Char) :
    AreGroundedIn line lineNo (assignmentFacts scope lineNo targets) := by
  intro fact hFact
  obtain ⟨word, -, hAssign⟩ := List.mem_filterMap.mp hFact
  rw [assignmentFact?] at hAssign
  split_ifs at hAssign
  split at hAssign
  · cases hAssign
  · split_ifs at hAssign
    · cases hAssign
      exact ofTable assignsTable rfl (by decide) (.inl (by decide)) rfl (by simp) _
        List.mem_cons_self
    · cases hAssign
      exact ofTable assignsTable rfl (by decide) (.inl (by decide)) rfl (by simp) _
        List.mem_cons_self

theorem importFact (path : List Char) : AreGroundedIn line lineNo [importFact lineNo path] := by
  refine ofTable importsTable rfl (by decide) (.inl (by decide)) rfl ?_
  exact fun hName => splitAt_ne_nil '/' path (List.map_eq_nil_iff.mp hName)

/-- The calls behind the head of a function are grounded in its line. -/
theorem enterFunction (state : ScanState) :
    AreGroundedIn line lineNo (enterFunction state lineNo line).2 := by
  rw [Go.enterFunction]
  split
  · exact nil
  · rename_i brace body hBody
    have hSuffix : body <:+ line :=
      (List.suffix_cons brace body).trans (hBody ▸ List.dropWhile_suffix _)
    intro fact hFact
    obtain ⟨hLine, hGrounded⟩ := callFacts body fact hFact
    exact ⟨hLine, hGrounded.of_code fun _ _ _ hWord => hWord.mono hSuffix.isInfix⟩

/-- A line outside groups gives facts that are grounded in it, one case for each shape of a line. -/
theorem scanPlain (state : ScanState) :
    AreGroundedIn line lineNo (scanPlain state lineNo line).2 := by
  have hShape := ofLine_declaresWordOf line
  have hCalls : AreGroundedIn line lineNo (Go.callFacts state.scope lineNo line) := callFacts line
  rw [Go.scanPlain]
  cases hLine : LineShape.ofLine line with
  | function name =>
    rw [hLine] at hShape
    exact (kindFact hShape (by decide)).cons (enterFunction state)
  | method receiver name =>
    rw [hLine] at hShape
    have hName : AreGroundedIn line lineNo
        [Go.kindFact (state.scope ++ [nameText receiver] ++ [nameText name]) "func" lineNo] :=
      kindFact hShape (by decide)
    rw [List.append_assoc] at hName
    exact hName.cons (enterFunction state)
  | package name =>
    rw [hLine] at hShape
    exact kindFact hShape (by decide)
  | structType name =>
    rw [hLine] at hShape
    exact kindFact hShape (by decide)
  | interfaceType name =>
    rw [hLine] at hShape
    exact kindFact hShape (by decide)
  | namedType name =>
    rw [hLine] at hShape
    exact kindFact hShape (by decide)
  | importPath path => exact importFact path
  | importGroup | valueGroup => exact nil
  | values text => exact (definitionFacts text).append hCalls
  | assignment targets => exact (assignmentFacts targets).append hCalls
  | other => exact hCalls

/-- The end of a body has a brace for its name. -/
theorem endFact {name : List String} (kind : String) :
    AreGroundedIn line lineNo
      [{ table := endTable, name := name ++ ["\x7d"], lineNo := lineNo, kind := kind }] :=
  ofTable endTable rfl (by decide) (.inl (by decide)) rfl (by simp)

/-- What is read from the code of a line is grounded in the code. -/
theorem scanCode (state : ScanState) :
    AreGroundedIn line lineNo (scanCode state lineNo line).2 := by
  rw [Go.scanCode]
  cases state.mode? with
  | none => exact scanPlain state
  | some mode =>
    cases mode with
    | comment => exact scanPlain state
    | importGroup =>
      simp only [scanImports]
      split_ifs
      · exact nil
      · cases groupedImport? line with
        | none => exact nil
        | some path => exact importFact path
    | structBody =>
      simp only [scanStruct]
      split_ifs
      · exact endFact "class"
      · cases hName : nestedStruct? line with
        | some name => exact kindFact (nestedStruct?_isWord hName) (by decide)
        | none =>
          cases fieldNames? line with
          | some names => exact definitionFacts names
          | none => exact nil
    | interfaceBody =>
      simp only [scanInterface]
      split_ifs
      · exact endFact "class"
      · cases hName : interfaceMethod? line with
        | some name => exact kindFact (interfaceMethod?_isWord hName) (by decide)
        | none => exact nil
    | valueGroup =>
      simp only [scanValues]
      split_ifs
      · exact nil
      · cases namesBeforeValue? line with
        | some names => exact (definitionFacts names).append (callFacts line)
        | none => exact definitionFacts line
    | functionBody =>
      simp only [scanFunction]
      split_ifs
      · exact @endFact line lineNo [] "func"
      · exact scanPlain state

end AreGroundedIn

/-! Lines -/

/-- What is read from a physical line is grounded in it. -/
theorem scanLine_areGroundedIn (state : ScanState) (lineNo : Int) {line : List Char}
    (hLine : '\n' ∉ line) : AreGroundedIn line lineNo (scanLine state lineNo line).2 := by
  have hFound (state : ScanState) (zone : Zone) :
      AreGroundedIn line lineNo (scanFound state lineNo (markFrom zone line)).2 := by
    intro fact hFact
    obtain ⟨hNumber, hGrounded⟩ := AreGroundedIn.scanCode state fact hFact
    refine ⟨hNumber, hGrounded.of_code fun next hNext word hWord => ?_⟩
    have hQuote : '"' ∉ next ∧ ' ' ∉ next := by rcases hNext with rfl | rfl <;> decide
    split_ifs at hWord
    · exact hWord.of_markFrom hQuote.2
    · exact (hWord.of_blankLiterals hQuote.1).of_markFrom hQuote.2
  rw [scanLine_eq_scanFound state lineNo hLine]
  split_ifs
  · exact hFound state .code
  · exact hFound state.pop .carried
  · exact .nil

/-- The facts of lines point to them one after the other. -/
theorem scanLines_areGrounded (state : ScanState) (lineNo : Int) {lines : List (List Char)}
    (hLines : ∀ line ∈ lines, '\n' ∉ line) :
    (∀ fact ∈ scanLines state lineNo lines, ∃ (count : Nat) (line : List Char),
      lines[count]? = some line ∧ fact.lineNo = some (lineNo + count) ∧ IsGroundedIn line fact) ∧
    (scanLines state lineNo lines).Pairwise fun a b => a.lineNo.getD 0 ≤ b.lineNo.getD 0 := by
  induction lines generalizing state lineNo with
  | nil => exact ⟨nofun, .nil⟩
  | cons line rest ih =>
    obtain ⟨hLine, hRest⟩ := List.forall_mem_cons.mp hLines
    have hFirst := scanLine_areGroundedIn state lineNo hLine
    obtain ⟨hLater, hOrder⟩ := ih (scanLine state lineNo line).1 (lineNo + 1) hRest
    have hSplit : scanLines state lineNo (line :: rest) = (scanLine state lineNo line).2 ++
        scanLines (scanLine state lineNo line).1 (lineNo + 1) rest := rfl
    rw [hSplit]
    constructor
    · intro fact hFact
      rcases List.mem_append.mp hFact with hFact | hFact
      · obtain ⟨hNumber, hGrounded⟩ := hFirst fact hFact
        exact ⟨0, line, rfl, by simpa using hNumber, hGrounded⟩
      · obtain ⟨count, other, hOther, hNumber, hGrounded⟩ := hLater fact hFact
        refine ⟨count + 1, other, hOther, ?_, hGrounded⟩
        rw [hNumber, Int.natCast_succ]
        congr 1
        omega
    · refine List.pairwise_append.mpr ⟨?_, hOrder, fun a ha b hb => ?_⟩
      · apply List.pairwise_of_forall_mem_list
        intro a ha b hb
        exact Int.le_of_eq (by rw [(hFirst a ha).1, (hFirst b hb).1])
      · obtain ⟨count, -, -, hNumber, -⟩ := hLater b hb
        rw [(hFirst a ha).1, hNumber, Option.getD_some, Option.getD_some]
        omega

/-- Every fact of a Go text has a name and points to a physical line, in the order of the lines. The
last part of a called name stands in that line right before a parenthesis, and that of a definition
of some kind stands in it too. -/
theorem facts_grounded (text : List Char) :
    (∀ fact ∈ facts (.ofText text), ∃ (number : Int) (line : List Char),
      fact.lineNo = some number ∧ 1 ≤ number ∧ number ≤ (physicalLines text).length ∧
      (SourceText.ofText text).line? number = some line ∧ fact.name ≠ [] ∧
      (fact.table = callsTable → ∃ last, fact.name.getLast? = some last ∧ last ≠ "" ∧
        last.toList ++ ['('] <:+: line) ∧
      (fact.table = defsTable → ∀ kind ∈ fact.kind, kind ∈ definitionKinds ∧
        ∃ last, fact.name.getLast? = some last ∧ last ≠ "" ∧ last.toList <:+: line)) ∧
    (facts (.ofText text)).Pairwise fun a b => a.lineNo.getD 0 ≤ b.lineNo.getD 0 := by
  obtain ⟨hFacts, hOrder⟩ := @scanLines_areGrounded {} 1 (physicalLines text)
    fun line hLine => lineFeed_not_mem_of_mem_physicalLines hLine
  have hWord {next line : List Char} {name : List String} (hName : EndsInWord next line name) :
      ∃ last, name.getLast? = some last ∧ last ≠ "" ∧ last.toList ++ next <:+: line := by
    obtain ⟨word, hLast, hFilled, -, hInfix⟩ := hName
    refine ⟨nameText word, hLast, ?_, ?_⟩
    · intro hEmpty
      apply hFilled
      rw [← String.toList_ofList (l := word)]
      exact congrArg String.toList hEmpty
    · rwa [nameText, String.toList_ofList]
  refine ⟨fun fact hFact => ?_, hOrder⟩
  obtain ⟨count, line, hLine, hNumber, hGrounded⟩ := hFacts fact hFact
  obtain ⟨hCount, -⟩ := List.getElem?_eq_some_iff.mp hLine
  refine ⟨1 + count, line, hNumber, by omega, by omega, ?_, hGrounded.named,
    fun hTable => hWord (hGrounded.call hTable), fun hTable kind hKind => ?_⟩
  · have hPlace : (1 + (count : Int) - 1).toNat = count := by omega
    rw [SourceText.line?, if_pos (by omega), hPlace]
    exact hLine
  · obtain ⟨hMem, hEnds⟩ := hGrounded.definition hTable kind hKind
    obtain ⟨last, hLast, hFilled, hInfix⟩ := hWord hEnds
    rw [List.append_nil] at hInfix
    exact ⟨hMem, last, hLast, hFilled, hInfix⟩

end CodeIndex.Go
