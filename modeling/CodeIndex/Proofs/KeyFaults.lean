import CodeIndex.Proofs.LiteralSearch

/-! The ways in which a key can be refused. A key that does not follow the grammar of patterns is
searched for literally, so a query fails only for a key whose text holds a repetition with a huge
count, or switches that exclude each other. -/
namespace CodeIndex

namespace Search

/-- What the text of a pattern holds when it is refused with a fault. Any text may be malformed. -/
def Fault.IsExplainedBy (text : List Char) : Fault → Prop
  | .malformed => True
  | .repetitionTooLarge => '\x7b' ∈ text ∧ ∃ digits, digits <:+: text ∧
      (∀ c ∈ digits, c.isDigit = true) ∧ roundLimit ≤ numberIn 10 digits
  | .repetitionTooLong => '\x7b' ∈ text ∧ ∃ digits, digits <:+: text ∧
      (∀ c ∈ digits, c.isDigit = true) ∧ IntegerText.digitLimit < digits.length
  | .flagConflict => '(' ∈ text ∧ '?' ∈ text ∧ 'a' ∈ text ∧ 'u' ∈ text

/-- ASCII and Unicode matching are asked for by letters of the text, the first one in a group of
switches. -/
structure AreFrom (text : List Char) (flags : Flags) : Prop where
  ascii : flags.ascii = true → '(' ∈ text ∧ '?' ∈ text ∧ 'a' ∈ text
  unicode : flags.unicode = true → 'u' ∈ text

/-- A reader is at some place of the text, and only knows what the text before that place says. -/
structure IsWithin (text : List Char) (progress : Progress) : Prop where
  rest : progress.rest.flatMap Symbol.chars <:+ text
  flags : AreFrom text progress.flags

variable {α β : Type} {text : List Char}

/-- A step that starts within a text ends within it and with a value as described, or fails with a
fault that the text explains. -/
def Yields (text : List Char) (post : α → Prop) (step : Read α) : Prop :=
  ∀ progress, IsWithin text progress →
    match step progress with
    | .ok (value, next) => IsWithin text next ∧ post value
    | .error fault => fault.IsExplainedBy text

@[inherit_doc Yields]
def Stays (text : List Char) (step : Read α) : Prop := Yields text (fun _ => True) step

namespace Yields

variable {post : α → Prop} {next : β → Prop} {step : Read α}

/-- A step that reads nothing stays where it is. -/
theorem pure {value : α} (hValue : post value) : Yields text post (pure value) :=
  fun _ hProgress => ⟨hProgress, hValue⟩

/-- Steps follow one another: what the first is known to give is what the second may rely on. -/
theorem bind {after : α → Read β} (hStep : Yields text post step)
    (hAfter : ∀ value, post value → Yields text next (after value)) :
    Yields text next (step >>= after) := by
  intro progress hProgress
  have hFirst := hStep progress hProgress
  change match step progress >>= (fun read => after read.1 read.2) with
    | .ok (value, last) => IsWithin text last ∧ next value
    | .error fault => fault.IsExplainedBy text
  cases hRead : step progress with
  | error fault =>
    rw [hRead] at hFirst
    exact hFirst
  | ok read =>
    rw [hRead] at hFirst
    exact hAfter read.1 hFirst.2 read.2 hFirst.1

/-- A text may always be given up as malformed, so that such a step keeps every promise. -/
theorem malformed : Yields text post (throw .malformed : Read α) := fun _ _ => trivial

theorem malformed_bind {after : β → Read α} :
    Yields text post (throw .malformed >>= after) := fun _ _ => trivial

/-- To change the value of a step changes nothing about where it ends. -/
theorem map {change : α → β} (hStep : Yields text post step) : Stays text (change <$> step) := by
  rw [map_eq_pure_bind]
  exact hStep.bind fun _ _ => .pure trivial

theorem get : Yields text (IsWithin text) (MonadState.get : Read Progress) :=
  fun _ hProgress => ⟨hProgress, hProgress⟩

theorem set {progress : Progress} (hProgress : IsWithin text progress) :
    Stays text (MonadStateOf.set progress : Read Unit) :=
  fun _ _ => ⟨hProgress, trivial⟩

/-- A step may move on in any way that stays within the text. -/
theorem modify {change : Progress → Progress}
    (hChange : ∀ progress, IsWithin text progress → IsWithin text (change progress)) :
    Stays text (modify change : Read Unit) :=
  fun progress hProgress => ⟨hChange progress hProgress, trivial⟩

end Yields

/-! Characters -/

/-- To leave out a symbol leaves an end of the text. -/
theorem stays_skip : Stays text Read.skip := by
  refine Yields.get.bind fun progress hProgress => ?_
  split
  · exact .malformed
  · rename_i symbol rest _ hRest
    refine .set ⟨.trans ?_ hProgress.rest, hProgress.flags⟩
    rw [hRest]
    exact List.suffix_append _ _
  · exact .pure trivial

/-- The symbol that comes next stands in the text. -/
theorem yields_next? :
    Yields text (fun symbol => ∀ c, symbol = some (.plain c) → c ∈ text) Read.next? := by
  refine Yields.get.bind fun progress hProgress => .pure fun c hHead => ?_
  obtain ⟨rest, hRest⟩ := List.head?_eq_some_iff.mp hHead
  apply hProgress.rest.subset
  rw [hRest]
  exact List.mem_cons_self

theorem yields_take? :
    Yields text (fun symbol => ∀ c, symbol = some (.plain c) → c ∈ text) Read.take? :=
  yields_next?.bind fun _ hNext => stays_skip.bind fun _ _ => .pure hNext

/-- A symbol that has to be there and is taken stands in the text. -/
theorem yields_take : Yields text (fun symbol => ∀ c, symbol = .plain c → c ∈ text) Read.take := by
  refine yields_take?.bind fun symbol hSymbol => ?_
  cases symbol with
  | none => exact .malformed
  | some symbol => exact .pure fun c hc => hSymbol c (congrArg some hc)

/-- A character that is accepted stands in the text. -/
theorem yields_accept (c : Char) :
    Yields text (fun isNext => isNext = true → c ∈ text) (Read.accept c) := by
  refine yields_next?.bind fun symbol hSymbol => ?_
  split_ifs with hNext
  · exact stays_skip.bind fun _ _ => .pure fun _ => hSymbol c hNext
  · exact .pure nofun

/-- To insist on a character fails as malformed at worst. -/
theorem stays_expect (c : Char) : Stays text (Read.expect c) := by
  refine (yields_accept c).bind fun isNext _ => ?_
  split_ifs
  · exact .pure trivial
  · exact .malformed

/-- Where two steps succeed in turn, the second starts where the first has ended. -/
theorem exists_of_bind {start : Progress} {step : Read α} {after : α → Read β}
    {result : β × Progress} (hResult : (step >>= after) start = .ok result) :
    ∃ value next, step start = .ok (value, next) ∧ after value next = .ok result := by
  obtain ⟨⟨value, next⟩, hStep, hAfter⟩ := bind_eq_ok_iff.mp (hResult : (step start >>= _) = _)
  exact ⟨value, next, hStep, hAfter⟩

/-- After a symbol is left out the others remain. -/
theorem skip_eq {progress next : Progress} {symbol : Symbol} {rest : List Symbol}
    (hRest : progress.rest = symbol :: rest) (hSkip : Read.skip progress = .ok ((), next)) :
    next.rest = rest := by
  obtain ⟨before⟩ := progress
  obtain rfl : before = symbol :: rest := hRest
  cases rest with
  | nil =>
    cases hSkip
    rfl
  | cons other rest => cases other <;> cases hSkip <;> rfl

/-- The characters taken stand at the start of what is left. -/
theorem takeWhile_eq {accepts : Char → Bool} {limit : Nat} {progress next : Progress}
    {taken : List Char} (hTaken : Read.takeWhile accepts limit progress = .ok (taken, next)) :
    progress.rest = taken.map .plain ++ next.rest ∧ ∀ c ∈ taken, accepts c = true := by
  induction limit generalizing progress taken with
  | zero =>
    cases hTaken
    exact ⟨rfl, nofun⟩
  | succ limit ih =>
    have hNext : Read.next? progress = .ok (progress.rest.head?, progress) := rfl
    rw [Read.takeWhile, bind_eq_of_ok hNext] at hTaken
    cases hRest : progress.rest with
    | nil =>
      rw [hRest] at hTaken
      cases hTaken
      exact ⟨hRest.symm, nofun⟩
    | cons symbol rest =>
      rw [hRest, List.head?_cons] at hTaken
      cases symbol with
      | plain c =>
        by_cases hAccepts : accepts c = true
        · simp only [if_pos hAccepts] at hTaken
          obtain ⟨_, middle, hSkip, hTail⟩ := exists_of_bind hTaken
          obtain ⟨others, last, hOthers, hResult⟩ := exists_of_bind hTail
          cases hResult
          obtain ⟨hSplit, hAll⟩ := ih hOthers
          rw [← skip_eq hRest hSkip, hSplit]
          exact ⟨rfl, List.forall_mem_cons.mpr ⟨hAccepts, hAll⟩⟩
        · simp only [if_neg hAccepts] at hTaken
          cases hTaken
          exact ⟨hRest.symm, nofun⟩
      | escaped c | dangling =>
        cases hTaken
        exact ⟨hRest.symm, nofun⟩

/-- A run of characters is taken from within the text. -/
theorem stays_takeWhile (accepts : Char → Bool) (limit : Nat) :
    Stays text (Read.takeWhile accepts limit) := by
  induction limit with
  | zero => exact .pure trivial
  | succ limit ih =>
    refine yields_next?.bind fun symbol _ => ?_
    split
    · split
      · exact stays_skip.bind fun _ _ => ih.bind fun _ _ => .pure trivial
      · exact .pure trivial
    · exact .pure trivial

theorem flatMap_chars_plain (taken : List Char) :
    (taken.map Symbol.plain).flatMap Symbol.chars = taken := by
  rw [List.flatMap_map]
  exact List.flatMap_singleton' taken

/-- The run that is taken is a part of the text, and all of it passes the test. That is why a count
that is too large or too long is found in the text. -/
theorem yields_takeWhile (accepts : Char → Bool) (limit : Nat) :
    Yields text (fun taken => taken <:+: text ∧ ∀ c ∈ taken, accepts c = true)
      (Read.takeWhile accepts limit) := by
  intro progress hProgress
  have hStays := stays_takeWhile accepts limit progress hProgress
  cases hTaken : Read.takeWhile accepts limit progress with
  | error fault =>
    rw [hTaken] at hStays
    exact hStays
  | ok result =>
    obtain ⟨taken, next⟩ := result
    rw [hTaken] at hStays
    obtain ⟨hSplit, hAll⟩ := takeWhile_eq hTaken
    have hText := hProgress.rest
    rw [hSplit, List.flatMap_append, flatMap_chars_plain] at hText
    exact ⟨hStays.1, (List.prefix_append _ _).isInfix.trans hText.isInfix, hAll⟩

theorem stays_remaining : Stays text Read.remaining :=
  Yields.get.bind fun _ _ => .pure trivial

/-- To take what comes before a closing character stays within the text. The induction is on the
fuel. -/
theorem stays_takeUntil (closing : Char) (fuel : Nat) :
    Stays text (Read.takeUntil closing fuel) := by
  induction fuel with
  | zero => exact .malformed
  | succ fuel ih =>
    refine yields_take.bind fun symbol _ => ?_
    split_ifs
    · exact .pure trivial
    · exact ih.bind fun _ _ => .pure trivial

theorem stays_takeName (closing : Char) : Stays text (Read.takeName closing) := by
  refine stays_remaining.bind fun count _ => (stays_takeUntil closing _).bind fun name _ => ?_
  split_ifs
  · exact .malformed
  · exact .pure trivial

/-! Escapes and sets -/

/-- The code of an escaped character is read within the text. -/
theorem stays_readHexCode (count : Nat) : Stays text (readHexCode count) := by
  refine (yields_takeWhile _ _).bind fun digits _ => ?_
  split_ifs
  · exact .pure trivial
  · exact .malformed

theorem stays_readCode? (c : Char) : Stays text (readCode? c) := by
  rw [readCode?]
  split_ifs
  · exact (stays_readHexCode 2).bind fun _ _ => .pure trivial
  · exact (stays_readHexCode 4).bind fun _ _ => .pure trivial
  · refine (stays_readHexCode 8).bind fun code _ => ?_
    split_ifs
    · exact .pure trivial
    · exact .malformed
  · refine (stays_expect _).bind fun _ _ => (stays_takeName _).bind fun name _ => ?_
    split
    · exact .pure trivial
    · exact .malformed
  · exact .pure trivial

theorem stays_readSetEscape (c : Char) : Stays text (readSetEscape c) := by
  rw [readSetEscape]
  cases controlCode? c with
  | some code => exact .pure trivial
  | none =>
    cases category? c with
    | some item => exact .pure trivial
    | none =>
      refine (stays_readCode? c).bind fun code _ => ?_
      cases code with
      | some code => exact .pure trivial
      | none =>
        dsimp only
        by_cases hOctal : isOctalDigit c = true
        · rw [if_pos hOctal]
          refine (stays_takeWhile _ _).bind fun digits _ => ?_
          split
          · exact .pure trivial
          · exact .malformed_bind
        · rw [if_neg hOctal]
          split_ifs
          · exact .malformed
          · exact .pure trivial

theorem stays_readSetItem (symbol : Symbol) : Stays text (readSetItem symbol) := by
  cases symbol with
  | plain c => exact .pure trivial
  | escaped c => exact stays_readSetEscape c
  | dangling => exact .malformed

/-- A set is read within the text. The induction is on the fuel, with an item or a range taken off
in each round. -/
theorem stays_readSet (fuel : Nat) (items : List SetItem) : Stays text (readSet fuel items) := by
  induction fuel generalizing items with
  | zero => exact .malformed
  | succ fuel ih =>
    refine yields_take.bind fun symbol _ => ?_
    split_ifs
    · exact .pure trivial
    · refine (stays_readSetItem symbol).bind fun item _ => ?_
      refine (yields_accept _).bind fun isRange _ => ?_
      split_ifs
      · refine yields_take.bind fun upper _ => ?_
        split_ifs
        · exact .pure trivial
        · refine (stays_readSetItem upper).bind fun high _ => ?_
          split
          · split_ifs
            · exact ih _
            · exact .malformed
          · exact .malformed
      · exact ih _

/-- A reference to a group reads nothing more, and is malformed if there is no such group. -/
theorem stays_refer (number : Nat) : Stays text (refer number) := by
  refine Yields.get.bind fun progress _ => ?_
  cases progress.behind with
  | none =>
    dsimp only
    split
    · exact .pure trivial
    · exact .malformed_bind
  | some groups =>
    dsimp only
    split
    · split
      · exact .malformed
      · exact .pure trivial
    · exact .malformed_bind

theorem stays_referInCondition (number : Nat) : Stays text (referInCondition number) := by
  refine Yields.get.bind fun progress _ => ?_
  split
  · exact stays_refer number
  · exact .pure trivial

/-- An escape outside sets is read within the text. -/
theorem stays_readEscape (c : Char) : Stays text (readEscape c) := by
  rw [readEscape]
  cases anchor? c with
  | some anchor => exact .pure trivial
  | none =>
    cases category? c with
    | some item => exact .pure trivial
    | none =>
      cases controlCode? c with
      | some code => exact .pure trivial
      | none =>
        refine (stays_readCode? c).bind fun code _ => ?_
        cases code with
        | some code => exact .pure trivial
        | none =>
          dsimp only
          split
          · exact (stays_takeWhile _ _).bind fun digits _ => .pure trivial
          · split
            · refine (stays_takeWhile _ _).bind fun digits _ => ?_
              split
              · split
                · refine (stays_takeWhile _ _).bind fun digits _ => ?_
                  split
                  · split
                    · exact .pure trivial
                    · exact .malformed_bind
                  · exact (stays_refer _).bind fun _ _ => .pure trivial
                · exact (stays_refer _).bind fun _ _ => .pure trivial
              · exact (stays_refer _).bind fun _ _ => .pure trivial
            · split
              · exact .malformed_bind
              · exact .pure trivial

/-! Repetitions -/

/-- A count is refused only if its digits are too many or its number is too large. -/
theorem stays_readRounds (hBrace : '\x7b' ∈ text) {digits : List Char}
    (hDigits : digits <:+: text ∧ ∀ c ∈ digits, c.isDigit = true) :
    Stays text (readRounds digits) := by
  rw [readRounds]
  split
  · rename_i hLong
    exact fun _ _ => ⟨hBrace, digits, hDigits.1, hDigits.2, hLong⟩
  · dsimp only
    split
    · exact .pure trivial
    · rename_i hLarge
      exact fun _ _ => ⟨hBrace, digits, hDigits.1, hDigits.2, Nat.le_of_not_lt hLarge⟩

/-- A count in braces is read within the text. It is the only reader that refuses a number, and the
brace before the number has been read by then. -/
theorem stays_readCount? (hBrace : '\x7b' ∈ text) : Stays text readCount? := by
  refine yields_next?.bind fun symbol _ => ?_
  split
  · exact .pure trivial
  refine Yields.get.bind fun start hStart => stays_remaining.bind fun count _ => ?_
  refine (yields_takeWhile _ _).bind fun low hLow => (yields_accept _).bind fun comma _ => ?_
  extract_lets finish
  have hFinish (high : List Char) (hHigh : high <:+: text ∧ ∀ c ∈ high, c.isDigit = true) :
      Stays text (finish high) := by
    refine (yields_accept _).bind fun isClosed _ => ?_
    split
    · extract_lets count
      have hCount (least : Nat) : Stays text (count least) := by
        dsimp only [count]
        split
        · exact .pure trivial
        · refine (stays_readRounds hBrace hHigh).bind fun most _ => ?_
          split
          · exact .malformed_bind
          · exact .pure trivial
      split
      · exact hCount 0
      · exact (stays_readRounds hBrace hLow).bind fun least _ => hCount least
    · exact (Yields.set hStart).bind fun _ _ => .pure trivial
  split
  · exact stays_remaining.bind fun _ _ => (yields_takeWhile _ _).bind hFinish
  · exact hFinish low hLow

theorem stays_readGreed : Stays text readGreed := by
  refine (yields_accept _).bind fun isLazy _ => ?_
  split
  · exact .pure trivial
  refine (yields_accept _).bind fun isPossessive _ => ?_
  split
  · exact .pure trivial
  · exact .pure trivial

theorem stays_readRepetition (items : List Pattern) (least : Nat) (most : Option Nat) :
    Stays text (readRepetition items least most) := by
  rw [readRepetition.eq_def]
  split
  · exact .malformed
  · exact .malformed
  · exact .malformed
  · exact stays_readGreed.bind fun _ _ => .pure trivial

/-! Switches and groups -/

/-- Switches that are put together come from the letters of both. -/
theorem AreFrom.union {first second : Flags} (hFirst : AreFrom text first)
    (hSecond : AreFrom text second) : AreFrom text (first.union second) := by
  constructor
  · intro hAscii
    rcases Bool.or_eq_true_iff.mp hAscii with hAscii | hAscii
    · exact hFirst.ascii hAscii
    · exact hSecond.ascii hAscii
  · intro hUnicode
    rcases Bool.or_eq_true_iff.mp hUnicode with hUnicode | hUnicode
    · exact hFirst.unicode hUnicode
    · exact hSecond.unicode hUnicode

theorem areFrom_empty : AreFrom text {} := ⟨nofun, nofun⟩

/-- The switch of a letter in a group of switches comes from the text. -/
theorem areFrom_ofLetter? (hOpen : '(' ∈ text) (hMark : '?' ∈ text) {c : Char} (hc : c ∈ text)
    {flag : Flags} (hFlag : Flags.ofLetter? c = some flag) : AreFrom text flag := by
  rw [Flags.ofLetter?.eq_def] at hFlag
  split at hFlag <;> cases hFlag
  case h_5 => exact ⟨fun _ => ⟨hOpen, hMark, hc⟩, nofun⟩
  case h_6 => exact ⟨nofun, fun _ => hc⟩
  all_goals exact ⟨nofun, nofun⟩

/-- All switches of a group come from the text. The induction is on the fuel, and the switches read
so far are carried along. -/
theorem yields_readSwitches (hOpen : '(' ∈ text) (hMark : '?' ∈ text) (fuel : Nat) {flags : Flags}
    (hFlags : AreFrom text flags) {c : Char} (hc : c ∈ text) :
    Yields text (fun found => AreFrom text found.1) (readSwitches fuel flags c) := by
  induction fuel generalizing flags c with
  | zero => exact .malformed
  | succ fuel ih =>
    rw [readSwitches]
    cases hLetter : Flags.ofLetter? c with
    | none => exact .pure hFlags
    | some flag =>
      have hUnion := hFlags.union (areFrom_ofLetter? hOpen hMark hc hLetter)
      dsimp only
      split
      · exact .malformed_bind
      · refine yields_take.bind fun symbol hSymbol => ?_
        cases symbol with
        | plain next => exact ih hUnion (hSymbol next rfl)
        | escaped | dangling => exact .malformed

/-- Switches are refused only if they exclude each other, and then the letters of both are in the
text. -/
theorem stays_readGroupFlags (hOpen : '(' ∈ text) (hMark : '?' ∈ text) {first : Char}
    (hFirst : first ∈ text) : Stays text (readGroupFlags first) := by
  refine stays_remaining.bind fun count _ => ?_
  refine (yields_readSwitches hOpen hMark _ areFrom_empty hFirst).bind fun found hFound => ?_
  obtain ⟨on, closing⟩ := found
  dsimp only
  split
  · split
    · exact .malformed_bind
    · refine Yields.bind (.modify fun progress hProgress => ?_) fun _ _ => .pure trivial
      exact ⟨hProgress.rest, hProgress.flags.union hFound⟩
  · split
    · exact .malformed_bind
    split
    · exact .pure trivial
    split
    · exact .malformed_bind
    refine yields_take.bind fun symbol hSymbol => ?_
    cases symbol with
    | plain c =>
      refine stays_remaining.bind fun count _ => ?_
      have hSwitches := yields_readSwitches hOpen hMark (count + 1) areFrom_empty (hSymbol c rfl)
      refine hSwitches.bind fun found _ => ?_
      split
      · exact .malformed_bind
      · split
        · exact .pure trivial
        · exact .malformed_bind
    | escaped | dangling => exact .malformed

/-- To open a group reads nothing more, and is malformed if its name is taken. -/
theorem stays_openGroup (name : Option (List Char)) : Stays text (openGroup name) := by
  refine Yields.get.bind fun progress hProgress => ?_
  extract_lets number opened
  have hOpened (names : List (List Char × Nat)) : Stays text (opened names) := by
    refine Yields.bind (.set ?_) fun _ _ => .pure trivial
    exact ⟨hProgress.rest, hProgress.flags⟩
  cases name with
  | none => exact hOpened _
  | some name =>
    dsimp only
    split
    · exact .malformed_bind
    · exact hOpened _

theorem stays_closeGroup (number : Nat) (body : Pattern) : Stays text (closeGroup number body) :=
  .modify fun _ hProgress => ⟨hProgress.rest, hProgress.flags⟩

/-- The condition of a group is read within the text. -/
theorem stays_readCondition : Stays text readCondition := by
  refine (stays_takeName _).bind fun name _ => ?_
  split
  · refine Yields.get.bind fun progress _ => ?_
    split
    · exact .pure trivial
    · exact .malformed
  · split
    · dsimp only
      split
      · exact .malformed_bind
      · refine Yields.bind (.modify fun progress hProgress => ?_) fun _ _ => .pure trivial
        exact ⟨hProgress.rest, hProgress.flags⟩
    · exact .malformed

theorem stays_closeBody (body : Pattern) : Stays text (closeBody body) :=
  (stays_expect _).bind fun _ _ => .pure trivial

/-- A comment is left out within the text. -/
theorem stays_skipComment (closing : Char) (fuel : Nat) :
    Stays text (skipComment closing fuel) := by
  induction fuel with
  | zero => exact .pure trivial
  | succ fuel ih =>
    refine yields_take?.bind fun symbol _ => ?_
    cases symbol with
    | none => exact .pure trivial
    | some symbol =>
      dsimp only
      split
      · exact .pure trivial
      · exact ih

/-! Whole patterns -/

/-- All readers of patterns stay within a text, with some fuel. -/
structure ReadersStay (text : List Char) (fuel : Nat) : Prop where
  choice : ∀ verbose nested branches, Stays text (readChoice fuel verbose nested branches)
  sequence : ∀ verbose first items, Stays text (readSequence fuel verbose first items)
  group : '(' ∈ text → ∀ verbose, Stays text (readGroup fuel verbose)
  capture : ∀ verbose name, Stays text (readCapture fuel verbose name)

namespace ReadersStay

variable {fuel : Nat} (hReaders : ReadersStay text fuel)
include hReaders

/-- One more round of fuel for alternatives. -/
theorem choice_succ (verbose nested : Bool) (branches : List (List Pattern)) :
    Stays text (readChoice (fuel + 1) verbose nested branches) := by
  rw [readChoice]
  refine (hReaders.sequence _ _ _).bind fun branch _ => ?_
  refine (yields_accept _).bind fun isMore _ => ?_
  split
  · exact Yields.get.bind fun progress _ => hReaders.choice _ _ _
  · exact .pure trivial

theorem capture_succ (verbose : Bool) (name : Option (List Char)) :
    Stays text (readCapture (fuel + 1) verbose name) := by
  rw [readCapture]
  refine (stays_openGroup name).bind fun number _ => ?_
  refine (hReaders.choice _ _ _).bind fun body _ => (stays_closeBody body).bind fun body _ => ?_
  exact (stays_closeGroup number body).bind fun _ _ => .pure trivial

/-- One more round of fuel for a sequence. The parenthesis of a group and the brace of a count are
in the text when their readers are called. -/
theorem sequence_succ (verbose first : Bool) (items : List Pattern) :
    Stays text (readSequence (fuel + 1) verbose first items) := by
  rw [readSequence]
  -- a brace or a parenthesis that is read is in the text, as a count or a switch needs it
  refine yields_next?.bind fun symbol hSymbol => ?_
  have hNext := hReaders.sequence
  split
  · exact .pure trivial
  · exact .pure trivial
  · exact stays_skip.bind fun _ _ => (stays_readEscape _).bind fun _ _ => hNext _ _ _
  · rename_i c
    dsimp only
    split
    · exact .pure trivial
    refine stays_skip.bind fun _ _ => ?_
    split
    · exact hNext _ _ _
    split
    · exact stays_remaining.bind fun _ _ => (stays_skipComment _ _).bind fun _ _ => hNext _ _ _
    split
    · refine (yields_accept _).bind fun _ _ => stays_remaining.bind fun _ _ => ?_
      exact (stays_readSet _ _).bind fun _ _ => hNext _ _ _
    · exact (stays_readRepetition _ _ _).bind fun _ _ => hNext _ _ _
    · exact (stays_readRepetition _ _ _).bind fun _ _ => hNext _ _ _
    · exact (stays_readRepetition _ _ _).bind fun _ _ => hNext _ _ _
    · refine (stays_readCount? (hSymbol _ rfl)).bind fun count _ => ?_
      split
      · exact hNext _ _ _
      · exact (stays_readRepetition _ _ _).bind fun _ _ => hNext _ _ _
    · exact hNext _ _ _
    · exact hNext _ _ _
    · exact hNext _ _ _
    · refine (hReaders.group (hSymbol _ rfl) _).bind fun group _ => ?_
      split
      · exact hNext _ _ _
      · exact hNext _ _ _
      · split
        · exact Yields.get.bind fun _ _ => hNext _ _ _
        · exact .malformed_bind
    · exact hNext _ _ _

/-- One more round of fuel for what stands behind an opening parenthesis. -/
theorem group_succ (hOpen : '(' ∈ text) (verbose : Bool) :
    Stays text (readGroup (fuel + 1) verbose) := by
  rw [readGroup]
  refine (yields_accept _).bind fun isSpecial hMark => ?_
  split
  case isFalse => exact (hReaders.capture _ _).map
  refine yields_take.bind fun symbol hSymbol => ?_
  cases symbol with
  | escaped | dangling => exact .malformed
  | plain c =>
  have hBody (verbose : Bool) {found : Pattern → Group} :
      Stays text (do return found (← closeBody (← readChoice fuel verbose true []))) :=
    (hReaders.choice _ _ _).bind fun _ _ => (stays_closeBody _).bind fun _ _ => .pure trivial
  dsimp only
  -- the cases follow the character behind the mark
  split
  · refine (yields_accept _).bind fun isName _ => ?_
    split
    · refine (stays_takeName _).bind fun name _ => ?_
      split
      · exact (hReaders.capture _ _).map
      · exact .malformed_bind
    · refine (yields_accept _).bind fun isReference _ => ?_
      split
      · refine (stays_takeName _).bind fun name _ => Yields.get.bind fun progress _ => ?_
        split
        · exact (stays_refer _).bind fun _ _ => .pure trivial
        · exact .malformed
      · exact .malformed
  · exact hBody _
  · exact hBody _
  · refine stays_remaining.bind fun _ _ => (stays_skipComment _ _).bind fun isClosed _ => ?_
    split
    · exact .pure trivial
    · exact .malformed
  · exact hBody _
  · exact hBody _
  · refine yields_take.bind fun sign _ => ?_
    cases sign with
    | escaped | dangling => exact .malformed
    | plain sign =>
    dsimp only
    split
    · refine Yields.get.bind fun progress _ => ?_
      refine Yields.bind (.modify fun _ hBefore => ⟨hBefore.rest, hBefore.flags⟩) fun _ _ => ?_
      refine (hReaders.choice _ _ _).bind fun body _ => ?_
      refine Yields.bind (.modify fun _ hAfter => ⟨hAfter.rest, hAfter.flags⟩) fun _ _ => ?_
      refine (stays_closeBody _).bind fun _ _ => Yields.get.bind fun _ _ => .pure trivial
    · exact .malformed_bind
  · refine stays_readCondition.bind fun number _ => ?_
    refine (stays_referInCondition _).bind fun _ _ => (hReaders.sequence _ _ _).bind fun yes _ => ?_
    refine (yields_accept _).bind fun isChoice _ => ?_
    split
    · refine (hReaders.sequence _ _ _).bind fun no _ => ?_
      exact (stays_closeBody _).bind fun _ _ => .pure trivial
    · rw [pure_bind]
      exact (stays_closeBody _).bind fun _ _ => .pure trivial
  · refine (stays_readGroupFlags hOpen (hMark ‹_›) (hSymbol _ rfl)).bind fun switches _ => ?_
    split
    · exact .pure trivial
    · exact hBody _

end ReadersStay

/-- All readers that call each other stay within the text, whatever the fuel. -/
theorem readersStay (text : List Char) (fuel : Nat) : ReadersStay text fuel := by
  induction fuel with
  | zero =>
    exact ⟨fun _ _ _ => .malformed, fun _ _ _ => .malformed, fun _ _ => .malformed,
      fun _ _ => .malformed⟩
  | succ fuel ih => exact ⟨ih.choice_succ, ih.sequence_succ, ih.group_succ, ih.capture_succ⟩

/-- The symbols of a text spell the text. -/
theorem flatMap_chars_ofChars (text : List Char) :
    (Symbol.ofChars text).flatMap Symbol.chars = text := by
  fun_induction Symbol.ofChars text with
  | case1 => rfl
  | case2 => rfl
  | case3 c rest ih =>
    rw [List.flatMap_cons, ih]
    rfl
  | case4 c rest _ _ ih =>
    rw [List.flatMap_cons, ih]
    rfl

/-- Whatever a pattern is refused for, its text shows it. -/
theorem isExplained_of_readPattern {fault : Fault} (hFault : readPattern text = .error fault) :
    fault.IsExplainedBy text := by
  rw [readPattern_eq] at hFault
  split at hFault
  · cases hFault
    trivial
  have hStart : IsWithin text (startOf (Symbol.ofChars text)) :=
    ⟨(flatMap_chars_ofChars text).symm ▸ List.suffix_rfl, nofun, nofun⟩
  have hRead :=
    (readersStay text (4 * (Symbol.ofChars text).length + 8)).choice false false [] _ hStart
  cases hResult : readChoice (4 * (Symbol.ofChars text).length + 8) false false []
      (startOf (Symbol.ofChars text)) with
  | error other =>
    rw [hResult] at hRead hFault
    cases hFault
    exact hRead
  | ok read =>
    rw [hResult] at hRead hFault
    rw [ok_bind, checkRead] at hFault
    split at hFault
    · rename_i hBoth
      cases hFault
      obtain ⟨hAscii, hUnicode⟩ := Bool.and_eq_true_iff.mp hBoth
      obtain ⟨hOpen, hMark, hLetter⟩ := hRead.1.flags.ascii hAscii
      exact ⟨hOpen, hMark, hLetter, hRead.1.flags.unicode hUnicode⟩
    · split_ifs at hFault <;> cases hFault <;> trivial

/-- A key that is a pattern is searched for as it stands. -/
theorem ofText_of_ok {text : String} {read : Pattern × Flags}
    (hRead : readPattern text.toList = .ok read) :
    Key.ofText text = .ok ⟨text, text, read.1, read.2⟩ := by
  rw [Key.ofText, hRead]

/-- A key that is refused for another reason than its grammar has no literal form either. -/
theorem ofText_of_refused {text : String} {fault : Fault}
    (hRead : readPattern text.toList = .error fault) (hFault : fault ≠ .malformed) :
    Key.ofText text = .error fault.failure := by
  rw [Key.ofText, hRead]
  cases fault with
  | malformed => exact absurd rfl hFault
  | repetitionTooLarge | repetitionTooLong | flagConflict => rfl

end Search

namespace Database

open Search

variable {database : Database} {table : String}

/-- A query of a table that is there reads the key and ranks the records. -/
theorem query_of_key (hTable : table ∈ database.tables.keys) (key : String) :
    database.query table key =
      (Key.ofText key >>= fun parsed => rank parsed (database.recordsIn table)) := by
  rw [query, records_eq, if_pos hTable, ok_bind, rankText]

/-- A table of one definition. -/
def oneDefinition : Database := ofRecords [firstLineRecord "defs" "f" "a.go"]

theorem defs_mem_oneDefinition : "defs" ∈ oneDefinition.tables.keys := by decide

/-- All records of this database have names. -/
theorem oneDefinition_isNamed :
    ∀ record ∈ oneDefinition.recordsIn "defs", record.name ≠ [] := by
  have hRecords : oneDefinition.recordsIn "defs" = [firstLineRecord "defs" "f" "a.go"] := rfl
  rw [hRecords]
  decide

end Database

end CodeIndex
