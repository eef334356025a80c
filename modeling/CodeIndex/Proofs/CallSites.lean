import CodeIndex.Proofs.GoGrounding
import CodeIndex.Search.Matcher
import CodeIndex.Search.Reader
import Mathlib.Data.List.DropRight

/-! The calls of a line, one for each parenthesis right behind a word character. The lazy pattern of
a called name, matched again and again from left to right, finds the same names. -/
namespace CodeIndex.Go

/-! Calls by their parentheses -/

/-- Whether a call opens at a position: a parenthesis stands there, and a word character right
before it. -/
def opensCall (line : List Char) (position : Nat) : Bool :=
  (line.drop position).head? == some '(' && (line.take position).getLast?.any isWord

/-- The positions at which calls open, from left to right. -/
def callPositions (line : List Char) : List Nat := (List.range line.length).filter (opensCall line)

/-- The longest run of word characters and dots that ends just before a position. -/
def nameBefore (line : List Char) (position : Nat) : List Char :=
  (line.take position).rtakeWhile isCallPart

/-- The chunks of a name between its dots that are not empty. -/
def nameChunks (name : List Char) : List String :=
  ((name.splitOn '.').filter (· ≠ [])).map String.ofList

/-- The name under which a call is listed. Only a single chunk may be left out, as a function
literal, or stand without its scope, as a builtin. -/
def listedCall? (scope : List String) : List String → Option (List String)
  | [chunk] =>
    if chunk = "func" then none
    else if chunk ∈ builtinFunctions then some [chunk]
    else some (scope ++ [chunk])
  | chunks => some chunks

theorem isCallPart_of_isWord {c : Char} (hWord : isWord c = true) : isCallPart c = true := by
  rw [isCallPart, hWord, Bool.true_or]

theorem isCallPart_ne_open {c : Char} (hPart : isCallPart c = true) : c ≠ '(' := by
  rintro rfl
  revert hPart
  decide

/-- The run before a place ends in a word character exactly if the text before the place does. -/
theorem any_isWord_run (front : List Char) :
    (front.rtakeWhile isCallPart).reverse.head?.any isWord = front.getLast?.any isWord := by
  rw [List.rtakeWhile, List.reverse_reverse, List.head?_takeWhile, List.head?_reverse]
  cases front.getLast? with
  | none => rfl
  | some c =>
    by_cases hWord : isWord c = true
    · simp [Option.filter, isCallPart_of_isWord hWord]
    · by_cases hPart : isCallPart c = true <;> simp [Option.filter, hWord, hPart]

/-- The scan of the rest of a line, where it stands behind `front` with the run that ends there. -/
theorem calledFrom_rtakeWhile (front rest : List Char) :
    calledFrom (front.rtakeWhile isCallPart).reverse rest =
      ((List.range' front.length rest.length).filter (opensCall (front ++ rest))).map
        (nameBefore (front ++ rest)) := by
  induction rest generalizing front with
  | nil => rfl
  | cons c rest ih =>
    have hNext := ih (front ++ [c])
    rw [List.append_assoc, List.singleton_append, List.length_append,
      List.length_singleton] at hNext
    have hOpens : opensCall (front ++ c :: rest) front.length =
        (c == '(' && front.getLast?.any isWord) := by
      simp [opensCall]
    have hName : nameBefore (front ++ c :: rest) front.length = front.rtakeWhile isCallPart := by
      simp [nameBefore]
    rw [calledFrom, any_isWord_run, List.length_cons, List.range'_succ, List.filter_cons, hOpens]
    by_cases hPart : isCallPart c = true
    · rw [List.rtakeWhile_concat_pos _ _ _ hPart, List.reverse_append] at hNext
      simpa [hPart, isCallPart_ne_open hPart] using hNext
    · rw [List.rtakeWhile_concat_neg _ _ _ hPart] at hNext
      by_cases hCall : c = '(' ∧ front.getLast?.any isWord = true
      · have hHere : (c == '(' && front.getLast?.any isWord) = true := by simp [hCall]
        rw [if_neg hPart, if_pos hCall, if_pos hHere, List.reverse_reverse, List.map_cons, hName,
          ← hNext]
        rfl
      · have hHere : ¬(c == '(' && front.getLast?.any isWord) = true := by simpa using hCall
        rw [if_neg hPart, if_neg hCall, if_neg hHere, ← hNext]
        rfl

/-- The names that are found in one pass are those before the parentheses at which calls open. -/
theorem calledFrom_eq_map (line : List Char) :
    calledFrom [] line = (callPositions line).map (nameBefore line) := by
  rw [callPositions, List.range_eq_range']
  exact calledFrom_rtakeWhile [] line

/-! What is listed for a call -/

theorem splitAt_eq_splitOn (separator : Char) (text : List Char) :
    splitAt separator text = text.splitOn separator := by
  induction text with
  | nil => rfl
  | cons c rest ih =>
    rw [splitAt, List.splitOn, List.splitOnP_cons_eq_if_modifyHead, ih]
    by_cases hSeparator : c = separator
    · simp [hSeparator, List.splitOn]
    · obtain ⟨piece, pieces, hRest⟩ :=
        List.exists_cons_of_ne_nil (ih ▸ splitAt_ne_nil separator rest)
      rw [List.splitOn] at hRest
      simp [hSeparator, List.splitOn, hRest]

/-- The segments of a called name are its chunks. -/
theorem segments_eq_nameChunks (name : List Char) : segments name = nameChunks name := by
  rw [segments, nameChunks, splitAt_eq_splitOn]
  congr 1
  refine List.filter_congr fun chunk _ => ?_
  cases chunk <;> simp

/-- A called name always has a chunk, so that something is listed for it unless it is a function
literal. -/
theorem callFact?_eq {scope : List String} {lineNo : Int} {line name : List Char}
    (hName : name ∈ calledFrom [] line) :
    callFact? scope lineNo name =
      (listedCall? scope (nameChunks name)).map fun listed =>
        { table := callsTable, name := listed, lineNo := lineNo } := by
  have hFilled : nameChunks name ≠ [] :=
    segments_eq_nameChunks name ▸ (endsInWord_segments hName).ne_nil
  rw [callFact?.eq_def, segments_eq_nameChunks]
  rcases hChunks : nameChunks name with _ | ⟨chunk, _ | ⟨second, chunks⟩⟩
  · exact absurd hChunks hFilled
  · simp only [listedCall?, List.contains_iff_mem]
    split_ifs <;> rfl
  · rfl

end CodeIndex.Go

namespace CodeIndex.Search.Pattern

/-- The ends of the matches of a pattern in the text that follows `before`, from left to right,
after passing over `skip` characters. The next match is looked for behind the last one, and at least
one character further on. -/
def matchesAfter (pattern : Pattern) (flags : Flags) :
    (skip : Nat) → (before : List Char) → List Char → List Cursor
  | 0, before, [] => (pattern.run flags some ⟨before.length, before, [], [], []⟩).toList
  | _ + 1, _, [] => []
  | 0, before, c :: rest =>
    match pattern.run flags some ⟨before.length, before, c :: rest, [], []⟩ with
    | some finish =>
      finish :: matchesAfter pattern flags (finish.position - before.length - 1) (c :: before) rest
    | none => matchesAfter pattern flags 0 (c :: before) rest
  | skip + 1, before, c :: rest => matchesAfter pattern flags skip (c :: before) rest

end CodeIndex.Search.Pattern

namespace CodeIndex.Go

open Search

/-! Calls by a pattern -/

/-- The pattern of a call: as few word characters and dots as possible and a word character,
together in a group, and a parenthesis. -/
def callPattern : Pattern :=
  .sequence
    (.group (some 1) {} {}
      (.sequence (.repeated .lazy 0 none (.oneOf false [.category .word false, .single 46]))
        (.oneOf false [.category .word false])))
    (.literal 40)

example : ((readPattern "([\\w.]*?\\w)\\(".toList).toOption.map Prod.fst) = some callPattern := by
  decide +kernel

/-- A round of the lazy part: one more word character or dot. -/
def callRound (goal : Goal) : Goal := fun cursor => (cursor.step? isCallPart).bind goal

/-- What is left to match after the lazy part. -/
def callEnd : Goal := fun cursor =>
  (cursor.step? isWord).bind fun next => (next.leave 1).step? (· == '(')

theorem toNat_beq (c d : Char) : (c.toNat == d.toNat) = (c == d) := by
  rw [Bool.eq_iff_iff, beq_iff_eq, beq_iff_eq, Char.toNat_inj]

/-- The pattern of a call runs as lazy rounds, with the end of a call tried before each. -/
theorem run_callPattern (cursor : Cursor) :
    callPattern.run {} some cursor =
      lazyRounds callRound callEnd 0 none (0 + cursor.after.length + 2) 0 none
        (cursor.enter 1) := by
  have hPart : (fun c => [SetItem.category .word false, .single 46].any (SetItem.accepts {} c) !=
      false) = isCallPart := by
    funext c
    have hDot : (c.toNat == 46) = (c == '.') := toNat_beq c '.'
    simp [SetItem.accepts, Category.accepts, Category.contains, isCallPart, hDot]
  have hWord : (fun c => [SetItem.category .word false].any (SetItem.accepts {} c) != false) =
      isWord := by
    funext c
    simp [SetItem.accepts, Category.accepts, Category.contains]
  have hOpen : literalAccepts {} 40 = (· == '(') := by
    funext c
    exact toNat_beq c '('
  have hFlags : Flags.within {} {} {} = {} := rfl
  have hEnd (next : Cursor) : (next.step? isWord).bind (fun next =>
      ((next.leave 1).step? (· == '(')).bind some) = callEnd next := by
    simp [callEnd]
  simp only [callPattern, Pattern.run, hFlags, hPart, hWord, hOpen, hEnd]
  rfl

/-- One step of the lazy repetition: the end of the call is tried before one more round. -/
theorem lazyRounds_succ {fuel count : Nat} {last : Option Nat} {cursor : Cursor}
    (hLast : last ≠ some cursor.position) :
    lazyRounds callRound callEnd 0 none (fuel + 1) count last cursor =
      (callEnd cursor).or
        (callRound (lazyRounds callRound callEnd 0 none fuel (count + 1) cursor.position)
          cursor) := by
  rw [lazyRounds, if_neg (Nat.not_lt_zero count)]
  cases callEnd cursor with
  | none => simp [roundsLeft, hLast]
  | some finish => rfl

/-- Word characters and dots that end in a word character. -/
structure IsCalledName (name : List Char) : Prop where
  isPart : ∀ c ∈ name, isCallPart c = true
  endsInWord : name.getLast?.any isWord = true

/-- A called name may have one more character in front. -/
theorem IsCalledName.cons {c : Char} {name : List Char} (hName : IsCalledName name)
    (hPart : isCallPart c = true) : IsCalledName (c :: name) where
  isPart := List.forall_mem_cons.mpr ⟨hPart, hName.isPart⟩
  endsInWord := by
    cases name with
    | nil => cases hName.endsInWord
    | cons d name => exact hName.endsInWord

theorem IsCalledName.singleton {c : Char} (hWord : isWord c = true) : IsCalledName [c] where
  isPart := by simpa using isCallPart_of_isWord hWord
  endsInWord := hWord

/-- A text that starts with a called name and its parenthesis. -/
def StartsWithCall (text : List Char) : Prop :=
  ∃ name rest, IsCalledName name ∧ text = name ++ '(' :: rest

variable {before text name rest : List Char} {entered left : List (Nat × Nat)}
  {fuel count position : Nat} {last : Option Nat}

theorem callRound_cons (goal : Goal) (c : Char) :
    callRound goal ⟨position, before, c :: rest, entered, left⟩ =
      if isCallPart c = true then goal ⟨position + 1, c :: before, rest, entered, left⟩
      else none := by
  by_cases hPart : isCallPart c = true <;> simp [callRound, Cursor.step?, hPart]

theorem callEnd_cons_cons (c d : Char) :
    callEnd ⟨position, before, c :: d :: rest, entered, left⟩ =
      if isWord c = true ∧ d = '(' then
        some ⟨position + 2, '(' :: c :: before, rest, entered, (1, position + 1) :: left⟩
      else none := by
  by_cases hWord : isWord c = true <;> by_cases hOpen : d = '(' <;>
    simp [callEnd, Cursor.step?, Cursor.leave, hWord, hOpen]

/-- There is no end of a call where none starts. -/
theorem callEnd_of_not_startsWithCall (hText : ¬StartsWithCall text) :
    callEnd ⟨position, before, text, entered, left⟩ = none := by
  rcases text with _ | ⟨c, _ | ⟨d, rest⟩⟩
  · rfl
  · by_cases hWord : isWord c = true <;> simp [callEnd, Cursor.step?, Cursor.leave, hWord]
  · rw [callEnd_cons_cons, if_neg]
    rintro ⟨hWord, rfl⟩
    exact hText ⟨[c], rest, .singleton hWord, rfl⟩

/-- Where no call starts, no number of rounds comes to its end. -/
theorem lazyRounds_of_not_startsWithCall (hText : ¬StartsWithCall text)
    (hLast : last ≠ some position) :
    lazyRounds callRound callEnd 0 none fuel count last ⟨position, before, text, entered, left⟩ =
      none := by
  induction text generalizing fuel count position last before with
  | nil =>
    cases fuel with
    | zero => rfl
    | succ fuel =>
      rw [lazyRounds_succ hLast, callEnd_of_not_startsWithCall hText]
      rfl
  | cons c rest ih =>
    cases fuel with
    | zero => rfl
    | succ fuel =>
      rw [lazyRounds_succ hLast, callEnd_of_not_startsWithCall hText, Option.none_or,
        callRound_cons]
      by_cases hPart : isCallPart c = true
      · have hRest : ¬StartsWithCall rest := by
          rintro ⟨name, tail, hName, rfl⟩
          exact hText ⟨c :: name, tail, hName.cons hPart, rfl⟩
        rw [if_pos hPart]
        exact ih hRest (by simp)
      · rw [if_neg hPart]

/-- The rounds go on up to the last word character before the parenthesis: at each dot or word
character before it, the parenthesis does not follow yet. -/
theorem lazyRounds_of_isCalledName (hName : IsCalledName name) (hFuel : name.length ≤ fuel)
    (hLast : last ≠ some position) :
    lazyRounds callRound callEnd 0 none fuel count last
        ⟨position, before, name ++ '(' :: rest, entered, left⟩ =
      some ⟨position + name.length + 1, '(' :: (name.reverse ++ before), rest, entered,
        (1, position + name.length) :: left⟩ := by
  induction name generalizing fuel count position last before with
  | nil => cases hName.endsInWord
  | cons c name ih =>
    obtain ⟨fuel, rfl⟩ := Nat.exists_eq_add_of_le' (Nat.le_trans (Nat.le_add_left 1 _) hFuel)
    rw [lazyRounds_succ hLast]
    obtain ⟨hPart, hParts⟩ := List.forall_mem_cons.mp hName.isPart
    cases name with
    | nil =>
      rw [List.singleton_append, callEnd_cons_cons, if_pos ⟨hName.endsInWord, rfl⟩]
      rfl
    | cons d name =>
      have hOpen : ¬(isWord c = true ∧ d = '(') := fun hEnd =>
        isCallPart_ne_open (hParts d List.mem_cons_self) hEnd.2
      have hNext := @ih (c :: before) fuel (count + 1) (position + 1) (some position)
        ⟨hParts, hName.endsInWord⟩ (Nat.le_of_succ_le_succ hFuel) (by simp)
      rw [List.cons_append, List.cons_append, callEnd_cons_cons, if_neg hOpen, Option.none_or,
        callRound_cons, if_pos hPart]
      refine hNext.trans ?_
      simp [Nat.add_assoc, Nat.add_comm]

/-- The pattern matches nowhere but at calls. -/
theorem run_callPattern_of_not_startsWithCall (hText : ¬StartsWithCall text) :
    callPattern.run {} some ⟨before.length, before, text, [], []⟩ = none := by
  rw [run_callPattern]
  exact lazyRounds_of_not_startsWithCall hText (by simp)

/-- The place behind a call. -/
def afterCall (before name rest : List Char) : Cursor :=
  ⟨before.length + name.length + 1, '(' :: (name.reverse ++ before), rest, [(1, before.length)],
    [(1, before.length + name.length)]⟩

theorem capture?_afterCall (before name rest : List Char) :
    (afterCall before name rest).capture? 1 = some name := by
  simp [afterCall, Cursor.capture?, Cursor.text]

/-- At the start of a called name the pattern matches up to its parenthesis. Although the rounds are
lazy, there is no parenthesis inside the name at which they could end earlier. -/
theorem run_callPattern_of_isCalledName (hName : IsCalledName name) :
    callPattern.run {} some ⟨before.length, before, name ++ '(' :: rest, [], []⟩ =
      some (afterCall before name rest) := by
  rw [run_callPattern]
  refine lazyRounds_of_isCalledName hName ?_ (by simp)
  simp only [List.length_append]
  omega

theorem calledFrom_append {run part : List Char} (hParts : ∀ c ∈ part, isCallPart c = true)
    (rest : List Char) :
    calledFrom run (part ++ rest) = calledFrom (part.reverse ++ run) rest := by
  induction part generalizing run with
  | nil => rfl
  | cons c part ih =>
    obtain ⟨hPart, hParts⟩ := List.forall_mem_cons.mp hParts
    rw [List.cons_append, calledFrom, if_pos hPart, ih hParts, List.reverse_cons,
      List.append_assoc, List.singleton_append]

/-- The scan lists the name of a call that starts where it stands, and goes on behind it. -/
theorem calledFrom_of_isCalledName (hName : IsCalledName name) (rest : List Char) :
    calledFrom [] (name ++ '(' :: rest) = name :: calledFrom [] rest := by
  have hEnd : name.reverse.head?.any isWord = true := by
    rw [List.head?_reverse]
    exact hName.endsInWord
  have hOpen : ¬isCallPart '(' = true := by decide
  rw [calledFrom_append hName.isPart, List.append_nil, calledFrom, if_neg hOpen,
    if_pos ⟨rfl, hEnd⟩, List.reverse_reverse]

/-- A call still starts with more characters of its name in front. -/
theorem StartsWithCall.append {part : List Char} (hParts : ∀ c ∈ part, isCallPart c = true)
    (hText : StartsWithCall text) : StartsWithCall (part ++ text) := by
  induction part with
  | nil => exact hText
  | cons c part ih =>
    obtain ⟨hPart, hParts⟩ := List.forall_mem_cons.mp hParts
    obtain ⟨name, rest, hName, hRest⟩ := ih hParts
    exact ⟨c :: name, rest, hName.cons hPart, by rw [List.cons_append, hRest, List.cons_append]⟩

/-- A run of name characters, in reverse order, from whose start on the pattern of a call does not
match the text behind it. -/
structure IsPassedRun (run text : List Char) : Prop where
  isPart : ∀ c ∈ run, isCallPart c = true
  noCall : ¬StartsWithCall (run.reverse ++ text)

/-- Behind such a run there starts no call, or the pattern would have matched with the run in front.
-/
theorem IsPassedRun.not_startsWithCall {run : List Char} (hRun : IsPassedRun run text) :
    ¬StartsWithCall text := fun hText =>
  hRun.noCall (hText.append fun c hc => hRun.isPart c (List.mem_reverse.mp hc))

/-- A parenthesis behind such a run opens no call. -/
theorem IsPassedRun.not_called {run : List Char} (hRun : IsPassedRun run ('(' :: rest)) :
    run.head?.any isWord = false := by
  rw [← Bool.not_eq_true]
  intro hEnd
  refine hRun.noCall ⟨run.reverse, rest, ⟨fun c hc => ?_, ?_⟩, rfl⟩
  · exact hRun.isPart c (List.mem_reverse.mp hc)
  · rwa [List.getLast?_reverse]

/-- Where no call starts, the scan goes on with the next character, and the run stays one that the
pattern has passed over. -/
theorem calledFrom_cons_of_isPassedRun {c : Char} {run : List Char}
    (hRun : IsPassedRun run (c :: rest)) :
    ∃ next, (next = [] ∨ IsPassedRun next rest) ∧
      calledFrom run (c :: rest) = calledFrom next rest := by
  rw [calledFrom]
  by_cases hPart : isCallPart c = true
  · refine ⟨c :: run, .inr ⟨List.forall_mem_cons.mpr ⟨hPart, hRun.isPart⟩, ?_⟩, if_pos hPart⟩
    rw [List.reverse_cons, List.append_assoc, List.singleton_append]
    exact hRun.noCall
  · refine ⟨[], .inl rfl, ?_⟩
    rw [if_neg hPart, if_neg]
    rintro ⟨rfl, hEnd⟩
    rw [hRun.not_called] at hEnd
    cases hEnd

/-- The pattern finds the names that the scan finds. The scan may stand behind a run that the
pattern has passed over. -/
theorem captures_matchesAfter {run : List Char} (skip : Nat)
    (hRun : run = [] ∨ skip = 0 ∧ IsPassedRun run text) :
    (callPattern.matchesAfter {} skip before text).map (Cursor.capture? 1) =
      (calledFrom run (text.drop skip)).map some := by
  induction text generalizing skip before run with
  | nil =>
    cases skip with
    | zero =>
      have hEmpty : ¬StartsWithCall [] := by
        rintro ⟨name, rest, -, hText⟩
        simp at hText
      rw [Pattern.matchesAfter, run_callPattern_of_not_startsWithCall hEmpty]
      rfl
    | succ skip => rfl
  | cons c rest ih =>
    cases skip with
    | succ skip =>
      obtain rfl : run = [] := hRun.resolve_right (by simp)
      exact ih skip (.inl rfl)
    | zero =>
      by_cases hText : StartsWithCall (c :: rest)
      · -- the pattern passes over no run before a call, so the scan stands at its first character
        obtain rfl : run = [] := hRun.resolve_right fun hPassed =>
          hPassed.2.not_startsWithCall hText
        obtain ⟨name, tail, hName, hSplit⟩ := hText
        have hMatch : callPattern.run {} some ⟨before.length, before, c :: rest, [], []⟩ =
            some (afterCall before name tail) := by
          rw [hSplit]
          exact run_callPattern_of_isCalledName hName
        have hSkip : (afterCall before name tail).position - before.length - 1 = name.length := by
          change before.length + name.length + 1 - before.length - 1 = name.length
          omega
        have hTail : rest.drop name.length = tail := by
          have hDrop := congrArg (List.drop (name.length + 1)) hSplit
          simpa using hDrop
        rw [Pattern.matchesAfter, hMatch, List.map_cons, capture?_afterCall, hSkip, ih _ (.inl rfl),
          hTail, List.drop_zero, hSplit, calledFrom_of_isCalledName hName, List.map_cons]
      · have hPassed : IsPassedRun run (c :: rest) := by
          rcases hRun with rfl | ⟨-, hPassed⟩
          · exact ⟨List.forall_mem_nil _, hText⟩
          · exact hPassed
        obtain ⟨next, hNext, hScan⟩ := calledFrom_cons_of_isPassedRun hPassed
        rw [Pattern.matchesAfter, run_callPattern_of_not_startsWithCall hText, List.drop_zero,
          hScan]
        exact ih 0 (hNext.imp_right fun hNext => ⟨rfl, hNext⟩)

/-- What a line is listed to call. For each parenthesis right behind a word character, from left to
right, there is one name: the longest run of word characters and dots before the parenthesis. A
single chunk between the dots is left out if it is the keyword of function literals, and is put into
the scope unless it is a builtin. Other names are listed as they stand, and nothing else is listed.
The lazy pattern of a call captures the same names one after the other. -/
theorem callFacts_by_parentheses (scope : List String) (lineNo : Int) (line : List Char) :
    callFacts scope lineNo line =
        (callPositions line).filterMap (fun position =>
          (listedCall? scope (nameChunks (nameBefore line position))).map fun listed =>
            { table := callsTable, name := listed, lineNo := lineNo }) ∧
      (callPattern.matchesAfter {} 0 [] line).map (Cursor.capture? 1) =
        (callPositions line).map fun position => some (nameBefore line position) := by
  constructor
  · have hFacts : callFacts scope lineNo line =
        (calledFrom [] line).filterMap fun name =>
          (listedCall? scope (nameChunks name)).map fun listed =>
            { table := callsTable, name := listed, lineNo := lineNo } :=
      List.filterMap_congr fun name hName => callFact?_eq hName
    rw [hFacts, calledFrom_eq_map, List.filterMap_map]
    rfl
  · rw [captures_matchesAfter 0 (.inl rfl), List.drop_zero, calledFrom_eq_map, List.map_map]
    rfl

example : (callFacts ["p"] 7 "..x..y(f(len(z.(T)), func(a)))".toList).map Fact.name =
    [["x", "y"], ["p", "f"], ["len"]] := by
  decide +kernel

end CodeIndex.Go
