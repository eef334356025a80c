import CodeIndex.Proofs.ScanHistory

/-! A key that is no pattern is searched for as it stands. Its escaped form is always a pattern, one
literal for each character, and for ASCII texts that pattern is found exactly where the text stands
when letter case is ignored. -/
namespace CodeIndex.Search

/-! Reading the escaped form -/

/-- The unit that a character of a literal text is written as. -/
def literalSymbol (c : Char) : Symbol := if isSpecial c then .escaped c else .plain c

/-- An escaped text is made of one symbol for each character. -/
theorem ofChars_escape (text : List Char) :
    Symbol.ofChars (escape text) = text.map literalSymbol := by
  induction text with
  | nil => rfl
  | cons c rest ih =>
    rw [escape, List.map_cons, literalSymbol]
    split_ifs with hSpecial
    · rw [Symbol.ofChars, ih]
    · have hSlash : c ≠ '\\' := by
        rintro rfl
        exact hSpecial (by decide)
      rw [Symbol.ofChars, ih]
      · exact fun hLast => absurd hLast hSlash
      · exact fun _ _ hFirst => absurd hFirst hSlash

/-- No unit of a literal text is a dangling backslash. -/
theorem head?_literalSymbols (text : List Char) :
    (text.map literalSymbol).head? ≠ some .dangling := by
  cases text with
  | nil => nofun
  | cons c rest =>
    rw [List.map_cons, List.head?_cons, literalSymbol]
    split_ifs <;> nofun

/-- Behind a backslash a special character stands for no class, place or code but its own. -/
theorem special_meaning {c : Char} (hSpecial : isSpecial c = true) :
    c.isAlphanum = false ∧ anchor? c = none ∧ category? c = none ∧
      (controlCode? c = none ∨ controlCode? c = some c.toNat) := by
  have hAll : "()[]\x7b\x7d?*+-|^$\\.&~# \t\n\r\x0b\x0c".toList.all (fun d =>
      decide (d.isAlphanum = false ∧ anchor? d = none ∧ category? d = none ∧
        (controlCode? d = none ∨ controlCode? d = some d.toNat))) = true := by decide
  exact of_decide_eq_true (List.all_eq_true.mp hAll c (List.contains_iff_mem.mp hSpecial))

theorem readCode?_of_not_isAlphanum {c : Char} (hPlain : c.isAlphanum = false) :
    readCode? c = pure none := by
  have hNe (d : Char) (hLetter : d.isAlphanum = true) : c ≠ d := by
    rintro rfl
    rw [hPlain] at hLetter
    cases hLetter
  rw [readCode?, if_neg (hNe 'x' rfl), if_neg (hNe 'u' rfl), if_neg (hNe 'U' rfl),
    if_neg (hNe 'N' rfl)]

theorem readEscape_special {c : Char} (hSpecial : isSpecial c = true) :
    readEscape c = pure (.literal c.toNat) := by
  obtain ⟨hPlain, hAnchor, hCategory, hControl⟩ := special_meaning hSpecial
  have hParts : c.isAlpha = false ∧ c.isDigit = false := by
    rwa [Char.isAlphanum, Bool.or_eq_false_iff] at hPlain
  have hZero : c ≠ '0' := by
    rintro rfl
    cases hPlain
  rcases hControl with hControl | hControl
  · simp [readEscape, hAnchor, hCategory, hControl, readCode?_of_not_isAlphanum hPlain, hParts,
      hZero]
  · simp [readEscape, hAnchor, hCategory, hControl]

/-- A reading that starts with a step that succeeds goes on from there. -/
theorem bind_eq_of_ok {α β : Type} {start next : Progress} {step : Read α} {value : α}
    (hStep : step start = .ok (value, next)) (after : α → Read β) :
    (step >>= after) start = after value next := by
  change (step start >>= _) = _
  rw [hStep, ok_bind]

variable {fuel : Nat} {first : Bool} {items : List Pattern} {progress : Progress}

theorem skip_literal (symbol : Symbol) (text : List Char) :
    Read.skip { progress with rest := symbol :: text.map literalSymbol } =
      .ok ((), { progress with rest := text.map literalSymbol }) := by
  cases text with
  | nil => rfl
  | cons c rest =>
    rw [List.map_cons, literalSymbol]
    split_ifs <;> rfl

/-- One character of an escaped text is read as a literal. -/
theorem readSequence_literal (c : Char) (text : List Char) :
    readSequence (fuel + 1) false first items
        { progress with rest := (c :: text).map literalSymbol } =
      readSequence fuel false first (.literal c.toNat :: items)
        { progress with rest := text.map literalSymbol } := by
  have hSkip (symbol : Symbol) := @skip_literal progress symbol text
  rw [readSequence, List.map_cons]
  by_cases hSpecial : isSpecial c = true
  · have hSymbol : literalSymbol c = .escaped c := if_pos hSpecial
    rw [hSymbol]
    change (Read.skip >>= fun _ => readEscape c >>= fun item =>
      readSequence fuel false first (item :: items)) _ = _
    rw [readEscape_special hSpecial, pure_bind]
    exact bind_eq_of_ok (hSkip (.escaped c)) _
  · have hSymbol : literalSymbol c = .plain c := if_neg hSpecial
    have hNe (d : Char) (hd : isSpecial d = true) : c ≠ d := by
      rintro rfl
      exact hSpecial hd
    rw [hSymbol]
    change (if (decide (c = '|') || decide (c = ')')) = true then _ else _ :
      Read (List Pattern)) _ = _
    rw [if_neg (by simp [hNe '|' rfl, hNe ')' rfl])]
    refine (bind_eq_of_ok (hSkip (.plain c)) _).trans ?_
    simp only [Bool.false_and, Bool.false_eq_true, if_false]
    -- all characters with a case of their own are special
    split
    case h_10 => rfl
    all_goals exact absurd rfl (hNe _ rfl)

/-- An escaped text is read as the literals of its characters. The induction is on the text. -/
theorem readSequence_literals {text : List Char} (hFuel : text.length < fuel) :
    readSequence fuel false first items { progress with rest := text.map literalSymbol } =
      .ok (Pattern.unpackedItems ((text.map fun c => .literal c.toNat).reverse ++ items),
        { progress with rest := [] }) := by
  induction text generalizing fuel items with
  | nil =>
    obtain ⟨fuel, rfl⟩ := Nat.exists_eq_add_one_of_ne_zero (Nat.ne_zero_of_lt hFuel)
    rw [readSequence]
    rfl
  | cons c rest ih =>
    rw [List.length_cons] at hFuel
    obtain ⟨fuel, rfl⟩ := Nat.exists_eq_add_one_of_ne_zero (Nat.ne_zero_of_lt hFuel)
    rw [readSequence_literal, ih (Nat.lt_of_succ_lt_succ hFuel), List.map_cons, List.reverse_cons,
      List.append_assoc, List.singleton_append]

/-- The pattern of a text that stands for itself. -/
def literally (text : List Char) : Pattern := .ofItems (text.map fun c => .literal c.toNat)

theorem unpackedItems_literals (text : List Char) :
    Pattern.unpackedItems (text.map fun c => .literal c.toNat).reverse =
      text.map fun c => .literal c.toNat := by
  rw [Pattern.unpackedItems, List.reverse_reverse, List.flatMap_map]
  exact List.flatMap_pure_eq_map _ _

theorem hasFixedLookbehind_literally (text : List Char) :
    (literally text).hasFixedLookbehind = true := by
  induction text with
  | nil => rfl
  | cons c text ih =>
    cases text with
    | nil => rfl
    | cons d text => exact ih

/-- What is checked once all of a pattern has been read. -/
def checkRead (pattern : Pattern) (progress : Progress) : Except Fault (Pattern × Flags) :=
  if progress.flags.ascii && progress.flags.unicode then .error .flagConflict
  else if progress.rest.isEmpty then
    if progress.conditions.any fun number => progress.widths.length ≤ number then .error .malformed
    else if pattern.hasFixedLookbehind then
      if progress.flags.template && pattern.hasRepetition then .error .malformed
      else .ok (pattern, progress.flags)
    else .error .malformed
  else .error .malformed

/-- The progress at the start of a pattern. -/
def startOf (symbols : List Symbol) : Progress :=
  { rest := symbols, flags := { ignoreCase := true } }

/-- To read a pattern is to read alternatives and then to check what was found. -/
theorem readPattern_eq (text : List Char) :
    readPattern text =
      if (Symbol.ofChars text).head? = some .dangling then .error .malformed
      else readChoice (4 * (Symbol.ofChars text).length + 8) false false []
          (startOf (Symbol.ofChars text)) >>= fun read => checkRead read.1 read.2 := by
  rw [readPattern]
  split_ifs
  · rfl
  · refine bind_congr fun read => ?_
    obtain ⟨pattern, progress⟩ := read
    dsimp only
    rw [checkRead]
    split_ifs <;> rfl

/-- The escaped form of any text is a pattern, and it stands for the text itself. -/
theorem readPattern_escape (text : List Char) :
    readPattern (escape text) = .ok (literally text, { ignoreCase := true }) := by
  have hRead : readChoice (4 * text.length + 8) false false [] (startOf (text.map literalSymbol)) =
      .ok (literally text, startOf []) := by
    have hBranch :=
      @readSequence_literals (4 * text.length + 7) true [] (startOf []) text (by omega)
    rw [List.append_nil, unpackedItems_literals] at hBranch
    rw [readChoice]
    exact (bind_eq_of_ok hBranch _).trans rfl
  rw [readPattern_eq, ofChars_escape, if_neg (head?_literalSymbols text), List.length_map, hRead,
    ok_bind, checkRead]
  simp [startOf, hasFixedLookbehind_literally]

/-- The fault that a text is refused with as a pattern. -/
def fault? (text : List Char) : Option Fault :=
  match readPattern text with
  | .ok _ => none
  | .error fault => some fault

/-- The fault of a text is the one that the reader ends with. -/
theorem readPattern_of_fault? {text : List Char} {fault : Fault}
    (hFault : fault? text = some fault) : readPattern text = .error fault := by
  rw [fault?] at hFault
  split at hFault
  · cases hFault
  · rename_i other hRead
    rw [hRead, Option.some.inj hFault]

/-- A key that does not follow the grammar of patterns is replaced by its escaped form. -/
theorem ofText_of_malformed {text : String}
    (hMalformed : readPattern text.toList = .error .malformed) :
    Key.ofText text = .ok ⟨text, String.ofList (escape text.toList), literally text.toList,
      { ignoreCase := true }⟩ := by
  simp only [Key.ofText, hMalformed, readPattern_escape]

/-! Matching literals -/

/-- Literals match at a place exactly if the text that follows starts with accepted characters. -/
theorem run_literally_isSome_iff (text : List Char) (flags : Flags) (cursor : Cursor) :
    ((literally text).run flags some cursor).isSome = true ↔
      ∃ front, front <+: cursor.after ∧
        List.Forall₂ (fun c d => literalAccepts flags c.toNat d = true) text front := by
  induction text generalizing cursor with
  | nil => exact ⟨fun _ => ⟨[], List.nil_prefix, .nil⟩, fun _ => rfl⟩
  | cons c text ih =>
    have hStep : (literally (c :: text)).run flags some cursor =
        (cursor.step? (literalAccepts flags c.toNat)).bind ((literally text).run flags some) := by
      cases text <;> rfl
    rw [hStep, Cursor.step?]
    cases hAfter : cursor.after with
    | nil =>
      simp only [Option.bind_none, Option.isSome_none, Bool.false_eq_true, false_iff]
      rintro ⟨front, hFront, hAccepts⟩
      rw [List.prefix_nil.mp hFront] at hAccepts
      cases hAccepts
    | cons d rest =>
      dsimp only
      split_ifs with hAccepted
      · rw [Option.bind_some, ih]
        constructor
        · rintro ⟨front, hFront, hAccepts⟩
          exact ⟨d :: front, List.cons_prefix_cons.mpr ⟨rfl, hFront⟩, .cons hAccepted hAccepts⟩
        · rintro ⟨front, hFront, hAccepts⟩
          cases hAccepts with
          | cons _ hRest => exact ⟨_, (List.cons_prefix_cons.mp hFront).2, hRest⟩
      · simp only [Option.bind_none, Option.isSome_none, Bool.false_eq_true, false_iff]
        rintro ⟨front, hFront, hAccepts⟩
        cases hAccepts with
        | cons hFirst _ =>
          rw [(List.cons_prefix_cons.mp hFront).1] at hFirst
          exact hAccepted hFirst

/-! ASCII -/

/-- A text of ASCII characters only. -/
def IsAscii (text : List Char) : Prop := ∀ c ∈ text, c.toNat < 128

instance (text : List Char) : Decidable (IsAscii text) := List.decidableBAll _ text

theorem toLower_lt {c : Char} (hc : c.toNat < 128) : c.toLower.toNat < 128 := by
  have hAll : ∀ n < 128, (Char.ofNat n).toLower.toNat < 128 := by decide
  simpa using hAll c.toNat hc

/-- No two ASCII characters of lower case are taken for one another. -/
theorem contains_caseFamily {n m : Nat} (hn : n < 128) (hm : m < 128) :
    (caseFamily n).contains m = true ↔ n = m := by
  have hAll : ∀ n < 128, (caseFamily n).filter (· < 128) = [n] := by decide +kernel
  have hMem : m ∈ (caseFamily n).filter (· < 128) ↔ m ∈ caseFamily n := by simp [hm]
  rw [List.contains_iff_mem, ← hMem, hAll n hn, List.mem_singleton, eq_comm]

/-- ASCII characters match without regard to case exactly if they are the same in lower case. -/
theorem literalAccepts_ascii {c d : Char} (hc : c.toNat < 128) (hd : d.toNat < 128) :
    literalAccepts { ignoreCase := true } c.toNat d = true ↔ c.toLower = d.toLower := by
  have hCode : Flags.lowerCode { ignoreCase := true } c.toNat = c.toLower.toNat := by
    have hValid : c.toNat.isValidChar := .inl (by omega)
    simp [Flags.lowerCode, hValid, Flags.lower, lowerChar, hc]
  have hLower : Flags.lower { ignoreCase := true } d = d.toLower := by
    simp [Flags.lower, lowerChar, hd]
  rw [literalAccepts, if_pos rfl, hCode, hLower, Flags.family, if_neg Bool.false_ne_true,
    contains_caseFamily (toLower_lt hc) (toLower_lt hd), Char.toNat_inj]

theorem lowerAfter_ascii {text : List Char} (hText : IsAscii text) (before : List Char) :
    lowerAfter before text = text.map Char.toLower := by
  induction text generalizing before with
  | nil => rfl
  | cons c rest ih =>
    obtain ⟨hc, hRest⟩ := List.forall_mem_cons.mp hText
    rw [lowerAfter, if_pos hc, ih hRest, List.map_cons, List.singleton_append]

/-- ASCII text is lowered character by character. -/
theorem toList_lowerText {text : String} (hText : IsAscii text.toList) :
    (lowerText text).toList = text.toList.map Char.toLower := by
  rw [lowerText, String.toList_ofList, lowerAfter_ascii hText]

/-- ASCII texts match character by character exactly if they are the same in lower case. -/
theorem forall₂_literalAccepts {text front : List Char} (hText : IsAscii text)
    (hFront : IsAscii front) :
    List.Forall₂ (fun c d => literalAccepts { ignoreCase := true } c.toNat d = true) text front ↔
      text.map Char.toLower = front.map Char.toLower := by
  induction text generalizing front with
  | nil => cases front <;> simp
  | cons c text ih =>
    cases front with
    | nil => simp
    | cons d front =>
      obtain ⟨hc, hText⟩ := List.forall_mem_cons.mp hText
      obtain ⟨hd, hFront⟩ := List.forall_mem_cons.mp hFront
      rw [List.forall₂_cons, literalAccepts_ascii hc hd, ih hText hFront, List.map_cons,
        List.map_cons, List.cons.injEq]

/-- The pattern of an ASCII text is found in an ASCII text exactly if the one is part of the other
in lower case. -/
theorem foundAfter_literally_iff {text name : List Char} (hText : IsAscii text)
    (hName : IsAscii name) (before : List Char) (position : Nat) :
    (literally text).foundAfter { ignoreCase := true } before position name = true ↔
      text.map Char.toLower <:+: name.map Char.toLower := by
  have hRun (before after : List Char) (position : Nat) (hAfter : IsAscii after) :
      ((literally text).run { ignoreCase := true } some ⟨position, before, after, [], []⟩).isSome
          = true ↔ text.map Char.toLower <+: after.map Char.toLower := by
    rw [run_literally_isSome_iff, List.prefix_map_iff]
    refine exists_congr fun front => and_congr_right fun hFront => ?_
    exact forall₂_literalAccepts hText fun c hc => hAfter c (hFront.subset hc)
  induction name generalizing before position with
  | nil =>
    rw [Pattern.foundAfter, hRun _ _ _ hName]
    simp
  | cons c rest ih =>
    obtain ⟨-, hRest⟩ := List.forall_mem_cons.mp hName
    rw [Pattern.foundAfter, Bool.or_eq_true, List.map_cons, List.infix_cons_iff]
    exact or_congr (hRun _ _ _ hName) (ih hRest _ _)

/-! Scores -/

/-- The last segment ends the qualified name. -/
theorem lastSegment_suffix {record : Record} (hName : record.name ≠ []) :
    record.lastSegment.toList <:+ record.qualifiedName.toList := by
  have hJoin {segments : List String} (hSegments : segments ≠ []) :
      (segments.getLast?.getD "").toList <:+ ['.'].intercalate (segments.map String.toList) := by
    induction segments with
    | nil => exact absurd rfl hSegments
    | cons segment segments ih =>
      cases segments with
      | nil => simp
      | cons next segments =>
        rw [List.getLast?_cons_cons, List.map_cons, List.map_cons, List.intercalate_cons_cons]
        exact (ih (by simp)).trans (List.suffix_append _ _)
  rw [Record.qualifiedName, String.toList_intercalate]
  exact hJoin hName

/-- An ASCII text that does not follow the grammar of patterns is searched for literally: its
escaped form is read as a pattern, and a record with an ASCII name scores exactly if the text in
lower case is part of the qualified name in lower case. -/
theorem malformedKey_scores_iff {text : String} {record : Record}
    (hText : IsAscii text.toList) (hMalformed : readPattern text.toList = .error .malformed)
    (hName : record.name ≠ []) (hAscii : IsAscii record.qualifiedName.toList) :
    ∃ key n, Key.ofText text = .ok key ∧ key.source = String.ofList (escape text.toList) ∧
      readPattern (escape text.toList) = .ok (key.pattern, key.flags) ∧
      score key record = .ok n ∧
      (0 < n ↔ (lowerText text).toList <:+: (lowerText record.qualifiedName).toList) := by
  have hSuffix := lastSegment_suffix hName
  have hShort : IsAscii record.lastSegment.toList := fun c hc => hAscii c (hSuffix.subset hc)
  refine ⟨_, _, ofText_of_malformed hMalformed, rfl, readPattern_escape _, score_eq _ hName, ?_⟩
  rw [scoreOf, score, Record.shortName_eq hName]
  simp only [ok_bind]
  -- equal names and equal last segments are parts of the name, so only the search decides
  split_ifs with hExact hFolded hSegment hFoldedSegment hFound
  · exact iff_of_true (by decide) (hExact ▸ List.infix_rfl)
  · exact iff_of_true (by decide) (hFolded ▸ List.infix_rfl)
  · refine iff_of_true (by decide) ?_
    rw [← hSegment, toList_lowerText hShort, toList_lowerText hAscii]
    exact hSuffix.isInfix.map _
  · refine iff_of_true (by decide) ?_
    rw [← hFoldedSegment, toList_lowerText hShort, toList_lowerText hAscii]
    exact hSuffix.isInfix.map _
  · refine iff_of_true (by decide) ?_
    rw [toList_lowerText hText, toList_lowerText hAscii]
    exact (foundAfter_literally_iff hText hAscii [] 0).mp hFound
  · refine iff_of_false (by decide) fun hInfix => hFound ?_
    rw [toList_lowerText hText, toList_lowerText hAscii] at hInfix
    exact (foundAfter_literally_iff hText hAscii [] 0).mpr hInfix

/-- A definition whose name holds brackets. -/
def bracketRecord : Record := ⟨"defs", ["m", "Max[int]"], "a.go", none, none, none, none⟩

/-- A bracket that is not closed is searched for like any other character. -/
theorem openBracket_scores :
    IsAscii "x[I".toList ∧ readPattern "x[I".toList = .error .malformed ∧
    ∃ key n, Key.ofText "x[I" = .ok key ∧ key.source = "x\\[I" ∧
      score key bracketRecord = .ok n ∧ 0 < n := by
  have hText : IsAscii "x[I".toList := by decide
  have hMalformed : readPattern "x[I".toList = .error .malformed :=
    readPattern_of_fault? (by decide +kernel)
  obtain ⟨key, n, hKey, hSource, -, hScore, hPositive⟩ :=
    @malformedKey_scores_iff "x[I" bracketRecord hText hMalformed (by decide) (by decide +kernel)
  refine ⟨hText, hMalformed, key, n, hKey, hSource.trans (by decide +kernel), hScore, ?_⟩
  exact hPositive.mpr (by decide +kernel)

end CodeIndex.Search
