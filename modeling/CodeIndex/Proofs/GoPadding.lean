import CodeIndex.Extract.GoScan
import Mathlib.Data.List.TakeWhile
import Mathlib.Tactic.Common

/-! A space or a tab at the end of a line of Go code is not seen by any of the readers of lines. A
reader that goes on behind what it has found hands the blank on with the rest, and in the end it is
passed over, or nothing but it is left and the reader fails as it does without it. -/
namespace CodeIndex.Go

/-! Padding -/

/-- The blanks that a line may be padded with. -/
def IsPadding (c : Char) : Prop := c = ' ' ∨ c = '\t'

instance (c : Char) : Decidable (IsPadding c) := inferInstanceAs (Decidable (_ ∨ _))

/-- The characters can be told from padding. -/
def HoldsNoPadding (chars : List Char) : Prop := ∀ c ∈ chars, ¬IsPadding c

instance (chars : List Char) : Decidable (HoldsNoPadding chars) := List.decidableBAll _ chars

namespace IsPadding

variable {blank : Char} (hBlank : IsPadding blank)
include hBlank

theorem isBlank : isBlank blank = true := by
  rcases hBlank with rfl | rfl <;> decide

theorem isWord : isWord blank = false := by
  rcases hBlank with rfl | rfl <;> decide

theorem ne {c : Char} (hc : ¬IsPadding c) : blank ≠ c := by
  rintro rfl
  exact hc hBlank

end IsPadding

section Concat

variable {blank : Char}

/-- What a test takes from the front ends before the padding, if the padding does not pass it. -/
theorem takeWhile_concat {accepts : Char → Bool} (hStop : accepts blank = false)
    (text : List Char) : (text ++ [blank]).takeWhile accepts = text.takeWhile accepts := by
  induction text with
  | nil => exact List.takeWhile_cons_of_neg (by simp [hStop])
  | cons c text ih => rw [List.cons_append, List.takeWhile_cons, List.takeWhile_cons, ih]

/-- What a test leaves behind keeps the padding, if the padding does not pass it. -/
theorem dropWhile_concat {accepts : Char → Bool} (hStop : accepts blank = false)
    (text : List Char) :
    (text ++ [blank]).dropWhile accepts = text.dropWhile accepts ++ [blank] := by
  rw [List.dropWhile_append]
  split_ifs with hAll
  · simp [hStop, List.isEmpty_iff.mp hAll]
  · rfl

/-- Behind characters that include the padding, a blank at the end is left only if anything else
is. -/
theorem dropWhile_concat_of_pos {accepts : Char → Bool} (hGo : accepts blank = true)
    (text : List Char) :
    text.dropWhile accepts = [] ∧ (text ++ [blank]).dropWhile accepts = [] ∨
      text.dropWhile accepts ≠ [] ∧
        (text ++ [blank]).dropWhile accepts = text.dropWhile accepts ++ [blank] := by
  rw [List.dropWhile_append]
  split_ifs with hAll
  · exact .inl ⟨List.isEmpty_iff.mp hAll, List.dropWhile_cons_of_pos hGo⟩
  · exact .inr ⟨fun hEmpty => hAll (List.isEmpty_iff.mpr hEmpty), rfl⟩

/-- Padding does not bring another character to the start of a text. -/
theorem ne_cons_concat {first : Char} {rest : List Char} (hRest : ∀ tail, rest ≠ first :: tail)
    (hFirst : blank ≠ first) (tail : List Char) : rest ++ [blank] ≠ first :: tail := by
  intro hText
  cases rest with
  | nil => exact hFirst (List.cons.inj hText).1
  | cons c rest => exact hRest rest (by rw [(List.cons.inj hText).1])

/-- A found part and the rest behind it, with one more blank. -/
def withBlank (blank : Char) (found : List Char × List Char) : List Char × List Char :=
  (found.1, found.2 ++ [blank])

/-- A type with or without a star before it, and the rest. -/
def starredType? (text : List Char) : Option (List Char × List Char) :=
  match text with
  | '*' :: rest => word? (skipBlanks rest)
  | _ => word? text

/-- A type without a star is a word. -/
theorem starredType?_of_ne {c : Char} (rest : List Char) (hc : c ≠ '*') :
    starredType? (c :: rest) = word? (c :: rest) := by
  rw [starredType?.eq_def]
  split
  · rename_i hStar
    exact absurd (List.cons.inj hStar).1 hc
  · rfl

/-- A receiver that does not begin with a word is a type alone. -/
theorem receiverType?_of_none {text : List Char} (hWord : word? text = none) :
    receiverType? text = starredType? text := by
  rw [receiverType?, hWord]
  rfl

/-- A receiver that begins with a word is a name with a type behind it, or else a type. -/
theorem receiverType?_of_some {text name rest : List Char}
    (hWord : word? text = some (name, rest)) :
    receiverType? text = ((blanks? rest).bind starredType?).or (some (name, rest)) := by
  rw [receiverType?, hWord]
  dsimp only
  cases blanks? rest <;> rfl

variable (hBlank : IsPadding blank)
include hBlank

/-- If there is nothing but blanks the padding goes with them. Else it stays at the end. -/
theorem skipBlanks_concat (text : List Char) :
    skipBlanks text = [] ∧ skipBlanks (text ++ [blank]) = [] ∨
      skipBlanks text ≠ [] ∧ skipBlanks (text ++ [blank]) = skipBlanks text ++ [blank] :=
  dropWhile_concat_of_pos hBlank.isBlank text

theorem blanks?_blank : blanks? [blank] = some [] := if_pos hBlank.isBlank

/-- Fixed characters without padding are found at the front whether or not there is padding at the
end. -/
theorem after?_concat {chars : List Char} (hChars : HoldsNoPadding chars)
    (text : List Char) :
    after? chars (text ++ [blank]) = (after? chars text).map (· ++ [blank]) := by
  induction chars generalizing text with
  | nil => rfl
  | cons c chars ih =>
    obtain ⟨hc, hRest⟩ := List.forall_mem_cons.mp hChars
    cases text with
    | nil =>
      rw [List.nil_append, after?, if_neg (Ne.symm (hBlank.ne hc))]
      rfl
    | cons d text =>
      rw [List.cons_append, after?, after?, ih hRest]
      split_ifs <;> rfl

/-- A word at the front ends before the padding at the latest. -/
theorem word?_concat (text : List Char) :
    word? (text ++ [blank]) = (word? text).map (withBlank blank) := by
  rw [word?, word?, takeWhile_concat hBlank.isWord, dropWhile_concat hBlank.isWord]
  split_ifs <;> rfl

/-- The parameters in brackets end before the padding, or there are none. -/
theorem skipBrackets_concat (text : List Char) :
    skipBrackets (text ++ [blank]) = skipBrackets text ++ [blank] := by
  have hOther {c : Char} {rest : List Char} (hc : c ≠ '[') :
      skipBrackets (c :: rest) = c :: rest := by
    rw [skipBrackets]
    rintro tail hFirst
    exact absurd (List.cons.inj hFirst).1 hc
  cases text with
  | nil => exact hOther (hBlank.ne (by decide))
  | cons c rest =>
    by_cases hc : c = '['
    · subst hc
      rw [List.cons_append, skipBrackets, skipBrackets, List.dropWhile_append]
      cases hRest : rest.dropWhile (· ≠ ']') with
      | nil => simp [hBlank.ne (show ¬IsPadding ']' by decide)]
      | cons d tail => simp
    · rw [List.cons_append, hOther hc, hOther hc, List.cons_append]

theorem starredType?_concat (text : List Char) :
    starredType? (text ++ [blank]) = (starredType? text).map (withBlank blank) := by
  cases text with
  | nil => exact (starredType?_of_ne [] (hBlank.ne (by decide))).trans (word?_concat hBlank [])
  | cons c rest =>
    by_cases hc : c = '*'
    · subst hc
      change word? (skipBlanks (rest ++ [blank])) = (word? (skipBlanks rest)).map _
      rcases skipBlanks_concat hBlank rest with ⟨hEmpty, hPadded⟩ | ⟨hFilled, hPadded⟩
      · rw [hEmpty, hPadded]
        rfl
      · rw [hPadded]
        exact word?_concat hBlank _
    · rw [List.cons_append, starredType?_of_ne _ hc, starredType?_of_ne _ hc]
      exact word?_concat hBlank (c :: rest)

/-- A receiver at the front ends before the padding. -/
theorem receiverType?_concat (text : List Char) :
    receiverType? (text ++ [blank]) = (receiverType? text).map (withBlank blank) := by
  have hPadded := word?_concat hBlank text
  cases hWord : word? text with
  | none =>
    rw [hWord, Option.map_none] at hPadded
    rw [receiverType?_of_none hPadded, receiverType?_of_none hWord]
    exact starredType?_concat hBlank text
  | some found =>
    obtain ⟨name, rest⟩ := found
    rw [hWord, Option.map_some, withBlank] at hPadded
    rw [receiverType?_of_some hPadded, receiverType?_of_some hWord, Option.map_or]
    cases rest with
    | nil =>
      rw [List.nil_append, blanks?_blank hBlank]
      rfl
    | cons c rest =>
      rw [List.cons_append, blanks?, blanks?]
      split_ifs
      · rcases skipBlanks_concat hBlank rest with ⟨hEmpty, hPadded⟩ | ⟨hFilled, hPadded⟩
        · rw [hEmpty, hPadded]
          rfl
        · rw [Option.bind_some, Option.bind_some, hPadded, starredType?_concat hBlank]
          rfl
      · rfl

end Concat

/-! Readers that pay no attention to padding -/

/-- A reader of texts that gives the same for a text with one more blank at its end. -/
def IgnoresPadding {α : Type} (read : List Char → α) : Prop :=
  ∀ text blank, IsPadding blank → read (text ++ [blank]) = read text

namespace IgnoresPadding

section

variable {α β : Type} {read : List Char → α}

theorem map (hRead : IgnoresPadding read) (change : α → β) :
    IgnoresPadding fun text => change (read text) :=
  fun text blank hBlank => congrArg change (hRead text blank hBlank)

/-- To leave out a run in front, padding included, leaves all that is found later as it is. -/
theorem dropWhile {accepts : Char → Bool} (hAccepts : ∀ c, IsPadding c → accepts c = true)
    (hRead : IgnoresPadding read) : IgnoresPadding fun text => read (text.dropWhile accepts) := by
  intro text blank hBlank
  dsimp only
  rcases dropWhile_concat_of_pos (hAccepts blank hBlank) text with
    ⟨hEmpty, hPadded⟩ | ⟨hFilled, hPadded⟩
  · rw [hEmpty, hPadded]
  · rw [hPadded]
    exact hRead _ blank hBlank

theorem skipBlanks (hRead : IgnoresPadding read) :
    IgnoresPadding fun text => read (skipBlanks text) :=
  hRead.dropWhile fun _ hBlank => hBlank.isBlank

theorem skipBrackets (hRead : IgnoresPadding read) :
    IgnoresPadding fun text => read (skipBrackets text) := by
  intro text blank hBlank
  dsimp only
  rw [skipBrackets_concat hBlank]
  exact hRead _ blank hBlank

end

variable {α : Type} {read : List Char → Option α}

/-- A reader may insist on fixed characters before it. -/
theorem after? (chars : List Char) (hChars : HoldsNoPadding chars)
    (hRead : IgnoresPadding read) : IgnoresPadding fun text => (after? chars text).bind read := by
  intro text blank hBlank
  dsimp only
  rw [after?_concat hBlank hChars, Option.bind_map]
  exact Option.bind_congr fun rest _ => hRead rest blank hBlank

/-- Behind blanks nothing is left to be read if there were only blanks. -/
theorem blanks? (hEmpty : read [] = none) (hRead : IgnoresPadding read) :
    IgnoresPadding fun text => (blanks? text).bind read := by
  intro text blank hBlank
  cases text with
  | nil =>
    change (Go.blanks? [blank]).bind read = none
    rw [blanks?_blank hBlank]
    exact hEmpty
  | cons c text =>
    dsimp only
    rw [List.cons_append, Go.blanks?, Go.blanks?]
    split_ifs
    · exact hRead.skipBlanks text blank hBlank
    · rfl

/-- A reader may insist on a keyword and a blank before it. The blank may be the padding itself, and
then there is nothing to read. -/
theorem keyword? (keyword : String) (hKeyword : HoldsNoPadding keyword.toList)
    (hEmpty : read [] = none) (hRead : IgnoresPadding read) :
    IgnoresPadding fun text => (keyword? keyword text).bind read := by
  have hBoth := (hRead.blanks? hEmpty).after? keyword.toList hKeyword
  intro text blank hBlank
  simpa only [Go.keyword?, Option.bind_assoc] using hBoth text blank hBlank

/-- What is read behind a keyword and blanks that stand before a block. -/
theorem opensBlock? (keyword : String) (hKeyword : HoldsNoPadding keyword.toList)
    (hEmpty : Go.after? keyword.toList [] = none) (hRead : IgnoresPadding read) :
    IgnoresPadding fun text => (opensBlock? keyword text).bind read := by
  have hBody := (hRead.after? ['\x7b'] (by decide)).skipBlanks.after? keyword.toList hKeyword
  have hBoth := hBody.blanks? (by rw [hEmpty]; rfl)
  intro text blank hBlank
  simpa only [Go.opensBlock?, Option.bind_assoc, Option.bind_eq_bind] using hBoth text blank hBlank

variable {read : List Char × List Char → Option α}

/-- Behind a part that is found without the padding, the rest is read with it. -/
theorem bind_of_concat {find : List Char → Option (List Char × List Char)}
    (hFind : ∀ {blank}, IsPadding blank → ∀ text,
      find (text ++ [blank]) = (find text).map (withBlank blank))
    (hRead : ∀ part, IgnoresPadding fun rest => read (part, rest)) :
    IgnoresPadding fun text => (find text).bind read := by
  intro text blank hBlank
  dsimp only
  rw [hFind hBlank, Option.bind_map]
  exact Option.bind_congr fun found _ => hRead found.1 found.2 blank hBlank

theorem word? (hRead : ∀ word, IgnoresPadding fun rest => read (word, rest)) :
    IgnoresPadding fun text => (word? text).bind read :=
  bind_of_concat word?_concat hRead

theorem receiverType? (hRead : ∀ type, IgnoresPadding fun rest => read (type, rest)) :
    IgnoresPadding fun text => (receiverType? text).bind read :=
  bind_of_concat receiverType?_concat hRead

end IgnoresPadding

/-! Shapes of lines -/

/-- A test of the first character, if there is one. -/
theorem head?_any_ignores {test : Char → Bool} (hTest : ∀ c, IsPadding c → test c = false) :
    IgnoresPadding fun text => text.head?.any test := by
  intro text blank hBlank
  cases text with
  | nil => exact hTest blank hBlank
  | cons c text => rfl

/-- Whether parameters follow shows at the first character that is not blank. -/
theorem opensParameters_eq (text : List Char) :
    opensParameters text = (skipBlanks text).head?.any fun c => c == '[' || c == '(' := by
  rw [opensParameters]
  split
  · rename_i hText
    rw [hText]
    rfl
  · rename_i hText
    rw [hText]
    rfl
  · rename_i hBracket hParenthesis
    cases hText : skipBlanks text with
    | nil => rfl
    | cons c rest =>
      have hc : c ≠ '[' ∧ c ≠ '(' := by
        constructor
        · rintro rfl
          exact hBracket rest hText
        · rintro rfl
          exact hParenthesis rest hText
      simp [hc]

theorem opensParameters_ignores : IgnoresPadding opensParameters := by
  have hHead : IgnoresPadding fun text : List Char =>
      text.head?.any fun c => c == '[' || c == '(' :=
    head?_any_ignores (by rintro c (rfl | rfl) <;> rfl)
  intro text blank hBlank
  rw [opensParameters_eq, opensParameters_eq]
  exact hHead.skipBlanks text blank hBlank

/-- The head of a function is found with padding at the end of its line. -/
theorem functionName?_ignores : IgnoresPadding functionName? := by
  refine .keyword? "func" (by decide) rfl (.word? fun name => ?_)
  exact opensParameters_ignores.map fun isOpen => if isOpen then some name else none

theorem methodName?_ignores : IgnoresPadding methodName? := by
  have hName (receiver : List Char) : IgnoresPadding fun rest =>
      (word? rest).bind fun found =>
        if opensParameters found.2 then some (receiver, found.1) else none :=
    .word? fun name =>
      opensParameters_ignores.map fun isOpen => if isOpen then some (receiver, name) else none
  have hClose (receiver : List Char) :=
    ((hName receiver).skipBlanks.after? [')'] (by decide)).skipBlanks.skipBrackets
  have hReceiver : IgnoresPadding fun rest => (receiverType? rest).bind fun receiver =>
      (after? [')'] (skipBlanks (skipBrackets receiver.2))).bind fun rest =>
        (word? (skipBlanks rest)).bind fun found =>
          if opensParameters found.2 then some (receiver.1, found.1) else none :=
    .receiverType? hClose
  exact (hReceiver.skipBlanks.after? ['('] (by decide)).keyword? "func" (by decide) rfl

theorem packageName?_ignores : IgnoresPadding packageName? :=
  .keyword? "package" (by decide) rfl (.word? fun _ _ _ _ => rfl)

/-- A reader may take the name of a type before it. -/
theorem typeName?_ignores {α : Type} {read : List Char × List Char → Option α}
    (hRead : ∀ name, IgnoresPadding fun rest => read (name, rest)) :
    IgnoresPadding fun line => (typeName? line).bind read := by
  have hName := (IgnoresPadding.word? hRead).keyword? "type" (by decide) rfl
  intro line blank hBlank
  simpa only [typeName?, Option.bind_eq_bind, Option.bind_assoc] using hName line blank hBlank

/-- What is made of the name in a type declaration without a look at the rest. -/
theorem map_typeName?_concat {α : Type} {change : List Char × List Char → α} {blank : Char}
    (hBlank : IsPadding blank) (line : List Char)
    (hChange : ∀ name rest other, change (name, rest) = change (name, other)) :
    (typeName? (line ++ [blank])).map change = (typeName? line).map change := by
  have hName (name : List Char) : IgnoresPadding fun rest => (some ∘ change) (name, rest) :=
    fun _ _ _ => congrArg some (hChange name _ _)
  rw [Option.map_eq_bind, Option.map_eq_bind]
  exact typeName?_ignores hName line blank hBlank

theorem bodyTypeName?_ignores {keyword : String} (hKeyword : HoldsNoPadding keyword.toList)
    (hEmpty : after? keyword.toList [] = none) : IgnoresPadding (bodyTypeName? keyword) := by
  refine typeName?_ignores fun name => ?_
  have hName : IgnoresPadding fun _ : List Char => some name := fun _ _ _ => rfl
  exact (hName.opensBlock? keyword hKeyword hEmpty).skipBrackets

/-- The part before a character, if the character occurs. -/
theorem partBefore_ignores {stop : Char} (hStop : ¬IsPadding stop) {α : Type}
    (make : List Char → α) : IgnoresPadding fun text : List Char =>
      if text.contains stop then some (make (text.takeWhile (· ≠ stop))) else none := by
  intro text blank hBlank
  have hContains : (text ++ [blank]).contains stop = text.contains stop := by
    simp [List.contains_eq_mem, Ne.symm (hBlank.ne hStop)]
  dsimp only
  rw [hContains]
  split_ifs with hMem
  · obtain ⟨first, rest, rfl, hFirst⟩ :=
      List.eq_append_cons_of_mem (List.contains_iff_mem.mp hMem)
    have hBefore : ∀ d ∈ first, decide (d ≠ stop) = true := by
      intro d hd
      simpa using fun hEq : d = stop => hFirst (hEq ▸ hd)
    rw [List.append_assoc, List.takeWhile_append_of_pos hBefore,
      List.takeWhile_append_of_pos hBefore]
    simp
  · rfl

/-- A path in quotes ends before the padding, which is never a part of it. -/
theorem quoted?_ignores : IgnoresPadding quoted? := by
  intro text blank hBlank
  cases text with
  | nil => rfl
  | cons c text => exact partBefore_ignores (by decide) (c :: ·) text blank hBlank

theorem importPath?_ignores : IgnoresPadding importPath? := by
  refine .keyword? "import" (by decide) rfl fun rest blank hBlank => ?_
  have hPath : IgnoresPadding fun rest => (blanks? rest).bind fun rest =>
      (after? ['"'] rest).bind quoted? :=
    (quoted?_ignores.after? ['"'] (by decide)).blanks? rfl
  have hPart : (isWord blank || blank == '.') = false := by
    rw [hBlank.isWord, Bool.false_or, beq_eq_false_iff_ne]
    exact hBlank.ne (by decide)
  have hTake := @takeWhile_concat blank (fun c => isWord c || c == '.') hPart rest
  have hDrop := @dropWhile_concat blank (fun c => isWord c || c == '.') hPart rest
  -- a quote comes first, or else an alias
  by_cases hQuote : ∃ tail, rest = '"' :: tail
  · obtain ⟨tail, rfl⟩ := hQuote
    exact quoted?_ignores tail blank hBlank
  · have hAlias : ∀ tail, rest ++ [blank] ≠ '"' :: tail :=
      ne_cons_concat (not_exists.mp hQuote) (hBlank.ne (by decide))
    split
    · rename_i tail hFirst
      exact absurd hFirst (hAlias tail)
    · split
      · exact absurd ⟨_, rfl⟩ hQuote
      · dsimp only
        rw [hTake, hDrop]
        split
        · rfl
        · exact hPath _ blank hBlank

/-- A test of what stands behind characters, if they come first. -/
theorem after?_any_ignores {chars : List Char} (hChars : HoldsNoPadding chars)
    {test : List Char → Bool} (hTest : IgnoresPadding test) :
    IgnoresPadding fun text => (after? chars text).any test := by
  intro text blank hBlank
  dsimp only
  rw [after?_concat hBlank hChars, Option.any_map]
  cases after? chars text with
  | none => rfl
  | some rest => exact hTest rest blank hBlank

theorem opensParenthesis_ignores :
    IgnoresPadding fun text => (after? ['('] (skipBlanks text)).isSome := by
  have hOpens : IgnoresPadding fun text => (after? ['('] text).isSome := by
    intro text blank hBlank
    dsimp only
    rw [after?_concat hBlank (by decide), Option.isSome_map]
  exact hOpens.skipBlanks

theorem opensImports_ignores : IgnoresPadding opensImports := by
  intro line blank hBlank
  rw [opensImports, opensImports, Option.isSome_bind, Option.isSome_bind]
  exact after?_any_ignores (by decide) opensParenthesis_ignores line blank hBlank

/-- An import is known by its keyword, with no word character behind it. -/
theorem startsImport_eq (line : List Char) :
    startsImport line = (after? "import".toList (skipBlanks line)).any fun rest =>
      !rest.head?.any isWord := by
  rw [startsImport]
  cases after? "import".toList (skipBlanks line) with
  | none => rfl
  | some rest => cases rest <;> rfl

/-- An import is known with padding at the end of its line, even directly behind the keyword. -/
theorem startsImport_ignores : IgnoresPadding startsImport := by
  have hHead := (head?_any_ignores fun _ hBlank => hBlank.isWord).map Bool.not
  intro line blank hBlank
  rw [startsImport_eq, startsImport_eq]
  exact (after?_any_ignores (by decide) hHead).skipBlanks line blank hBlank

/-- The text behind the keyword of a value keeps the padding. -/
theorem valueKeyword?_concat {blank : Char} (hBlank : IsPadding blank) (line : List Char) :
    valueKeyword? (line ++ [blank]) = (valueKeyword? line).map (· ++ [blank]) := by
  rw [valueKeyword?, valueKeyword?]
  rcases skipBlanks_concat hBlank line with ⟨hEmpty, hPadded⟩ | ⟨hFilled, hPadded⟩
  · rw [hEmpty, hPadded]
    rfl
  · rw [hPadded, after?_concat hBlank (by decide), after?_concat hBlank (by decide),
      Option.map_or]

theorem opensValues_ignores : IgnoresPadding opensValues := by
  intro line blank hBlank
  rw [opensValues, opensValues, Option.isSome_bind, Option.isSome_bind,
    valueKeyword?_concat hBlank, Option.any_map]
  cases valueKeyword? line with
  | none => rfl
  | some rest => exact opensParenthesis_ignores rest blank hBlank

theorem valueText?_concat {blank : Char} (hBlank : IsPadding blank) (line : List Char) :
    valueText? (line ++ [blank]) = (valueText? line).map (· ++ [blank]) := by
  have hText {text : List Char} : ((skipBlanks (text ++ [blank])).head?.bind fun c =>
        if isWord c then some (skipBlanks (text ++ [blank])) else none) =
      ((skipBlanks text).head?.bind fun c =>
        if isWord c then some (skipBlanks text) else none).map (· ++ [blank]) := by
    rcases skipBlanks_concat hBlank text with ⟨hEmpty, hPadded⟩ | ⟨hFilled, hPadded⟩
    · rw [hEmpty, hPadded]
      rfl
    · rw [hPadded]
      cases skipBlanks text with
      | nil => simp [hBlank.isWord]
      | cons c rest =>
        simp only [List.cons_append, List.head?_cons, Option.bind_some]
        split_ifs <;> rfl
  rw [valueText?, valueText?, valueKeyword?_concat hBlank]
  cases valueKeyword? line with
  | none => rfl
  | some rest =>
    cases rest with
    | nil =>
      change ((blanks? [blank]).bind fun rest => rest.head?.bind fun c =>
        if isWord c then some rest else none) = none
      rw [blanks?_blank hBlank]
      rfl
    | cons c rest =>
      by_cases hc : isBlank c = true
      · simpa [blanks?, hc] using hText
      · simp [blanks?, hc]

/-- An assignment is known with padding at the end of what follows its targets. -/
theorem startsAssignment_ignores : IgnoresPadding startsAssignment := by
  have hOperators : ∀ operator ∈ assignmentOperators, HoldsNoPadding operator := by decide
  have hHead : IgnoresPadding fun rest : List Char => rest.head? != some '=' := by
    intro rest blank hBlank
    cases rest with
    | nil => rcases hBlank with rfl | rfl <;> rfl
    | cons c rest => rfl
  intro text blank hBlank
  have hEach (operator : List Char) (hOperator : operator ∈ assignmentOperators) :=
    after?_any_ignores (hOperators operator hOperator) hHead text blank hBlank
  have hStarts (text : List Char) : startsAssignment text = assignmentOperators.any fun operator =>
      (after? operator text).any fun rest => rest.head? != some '=' := by
    rw [startsAssignment]
    congr 1
    funext operator
    cases after? operator text <;> rfl
  rw [hStarts, hStarts, Bool.eq_iff_iff, List.any_eq_true, List.any_eq_true]
  refine exists_congr fun operator => and_congr_right fun hOperator => ?_
  exact iff_of_eq (congrArg (· = true) (hEach operator hOperator))

/-- To trim the end of a text takes padding away. -/
theorem trimEnd_concat {blank : Char} (hBlank : IsPadding blank) (text : List Char) :
    trimEnd isBlank (text ++ [blank]) = trimEnd isBlank text := by
  rw [trimEnd, trimEnd, List.reverse_append, List.reverse_singleton, List.singleton_append,
    List.dropWhile_cons_of_pos hBlank.isBlank]

/-- Padding may stand among the targets of an assignment. -/
theorem isTargetPart_of_isPadding {c : Char} (hc : IsPadding c) : isTargetPart c = true := by
  rw [isTargetPart, hc.isBlank, Bool.or_true]

/-- The targets of an assignment stand before its operator, so padding at the end of the line is
none of them. -/
theorem assignmentTargets?_ignores : IgnoresPadding assignmentTargets? := by
  have hTargets : IgnoresPadding fun line =>
      trimEnd isBlank ((line : List Char).takeWhile isTargetPart) := by
    intro line blank hBlank
    dsimp only
    rw [List.takeWhile_append]
    split_ifs with hAll
    · rw [List.takeWhile_cons_of_pos (isTargetPart_of_isPadding hBlank), List.takeWhile_nil,
        trimEnd_concat hBlank, List.IsPrefix.eq_of_length (List.takeWhile_prefix _) hAll]
    · rfl
  have hStarts : IgnoresPadding fun line => startsAssignment (line.dropWhile isTargetPart) :=
    startsAssignment_ignores.dropWhile fun _ => isTargetPart_of_isPadding
  have hBoth : IgnoresPadding fun line : List Char =>
      (trimEnd isBlank (line.takeWhile isTargetPart)).getLast?.bind fun last =>
        if last ≠ ',' ∧ startsAssignment (line.dropWhile isTargetPart) then
          some (trimEnd isBlank (line.takeWhile isTargetPart)) else none := by
    intro line blank hBlank
    have hLeft := hTargets line blank hBlank
    have hRight := hStarts line blank hBlank
    dsimp only at hLeft hRight ⊢
    rw [hLeft, hRight]
  exact hBoth.skipBlanks

/-- The shape of a line with one more blank at its end. -/
def LineShape.withBlank (blank : Char) : LineShape → LineShape
  | .values text => .values (text ++ [blank])
  | shape => shape

/-- A line with padding has the shape of the line without it. Padding only goes to the text of a
value. -/
theorem ofLine_concat {blank : Char} (hBlank : IsPadding blank) (line : List Char) :
    LineShape.ofLine (line ++ [blank]) = (LineShape.ofLine line).withBlank blank := by
  have hShape (found : Option LineShape) : (found.getD .other).withBlank blank =
      (found.map (LineShape.withBlank blank)).getD .other := by
    cases found <;> rfl
  have hIf (isShape : Bool) {shape : LineShape} (hSame : shape.withBlank blank = shape) :
      (if isShape then some shape else none).map (LineShape.withBlank blank) =
        if isShape then some shape else none := by
    cases isShape with
    | false => rfl
    | true => exact congrArg some hSame
  rw [LineShape.ofLine, functionName?_ignores line blank hBlank,
    methodName?_ignores line blank hBlank, packageName?_ignores line blank hBlank,
    bodyTypeName?_ignores (by decide) rfl line blank hBlank,
    bodyTypeName?_ignores (by decide) rfl line blank hBlank, map_typeName?_concat hBlank line,
    importPath?_ignores line blank hBlank, opensImports_ignores line blank hBlank,
    opensValues_ignores line blank hBlank, valueText?_concat hBlank,
    assignmentTargets?_ignores line blank hBlank, LineShape.ofLine, hShape]
  · simp only [Option.map_or, Option.map_map]
    rw [hIf _ rfl, hIf _ rfl]
    rfl
  · exact fun _ _ _ => rfl

/-! Lines in their modes -/

/-- A line closes a group if there is the closing character on it and nothing else but blanks. -/
theorem isClosing_eq (closing : Char) (line : List Char) :
    isClosing closing line =
      ((skipBlanks line).head?.any (· == closing) && (skipBlanks line).tail.all isBlank) := by
  rw [isClosing]
  cases skipBlanks line <;> rfl

theorem isClosing_ignores {closing : Char} (hClosing : ¬IsPadding closing) :
    IgnoresPadding (isClosing closing) := by
  have hRest : IgnoresPadding fun text : List Char =>
      text.head?.any (· == closing) && text.tail.all isBlank := by
    intro text blank hBlank
    cases text with
    | nil => simp [hBlank.ne hClosing]
    | cons c rest => simp [hBlank.isBlank]
  intro line blank hBlank
  rw [isClosing_eq, isClosing_eq]
  exact hRest.skipBlanks line blank hBlank

theorem closesFunction_ignores : IgnoresPadding closesFunction := by
  intro line blank hBlank
  cases line with
  | nil => rcases hBlank with rfl | rfl <;> rfl
  | cons c line => rfl

theorem nestedStruct?_ignores : IgnoresPadding nestedStruct? := by
  have hRest (name : List Char) : IgnoresPadding fun rest : List Char =>
      if rest.all isBlank then some name else none := by
    intro rest blank hBlank
    simp [hBlank.isBlank]
  have hName : IgnoresPadding fun line => (word? line).bind fun found =>
      (opensBlock? "struct" found.2).bind fun rest =>
        if rest.all isBlank then some found.1 else none :=
    .word? fun name => (hRest name).opensBlock? "struct" (by decide) rfl
  exact hName.skipBlanks

/-- The names of fields stand before their type, so padding at the end of the line is none of them.
-/
theorem fieldNames?_ignores : IgnoresPadding fieldNames? := by
  intro line blank hBlank
  induction line with
  | nil => rfl
  | cons c line ih =>
    cases line with
    | nil => rfl
    | cons d rest =>
      have hStep (rest : List Char) : fieldNames? (c :: d :: rest) =
          ((fieldNames? (d :: rest)).map (c :: ·)).or
            (if isBlank d && rest.head?.any isWord then some [c] else none) := by
        rw [fieldNames?.eq_def]
        dsimp only
        cases rest with
        | nil => simp [fieldNames?]
        | cons e rest =>
          cases fieldNames? (d :: e :: rest) <;> rfl
      have hHead : (rest ++ [blank]).head?.any isWord = rest.head?.any isWord :=
        head?_any_ignores (fun _ hc => hc.isWord) rest blank hBlank
      rw [List.cons_append] at ih
      rw [List.cons_append, List.cons_append, hStep, hStep, ih, hHead]

theorem interfaceMethod?_ignores : IgnoresPadding interfaceMethod? := by
  have hOpen (name : List Char) : IgnoresPadding fun rest =>
      (after? ['('] (skipBlanks rest)).bind fun _ => some name :=
    (IgnoresPadding.after? ['('] (by decide) fun _ _ _ => rfl).skipBlanks
  have hName : IgnoresPadding fun line => (word? line).bind fun found =>
      (after? ['('] (skipBlanks found.2)).bind fun _ => some found.1 :=
    .word? hOpen
  exact hName.skipBlanks

/-- The names in a group of values stand before the value or the type. -/
theorem namesBeforeValue?_ignores : IgnoresPadding namesBeforeValue? := by
  intro line blank hBlank
  cases line with
  | nil => rfl
  | cons c line =>
    exact partBefore_ignores (by decide) (c :: trimEnd isBlank ·) line blank hBlank

/-- The path of an import in a group stands in the first quotes of the line. -/
theorem groupedImport?_eq (line : List Char) :
    groupedImport? line = quoted? (line.dropWhile (· ≠ '"')).tail := by
  rw [groupedImport?]
  cases line.dropWhile (· ≠ '"') <;> rfl

theorem groupedImport?_ignores : IgnoresPadding groupedImport? := by
  have hQuoted : IgnoresPadding fun text : List Char => quoted? text.tail := by
    intro text blank hBlank
    cases text with
    | nil => rfl
    | cons c rest => exact quoted?_ignores rest blank hBlank
  have hGo (c : Char) (hc : IsPadding c) : decide (c ≠ '"') = true := by
    simpa using hc.ne (by decide)
  intro line blank hBlank
  rw [groupedImport?_eq, groupedImport?_eq]
  exact hQuoted.dropWhile hGo line blank hBlank

/-- Whether a name starts a text shows at the first character that is not blank. -/
theorem startsWithName_eq (text : List Char) :
    startsWithName text = (skipBlanks text).head?.any fun c => isWord c && !isDecimal c := by
  rw [startsWithName]
  cases skipBlanks text <;> rfl

theorem startsWithName_ignores : IgnoresPadding startsWithName := by
  have hFirst : IgnoresPadding fun text : List Char =>
      text.head?.any fun c => isWord c && !isDecimal c :=
    head?_any_ignores fun c hc => by rw [hc.isWord, Bool.false_and]
  intro text blank hBlank
  rw [startsWithName_eq, startsWithName_eq]
  exact hFirst.skipBlanks text blank hBlank

/-- Calls end with a parenthesis, so padding is in none of them. The induction is on the text, with
the run of characters before it generalised. -/
theorem calledFrom_ignores (run : List Char) : IgnoresPadding (calledFrom run) := by
  intro line blank hBlank
  induction line generalizing run with
  | nil =>
    have hPart : isCallPart blank = false := by
      rw [isCallPart, hBlank.isWord, Bool.false_or, beq_eq_false_iff_ne]
      exact hBlank.ne (by decide)
    simp [calledFrom, hPart, hBlank.ne (show ¬IsPadding '(' by decide)]
  | cons c rest ih => rw [List.cons_append, calledFrom, calledFrom, ih, ih]

/-- Padding ends the last word or follows its end. -/
theorem wordsFrom_ignores (run : List Char) : IgnoresPadding (wordsFrom run) := by
  intro text blank hBlank
  induction text generalizing run with
  | nil => cases run <;> simp [wordsFrom, hBlank.isBlank]
  | cons c rest ih =>
    rw [List.cons_append, wordsFrom, wordsFrom, ih, ih]

/-- The braces of a line are counted with or without padding. -/
theorem leavesOpen_ignores : IgnoresPadding leavesOpen := by
  intro line blank hBlank
  have hCount {c : Char} (hc : ¬IsPadding c) : (line ++ [blank]).count c = line.count c := by
    rw [List.count_append, List.count_singleton, if_neg (by simpa using hBlank.ne hc),
      Nat.add_zero]
  rw [leavesOpen, leavesOpen, hCount (by decide), hCount (by decide)]

section Scanner

variable (state : ScanState) (scope : List String) (lineNo : Int)

/-- The calls on a line are those without padding. -/
theorem callFacts_ignores : IgnoresPadding (callFacts scope lineNo) :=
  (calledFrom_ignores []).map (List.filterMap (callFact? scope lineNo))

/-- The names that a value text defines are those without padding. -/
theorem definitionFacts_ignores : IgnoresPadding (definitionFacts scope lineNo) := by
  intro text blank hBlank
  have hWords : wordsOf (text ++ [blank]) = wordsOf text := wordsFrom_ignores [] text blank hBlank
  rw [definitionFacts, definitionFacts, hWords, startsWithName_ignores text blank hBlank]

/-- The head of a function does the same with or without padding. -/
theorem enterFunction_ignores : IgnoresPadding (enterFunction state lineNo) := by
  intro line blank hBlank
  have hGo : decide (blank ≠ '\x7b') = true := by simpa using hBlank.ne (by decide)
  rw [enterFunction, enterFunction, leavesOpen_ignores line blank hBlank]
  rcases @dropWhile_concat_of_pos blank (· ≠ '\x7b') hGo line with
    ⟨hEmpty, hPadded⟩ | ⟨hFilled, hPadded⟩
  · rw [hEmpty, hPadded]
  · rw [hPadded]
    obtain ⟨brace, body, hBody⟩ := List.exists_cons_of_ne_nil hFilled
    rw [hBody, List.cons_append]
    dsimp only
    rw [callFacts_ignores state.scope lineNo body blank hBlank]

/-- A line outside groups does the same with or without padding, one case for each shape of a line.
-/
theorem scanPlain_ignores : IgnoresPadding (scanPlain state lineNo) := by
  intro line blank hBlank
  have hCalls := callFacts_ignores state.scope lineNo line blank hBlank
  have hEnter := enterFunction_ignores state lineNo line blank hBlank
  have hOpen := leavesOpen_ignores line blank hBlank
  rw [scanPlain, scanPlain, ofLine_concat hBlank]
  cases LineShape.ofLine line with
  | function name | method receiver name =>
    simp only [LineShape.withBlank, hEnter]
  | structType name | interfaceType name =>
    simp only [LineShape.withBlank, enterType, hOpen]
  | values text =>
    simp only [LineShape.withBlank, hCalls,
      definitionFacts_ignores state.scope lineNo text blank hBlank]
  | assignment targets | other =>
    simp only [LineShape.withBlank, hCalls]
  | package | namedType | importPath | importGroup | valueGroup => rfl

/-- A line of code does the same in every state of the scan with or without padding. -/
theorem scanCode_ignores : IgnoresPadding (scanCode state lineNo) := by
  intro line blank hBlank
  have hPlain := scanPlain_ignores state lineNo line blank hBlank
  have hBrace := isClosing_ignores (show ¬IsPadding '\x7d' by decide) line blank hBlank
  have hParenthesis := isClosing_ignores (show ¬IsPadding ')' by decide) line blank hBlank
  rw [scanCode, scanCode]
  cases state.mode? with
  | none => exact hPlain
  | some mode =>
    cases mode with
    | comment => exact hPlain
    | importGroup =>
      simp only [scanImports, hParenthesis, groupedImport?_ignores line blank hBlank]
    | structBody =>
      simp only [scanStruct, hBrace, nestedStruct?_ignores line blank hBlank,
        fieldNames?_ignores line blank hBlank]
    | interfaceBody =>
      simp only [scanInterface, hBrace, interfaceMethod?_ignores line blank hBlank]
    | valueGroup =>
      simp only [scanValues, hParenthesis, namesBeforeValue?_ignores line blank hBlank,
        callFacts_ignores state.scope lineNo line blank hBlank,
        definitionFacts_ignores state.scope lineNo line blank hBlank]
    | functionBody =>
      simp only [scanFunction, closesFunction_ignores line blank hBlank, hPlain]

end Scanner

end CodeIndex.Go
