import CodeIndex.Path.Wildcard
import Mathlib.Tactic.Common

/-! File name patterns that are put together from others. What two patterns describe can be joined,
and a pattern reads apart at every place that no set lies across. -/
namespace CodeIndex.Wildcard

variable {first second : List Wildcard} {text : List Char}

/-! What parts take -/

theorem takesAll_star_of (hText : takesAll first text = true) :
    takesAll (.star :: first) text = true := by
  cases text with
  | nil => rwa [takesAll]
  | cons c text => rw [takesAll, hText, Bool.true_or]

/-- A star takes any text in front of what the others take. -/
theorem takesAll_star_append (before : List Char) (hText : takesAll first text = true) :
    takesAll (.star :: first) (before ++ text) = true := by
  induction before with
  | nil => exact takesAll_star_of hText
  | cons c before ih => rw [List.cons_append, takesAll, ih, Bool.or_true]

/-- A star takes some part of the text, and the parts after it take the rest. -/
theorem exists_of_takesAll_star (hText : takesAll (.star :: first) text = true) :
    ∃ before after, text = before ++ after ∧ takesAll first after = true := by
  induction text with
  | nil => exact ⟨[], [], rfl, by rwa [takesAll] at hText⟩
  | cons c text ih =>
    rw [takesAll, Bool.or_eq_true] at hText
    rcases hText with hNone | hMore
    · exact ⟨[], c :: text, rfl, hNone⟩
    · obtain ⟨before, after, rfl, hAfter⟩ := ih hMore
      exact ⟨c :: before, after, rfl, hAfter⟩

/-- A part other than a star takes one character. -/
theorem takesAll_cons_iff {part : Wildcard} (hPart : part ≠ .star) :
    takesAll (part :: first) text = true ↔
      ∃ c rest, text = c :: rest ∧ part.accepts c = true ∧ takesAll first rest = true := by
  cases text with
  | nil => cases part <;> simp_all [takesAll]
  | cons c rest => cases part <;> simp_all [takesAll, and_comm]

/-- Parts one after the other take a text exactly if it can be cut so that each side takes its
piece. -/
theorem takesAll_append_iff :
    takesAll (first ++ second) text = true ↔
      ∃ before after, text = before ++ after ∧ takesAll first before = true ∧
        takesAll second after = true := by
  induction first generalizing text with
  | nil =>
    constructor
    · intro hText
      exact ⟨[], text, rfl, by simp [takesAll], hText⟩
    · rintro ⟨before, after, rfl, hBefore, hAfter⟩
      rw [takesAll, List.isEmpty_iff] at hBefore
      rwa [hBefore]
  | cons part first ih =>
    by_cases hPart : part = .star
    · subst hPart
      constructor
      · intro hText
        obtain ⟨skipped, rest, rfl, hRest⟩ := exists_of_takesAll_star hText
        obtain ⟨before, after, rfl, hBefore, hAfter⟩ := ih.mp hRest
        exact ⟨skipped ++ before, after, (List.append_assoc ..).symm,
          takesAll_star_append skipped hBefore, hAfter⟩
      · rintro ⟨before, after, rfl, hBefore, hAfter⟩
        obtain ⟨skipped, rest, rfl, hRest⟩ := exists_of_takesAll_star hBefore
        rw [List.append_assoc]
        exact takesAll_star_append skipped (ih.mpr ⟨rest, after, rfl, hRest, hAfter⟩)
    · rw [List.cons_append, takesAll_cons_iff hPart]
      constructor
      · rintro ⟨c, rest, rfl, hAccepts, hRest⟩
        obtain ⟨before, after, rfl, hBefore, hAfter⟩ := ih.mp hRest
        exact ⟨c :: before, after, rfl,
          (takesAll_cons_iff hPart).mpr ⟨c, before, rfl, hAccepts, hBefore⟩, hAfter⟩
      · rintro ⟨before, after, rfl, hBefore, hAfter⟩
        obtain ⟨c, rest, rfl, hAccepts, hRest⟩ := (takesAll_cons_iff hPart).mp hBefore
        exact ⟨c, rest ++ after, rfl, hAccepts, ih.mpr ⟨rest, after, rfl, hRest, hAfter⟩⟩

@[simp]
theorem takesAll_star (text : List Char) : takesAll [.star] text = true := by
  induction text with
  | nil => simp [takesAll]
  | cons c text ih => rw [takesAll, ih, Bool.or_true]

/-- Behind a star at the end there may be more text. -/
theorem takesAll_concat_star_append (hText : takesAll (first ++ [.star]) text = true)
    (more : List Char) : takesAll (first ++ [.star]) (text ++ more) = true := by
  obtain ⟨before, after, rfl, hBefore, -⟩ := takesAll_append_iff.mp hText
  exact takesAll_append_iff.mpr
    ⟨before, after ++ more, List.append_assoc .., hBefore, takesAll_star _⟩

/-! How patterns are read -/

/-- The closing bracket at the start of a text, if there is one. -/
def leadingBracket (text : List Char) : List Char := if text.head? = some ']' then [']'] else []

/-- What is in the content of a set in any case: an exclamation mark at its start, and a closing
bracket directly there. -/
def contentStart : List Char → List Char
  | '!' :: rest => '!' :: leadingBracket rest
  | rest => leadingBracket rest

/-- A set with the given start is read up to the first closing bracket. -/
theorem closed_iff (start rest : List Char) {content : List Char} :
    (if start.length + (rest.takeWhile (· ≠ ']')).length < (start ++ rest).length
      then some ((start ++ rest).take (start.length + (rest.takeWhile (· ≠ ']')).length))
      else none) = some content ↔
      ∃ body after, ']' ∉ body ∧ start ++ rest = start ++ (body ++ ']' :: after) ∧
        content = start ++ body := by
  have hSplit : rest.takeWhile (· ≠ ']') ++ rest.dropWhile (· ≠ ']') = rest :=
    List.takeWhile_append_dropWhile
  have hBody : ']' ∉ rest.takeWhile (· ≠ ']') := by
    intro hMem
    simpa using List.all_eq_true.mp List.all_takeWhile _ hMem
  constructor
  · intro hContent
    split_ifs at hContent with hLength
    cases hRest : rest.dropWhile (· ≠ ']') with
    | nil =>
      rw [hRest, List.append_nil] at hSplit
      rw [hSplit, List.length_append] at hLength
      exact absurd hLength (Nat.lt_irrefl _)
    | cons c after =>
      have hClosing : c = ']' := by
        have hHead := List.head?_dropWhile_not (· ≠ ']') rest
        rw [hRest] at hHead
        simpa using hHead
      subst hClosing
      refine ⟨rest.takeWhile (· ≠ ']'), after, hBody, by rw [← hRest, hSplit], ?_⟩
      rw [← Option.some.inj hContent, List.take_length_add_append]
      congr 1
      nth_rewrite 2 [← hSplit]
      exact List.take_left
  · rintro ⟨body, after, hNot, hRest, rfl⟩
    obtain rfl := List.append_cancel_left hRest
    have hTake : (body ++ ']' :: after).takeWhile (· ≠ ']') = body := by
      rw [List.takeWhile_append_of_pos]
      · simp
      · intro c hMem
        simpa using ne_of_mem_of_not_mem hMem hNot
    rw [hTake, if_pos (by simp), List.take_length_add_append, List.take_left]

/-- The content of a set ends at the first closing bracket that is not its first character. -/
theorem content?_eq_some_iff {rest content : List Char} :
    content? rest = some content ↔ ∃ body after, ']' ∉ body ∧
      rest = contentStart rest ++ (body ++ ']' :: after) ∧ content = contentStart rest ++ body := by
  fun_cases contentStart rest with
  | case1 rest =>
    rw [leadingBracket]
    split_ifs with hBracket
    · obtain ⟨rest, rfl⟩ := List.head?_eq_some_iff.mp hBracket
      exact closed_iff ['!', ']'] rest
    · rw [content?.eq_2 rest fun tail hTail => hBracket (by rw [hTail]; rfl)]
      exact closed_iff ['!'] rest
  | case2 rest hMark =>
    rw [leadingBracket]
    split_ifs with hBracket
    · obtain ⟨rest, rfl⟩ := List.head?_eq_some_iff.mp hBracket
      exact closed_iff [']'] rest
    · rw [content?.eq_4 rest (fun tail => hMark _) hMark
        fun tail hTail => hBracket (by rw [hTail]; rfl)]
      exact closed_iff [] rest

theorem leadingBracket_append {start body after : List Char} (other : List Char)
    (hStart : leadingBracket (start ++ (body ++ ']' :: after)) = start) :
    leadingBracket (start ++ (body ++ ']' :: other)) = start := by
  cases start with
  | nil => cases body <;> simp_all [leadingBracket]
  | cons c start => simp_all [leadingBracket]

theorem contentStart_of_head? {text : List Char} (hMark : text.head? ≠ some '!') :
    contentStart text = leadingBracket text := by
  rw [contentStart]
  rintro rest rfl
  exact hMark rfl

/-- What is in the content in any case shows before the set is closed. -/
theorem contentStart_append {start body after : List Char} (other : List Char)
    (hStart : contentStart (start ++ (body ++ ']' :: after)) = start) :
    contentStart (start ++ (body ++ ']' :: other)) = start := by
  have hHead : (start ++ (body ++ ']' :: other)).head? =
      (start ++ (body ++ ']' :: after)).head? := by
    cases start <;> cases body <;> rfl
  by_cases hMark : (start ++ (body ++ ']' :: after)).head? = some '!'
  · obtain ⟨rest, hRest⟩ := List.head?_eq_some_iff.mp hMark
    cases start with
    | nil =>
      rw [hRest, contentStart] at hStart
      cases hStart
    | cons c start =>
      obtain ⟨rfl, -⟩ := List.cons.inj hRest
      rw [List.cons_append, contentStart, List.cons_inj_right] at hStart
      rw [List.cons_append, contentStart, leadingBracket_append other hStart]
  · rw [contentStart_of_head? hMark] at hStart
    rw [contentStart_of_head? (hHead ▸ hMark), leadingBracket_append other hStart]

theorem exists_of_content? {text content : List Char} (hContent : content? text = some content) :
    ∃ after, text = content ++ ']' :: after := by
  obtain ⟨body, after, -, hText, rfl⟩ := content?_eq_some_iff.mp hContent
  exact ⟨after, by rwa [List.append_assoc]⟩

/-- What follows a closed set does not matter for its content. -/
theorem content?_closed {content after : List Char} (other : List Char)
    (hContent : content? (content ++ ']' :: after) = some content) :
    content? (content ++ ']' :: other) = some content := by
  obtain ⟨body, rest, hBody, hText, hStart⟩ := content?_eq_some_iff.mp hContent
  generalize hSame : contentStart (content ++ ']' :: after) = start at hText hStart
  subst hStart
  rw [List.append_assoc] at hSame
  refine content?_eq_some_iff.mpr ⟨body, other, hBody, ?_⟩
  rw [List.append_assoc, contentStart_append other hSame]
  exact ⟨rfl, rfl⟩

/-- A set is read in the same way in a longer text, unless it lies across the end of the shorter
one. -/
theorem content?_append {text more : List Char}
    (hApart : ∀ tail, tail ++ [']'] <+: more → content? (text ++ more) ≠ some (text ++ tail)) :
    content? (text ++ more) = content? text := by
  ext content
  constructor
  · intro hContent
    obtain ⟨after, hText⟩ := exists_of_content? hContent
    rcases List.append_eq_append_iff.mp hText with ⟨tail, rfl, hMore⟩ | ⟨tail, rfl, hMore⟩
    · exact absurd hContent (hApart tail ⟨after, by simp [hMore]⟩)
    · cases tail with
      | nil =>
        rw [List.append_nil] at hContent
        exact absurd (by simpa using hContent) (hApart [] ⟨after, by simpa using hMore⟩)
      | cons c tail =>
        obtain ⟨rfl, rfl⟩ := List.cons.inj hMore
        rw [List.append_assoc] at hContent
        exact content?_closed tail hContent
  · intro hContent
    obtain ⟨after, rfl⟩ := exists_of_content? hContent
    rw [List.append_assoc]
    exact content?_closed (after ++ more) hContent

/-- The contents of the sets in a pattern after `skip` characters that are passed over. -/
def setsAfter : (skip : Nat) → List Char → List (List Char)
  | _, [] => []
  | skip + 1, _ :: rest => setsAfter skip rest
  | 0, '[' :: rest =>
    match content? rest with
    | some content => content :: setsAfter (content.length + 1) rest
    | none => setsAfter 0 rest
  | 0, _ :: rest => setsAfter 0 rest

/-- The contents of the sets in a pattern. -/
def sets (pattern : List Char) : List (List Char) := setsAfter 0 pattern

theorem setsAfter_cons {c : Char} (rest : List Char) (hBracket : c ≠ '[') :
    setsAfter 0 (c :: rest) = setsAfter 0 rest := by
  rw [setsAfter]
  rintro rfl
  exact hBracket rfl

/-- A character other than an opening bracket is read by itself. -/
theorem exists_partsAfter_cons {c : Char} (hBracket : c ≠ '[') :
    ∃ part, ∀ rest, partsAfter 0 (c :: rest) = part :: partsAfter 0 rest := by
  by_cases hStar : c = '*'
  · exact ⟨.star, fun rest => by rw [hStar, partsAfter]⟩
  by_cases hQuestion : c = '?'
  · exact ⟨.question, fun rest => by rw [hQuestion, partsAfter]⟩
  · exact ⟨.char c, fun rest => by rw [partsAfter] <;> assumption⟩

/-- A pattern reads apart at a place that no set lies across: none ends with a piece from there up
to a closing bracket. -/
theorem readAfter_append {text more : List Char} {skip : Nat} (hSkip : skip ≤ text.length)
    (hApart : ∀ content ∈ setsAfter skip (text ++ more), ∀ tail, tail ++ [']'] <+: more →
      ¬tail <:+ content) :
    partsAfter skip (text ++ more) = partsAfter skip text ++ parts more ∧
      setsAfter skip (text ++ more) = setsAfter skip text ++ sets more := by
  induction text generalizing skip with
  | nil =>
    obtain rfl : skip = 0 := by simpa using hSkip
    exact ⟨rfl, rfl⟩
  | cons c text ih =>
    cases skip with
    | succ skip =>
      simp only [List.cons_append, partsAfter, setsAfter] at hApart ⊢
      exact ih (Nat.le_of_succ_le_succ hSkip) hApart
    | zero =>
      by_cases hBracket : c = '['
      · subst hBracket
        rw [List.cons_append, setsAfter] at hApart
        have hSame : content? (text ++ more) = content? text := by
          apply content?_append
          intro tail hTail hContent
          rw [hContent] at hApart
          exact hApart _ List.mem_cons_self tail hTail (List.suffix_append _ _)
        simp only [List.cons_append, partsAfter, setsAfter, hSame] at hApart ⊢
        cases hContent : content? text with
        | none =>
          simp only [hContent] at hApart
          obtain ⟨hParts, hSets⟩ := ih (Nat.zero_le _) hApart
          exact ⟨by rw [hParts]; rfl, hSets⟩
        | some content =>
          simp only [hContent] at hApart
          obtain ⟨after, rfl⟩ := exists_of_content? hContent
          obtain ⟨hParts, hSets⟩ := @ih (content.length + 1) (by simp)
            fun other hOther => hApart other (List.mem_cons_of_mem _ hOther)
          simp only [hParts, hSets, List.cons_append, and_self]
      · obtain ⟨part, hPart⟩ := exists_partsAfter_cons hBracket
        rw [List.cons_append, setsAfter_cons _ hBracket] at hApart ⊢
        obtain ⟨hParts, hSets⟩ := ih (Nat.zero_le _) hApart
        rw [hPart, hPart, setsAfter_cons _ hBracket, hParts, hSets]
        exact ⟨rfl, rfl⟩

/-- Nothing is read across the place before a text without closing brackets. -/
theorem parts_append_of_not_mem (pattern : List Char) {more : List Char} (hMore : ']' ∉ more) :
    parts (pattern ++ more) = parts pattern ++ parts more := by
  refine (readAfter_append (Nat.zero_le _) fun content _ tail hTail _ => hMore ?_).1
  exact hTail.subset (by simp)

/-- Nothing is read across a slash if no set holds one. -/
theorem read_slash {before after : List Char}
    (hSets : ∀ content ∈ sets (before ++ '/' :: after), '/' ∉ content) :
    parts (before ++ '/' :: after) = parts before ++ .char '/' :: parts after ∧
      sets (before ++ '/' :: after) = sets before ++ sets after := by
  refine @readAfter_append before ('/' :: after) 0 (Nat.zero_le _) ?_
  intro content hContent tail hTail hSuffix
  cases tail with
  | nil => simp at hTail
  | cons c tail =>
    obtain ⟨rfl, -⟩ := List.cons_prefix_cons.mp hTail
    exact hSets content hContent (hSuffix.subset List.mem_cons_self)

/-! Texts without wildcards -/

/-- A text without wildcards is read as it stands. -/
theorem parts_of_not_hasMagic {text : List Char} (hText : hasMagic text = false) :
    parts text = text.map .char := by
  induction text with
  | nil => rfl
  | cons c text ih =>
    simp only [hasMagic, List.any_cons, Bool.or_eq_false_iff, beq_eq_false_iff_ne] at hText
    obtain ⟨⟨⟨hStar, hQuestion⟩, hBracket⟩, hRest⟩ := hText
    have hCons : parts (c :: text) = .char c :: parts text := by
      rw [parts, partsAfter, parts] <;> assumption
    rw [hCons, ih hRest, List.map_cons]

/-- Plain characters take themselves only. -/
theorem takesAll_char_iff {literal : List Char} :
    takesAll (literal.map .char) text = true ↔ text = literal := by
  induction literal generalizing text with
  | nil => simp [takesAll]
  | cons c literal ih =>
    rw [List.map_cons, takesAll_cons_iff (by simp)]
    simp only [accepts, beq_iff_eq, ih]
    constructor
    · rintro ⟨_, _, rfl, rfl, rfl⟩
      rfl
    · rintro rfl
      exact ⟨c, literal, rfl, rfl, rfl⟩

/-- A text without wildcards describes itself and nothing else. -/
theorem isMatch_literal_iff {literal name : List Char} (hLiteral : hasMagic literal = false) :
    isMatch literal name = true ↔ name = literal := by
  rw [isMatch, parts_of_not_hasMagic hLiteral, takesAll_char_iff]

theorem isMatch_self {text : List Char} (hText : hasMagic text = false) :
    isMatch text text = true :=
  (isMatch_literal_iff hText).mpr rfl

/-! What patterns describe -/

theorem isMatch_stars (text : List Char) : isMatch ['*', '*'] text = true :=
  takesAll_star_of (takesAll_star text)

/-- A pattern followed by a slash and a star describes what is below all that the pattern
describes. -/
theorem isMatch_below {pattern name : List Char} (hMatch : isMatch pattern name = true)
    (rest : List Char) : isMatch (pattern ++ ['/', '*']) (name ++ '/' :: rest) = true := by
  rw [isMatch, parts_append_of_not_mem pattern (by decide)]
  refine takesAll_append_iff.mpr ⟨name, '/' :: rest, rfl, hMatch, ?_⟩
  have hParts : parts ['/', '*'] = [.char '/', .star] := by decide
  simp [hParts, takesAll, accepts]

/-- It also describes what is below something that it describes. -/
theorem isMatch_below_append {pattern name : List Char}
    (hMatch : isMatch (pattern ++ ['/', '*']) name = true) (more : List Char) :
    isMatch (pattern ++ ['/', '*']) (name ++ more) = true := by
  have hParts : parts (pattern ++ ['/', '*']) = (parts pattern ++ [.char '/']) ++ [.star] := by
    rw [parts_append_of_not_mem pattern (by decide), List.append_assoc]
    rfl
  rw [isMatch, hParts] at hMatch ⊢
  exact takesAll_concat_star_append hMatch more

end CodeIndex.Wildcard
