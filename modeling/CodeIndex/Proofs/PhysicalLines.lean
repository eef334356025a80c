import CodeIndex.SourceText
import Mathlib.Tactic.Common

/-! The physical lines of a text that is put together from lines. A line of its own can be replaced
by another one without a change to the lines around it. -/
namespace CodeIndex

theorem splitAt_ne_nil (separator : Char) (text : List Char) : splitAt separator text ≠ [] := by
  cases text with
  | nil => simp [splitAt]
  | cons c rest =>
    rw [splitAt]
    split_ifs
    · simp
    · split <;> simp

/-- A character that is no separator goes to the first piece. -/
theorem splitAt_cons_of_ne {separator c : Char} (rest : List Char) (hNe : c ≠ separator)
    {piece : List Char} {pieces : List (List Char)}
    (hRest : splitAt separator rest = piece :: pieces) :
    splitAt separator (c :: rest) = (c :: piece) :: pieces := by
  rw [splitAt, if_neg hNe, hRest]

/-- A separator parts the pieces before it from those after it. -/
theorem splitAt_append (separator : Char) (first rest : List Char) :
    splitAt separator (first ++ separator :: rest) =
      splitAt separator first ++ splitAt separator rest := by
  induction first with
  | nil => simp [splitAt]
  | cons c first ih =>
    by_cases hSeparator : c = separator
    · simp [splitAt, hSeparator, ih]
    · obtain ⟨piece, pieces, hFirst⟩ :=
        List.exists_cons_of_ne_nil (splitAt_ne_nil separator first)
      rw [hFirst, List.cons_append] at ih
      rw [List.cons_append, splitAt_cons_of_ne _ hSeparator ih,
        splitAt_cons_of_ne _ hSeparator hFirst, List.cons_append]

theorem splitAt_of_not_mem {separator : Char} {text : List Char} (hText : separator ∉ text) :
    splitAt separator text = [text] := by
  induction text with
  | nil => rfl
  | cons c rest ih =>
    rw [List.mem_cons, not_or] at hText
    exact splitAt_cons_of_ne rest (Ne.symm hText.1) (ih hText.2)

/-- Pieces that are each ended by the separator come back, with an empty one after the last end. -/
theorem splitAt_flatMap {separator : Char} {pieces : List (List Char)}
    (hPieces : ∀ piece ∈ pieces, separator ∉ piece) :
    splitAt separator (pieces.flatMap (· ++ [separator])) = pieces ++ [[]] := by
  induction pieces with
  | nil => rfl
  | cons piece pieces ih =>
    obtain ⟨hPiece, hRest⟩ := List.forall_mem_cons.mp hPieces
    rw [List.flatMap_cons, List.append_assoc, List.singleton_append, splitAt_append,
      splitAt_of_not_mem hPiece, ih hRest]
    rfl

/-- Pieces hold no separators. -/
theorem not_mem_of_mem_splitAt {separator : Char} {text piece : List Char}
    (hPiece : piece ∈ splitAt separator text) : separator ∉ piece := by
  induction text generalizing piece with
  | nil =>
    rw [List.mem_singleton.mp hPiece]
    exact List.not_mem_nil
  | cons c rest ih =>
    by_cases hSeparator : c = separator
    · rw [splitAt, if_pos hSeparator] at hPiece
      rcases List.mem_cons.mp hPiece with rfl | hRest
      · exact List.not_mem_nil
      · exact ih hRest
    · obtain ⟨first, pieces, hFirst⟩ := List.exists_cons_of_ne_nil (splitAt_ne_nil separator rest)
      rw [hFirst] at ih
      rw [splitAt_cons_of_ne rest hSeparator hFirst] at hPiece
      rcases List.mem_cons.mp hPiece with rfl | hRest
      · rw [List.mem_cons, not_or]
        exact ⟨Ne.symm hSeparator, ih List.mem_cons_self⟩
      · exact ih (List.mem_cons_of_mem _ hRest)

/-- A physical line holds no line feed. -/
theorem lineFeed_not_mem_of_mem_physicalLines {text line : List Char}
    (hLine : line ∈ physicalLines text) : '\n' ∉ line := by
  rw [physicalLines] at hLine
  split_ifs at hLine
  · exact not_mem_of_mem_splitAt (List.dropLast_subset _ hLine)
  · exact not_mem_of_mem_splitAt hLine

/-! Line ends -/

/-- A carriage return alone is a line end. -/
theorem unifyLineEnds_return {rest : List Char} (hRest : rest.head? ≠ some '\n') :
    unifyLineEnds ('\r' :: rest) = '\n' :: unifyLineEnds rest := by
  rw [unifyLineEnds]
  rintro tail rfl
  exact hRest rfl

theorem unifyLineEnds_cons {c : Char} (rest : List Char) (hReturn : c ≠ '\r') :
    unifyLineEnds (c :: rest) = c :: unifyLineEnds rest := by
  rw [unifyLineEnds]
  · rintro tail rfl
    exact absurd rfl hReturn
  · exact hReturn

/-- Two texts are unified apart, unless a line end of two characters lies across them. -/
theorem unifyLineEnds_append {first rest : List Char}
    (hApart : first.getLast? = some '\r' → rest.head? ≠ some '\n') :
    unifyLineEnds (first ++ rest) = unifyLineEnds first ++ unifyLineEnds rest := by
  have hTail {c : Char} {tail : List Char} (hTail : tail.getLast? = some '\r') :
      (c :: tail).getLast? = some '\r' := by
    rw [List.getLast?_cons, hTail, Option.getD_some]
  fun_induction unifyLineEnds first with
  | case1 => rfl
  | case2 tail ih =>
    rw [List.cons_append, List.cons_append, unifyLineEnds,
      ih fun hLast => hApart (hTail (hTail hLast)), List.cons_append]
  | case3 tail hFeed ih =>
    have hHead : (tail ++ rest).head? ≠ some '\n' := by
      cases tail with
      | nil => exact hApart rfl
      | cons d tail => exact fun hHead => hFeed tail (by rw [Option.some.inj hHead])
    rw [List.cons_append, unifyLineEnds_return hHead, ih fun hLast => hApart (hTail hLast),
      List.cons_append]
  | case4 c tail _ hReturn ih =>
    rw [List.cons_append, unifyLineEnds_cons _ hReturn, ih fun hLast => hApart (hTail hLast),
      List.cons_append]

theorem unifyLineEnds_eq_self {line : List Char} (hLine : '\r' ∉ line) :
    unifyLineEnds line = line := by
  induction line with
  | nil => rfl
  | cons c rest ih =>
    rw [List.mem_cons, not_or] at hLine
    rw [unifyLineEnds_cons rest (Ne.symm hLine.1), ih hLine.2]

/-- The texts that a line of its own may follow: nothing, or a text whose last line is ended. -/
def EndsLine (text : List Char) : Prop :=
  text = [] ∨ text.getLast? = some '\n' ∨ text.getLast? = some '\r'

/-- The texts that may follow a line: nothing, or a text that starts with a line end. -/
def StartsAfterLine (text : List Char) : Prop :=
  text = [] ∨ text.head? = some '\n' ∨ text.head? = some '\r'

/-- A text whose last line is ended has a line feed at its end when line ends are unified. -/
theorem EndsLine.unified {text : List Char} (hText : EndsLine text) :
    unifyLineEnds text = [] ∨ ∃ before, unifyLineEnds text = before ++ ['\n'] := by
  rcases hText with rfl | hLast | hLast
  · exact .inl rfl
  all_goals
    obtain ⟨before, rfl⟩ := List.getLast?_eq_some_iff.mp hLast
  · by_cases hReturn : before.getLast? = some '\r'
    · obtain ⟨front, rfl⟩ := List.getLast?_eq_some_iff.mp hReturn
      refine .inr ⟨unifyLineEnds front, ?_⟩
      rw [List.append_assoc, unifyLineEnds_append (by simp)]
      rfl
    · refine .inr ⟨unifyLineEnds before, ?_⟩
      rw [unifyLineEnds_append fun hLast => absurd hLast hReturn]
      rfl
  · refine .inr ⟨unifyLineEnds before, ?_⟩
    rw [unifyLineEnds_append (by simp)]
    rfl

/-- What follows a line starts with a line feed, or is empty. -/
theorem StartsAfterLine.unified {text : List Char} (hText : StartsAfterLine text) :
    unifyLineEnds text = [] ∨ ∃ behind, unifyLineEnds text = '\n' :: behind := by
  rcases hText with rfl | hHead | hHead
  · exact .inl rfl
  all_goals
    obtain ⟨behind, rfl⟩ := List.head?_eq_some_iff.mp hHead
  · exact .inr ⟨_, unifyLineEnds_cons behind (by decide)⟩
  · by_cases hFeed : behind.head? = some '\n'
    · obtain ⟨tail, rfl⟩ := List.head?_eq_some_iff.mp hFeed
      exact .inr ⟨_, rfl⟩
    · exact .inr ⟨_, unifyLineEnds_return hFeed⟩

/-- The lines without the empty one after the last line end. -/
def dropEmptyEnd (lines : List (List Char)) : List (List Char) :=
  if lines.getLast? = some [] then lines.dropLast else lines

/-- Only the end of the lines may be dropped. -/
theorem dropEmptyEnd_append (first : List (List Char)) {rest : List (List Char)}
    (hRest : rest ≠ []) : dropEmptyEnd (first ++ rest) = first ++ dropEmptyEnd rest := by
  have hLast : (first ++ rest).getLast? = rest.getLast? := by
    rw [List.getLast?_append, Option.or_of_isSome (by simpa using hRest)]
  rw [dropEmptyEnd, dropEmptyEnd, hLast, List.dropLast_append_of_ne_nil hRest]
  split_ifs <;> rfl

theorem physicalLines_eq (text : List Char) :
    physicalLines text = dropEmptyEnd (splitAt '\n' (unifyLineEnds text)) := rfl

/-- The lines of a text to which more is added after its last line end. -/
theorem EndsLine.dropEmptyEnd_splitAt {start : List Char} (hStart : EndsLine start)
    (text : List Char) :
    dropEmptyEnd (splitAt '\n' (unifyLineEnds start ++ text)) =
      physicalLines start ++ dropEmptyEnd (splitAt '\n' text) := by
  rw [physicalLines_eq]
  rcases hStart.unified with hEmpty | ⟨before, hBefore⟩
  · rw [hEmpty]
    rfl
  · rw [hBefore, List.append_assoc, List.cons_append, splitAt_append, splitAt_append,
      dropEmptyEnd_append _ (splitAt_ne_nil _ _), dropEmptyEnd_append _ (splitAt_ne_nil _ _)]
    simp [splitAt, dropEmptyEnd]

/-- A line of its own is one of the physical lines. Those before it are the lines of the text before
it, and those behind it do not depend on it. -/
theorem exists_physicalLines_append {start rest : List Char} (hStart : EndsLine start)
    (hRest : StartsAfterLine rest) :
    ∃ behind, ∀ line : List Char, line ≠ [] → '\n' ∉ line → '\r' ∉ line →
      physicalLines (start ++ line ++ rest) = physicalLines start ++ line :: behind := by
  have hUnify (line : List Char) (hFilled : line ≠ []) (hFeed : '\n' ∉ line)
      (hReturn : '\r' ∉ line) :
      unifyLineEnds (start ++ line ++ rest) =
        unifyLineEnds start ++ (line ++ unifyLineEnds rest) := by
    rw [List.append_assoc, unifyLineEnds_append, unifyLineEnds_append,
      unifyLineEnds_eq_self hReturn]
    · exact fun hLast => absurd (List.mem_of_getLast? hLast) hReturn
    · obtain ⟨c, tail, rfl⟩ := List.exists_cons_of_ne_nil hFilled
      rintro - hHead
      exact hFeed (by rw [Option.some.inj hHead]; exact List.mem_cons_self)
  rcases hRest.unified with hEmpty | ⟨text, hText⟩
  · refine ⟨[], fun line hFilled hFeed hReturn => ?_⟩
    rw [physicalLines_eq, hUnify line hFilled hFeed hReturn, hStart.dropEmptyEnd_splitAt, hEmpty,
      List.append_nil, splitAt_of_not_mem hFeed]
    simp [dropEmptyEnd, hFilled]
  · refine ⟨dropEmptyEnd (splitAt '\n' text), fun line hFilled hFeed hReturn => ?_⟩
    rw [physicalLines_eq, hUnify line hFilled hFeed hReturn, hStart.dropEmptyEnd_splitAt, hText,
      splitAt_append, splitAt_of_not_mem hFeed, dropEmptyEnd_append _ (splitAt_ne_nil _ _)]
    rfl

end CodeIndex
