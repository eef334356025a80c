import CodeIndex.Extract.GoText
import Mathlib.Algebra.Ring.Parity
import Mathlib.Data.List.DropRight
import Mathlib.Tactic.Common

/-! Which parts of a line are emptied as string literals, and that nothing is left to empty after
that. -/
namespace CodeIndex.Go

/-! Literals by the backslashes before their quotes -/

/-- How many backslashes stand next to each other at the end of a text. -/
def slashesAtEnd (text : List Char) : Nat := (text.rtakeWhile (· == '\\')).length

/-- What stands behind the opening quote of a literal without closing it: an odd number of
backslashes stands before each quote. -/
def StaysOpen (content : List Char) : Prop :=
  ∀ front back, content = front ++ '"' :: back → Odd (slashesAtEnd front)

/-- A line beside the same line with two quotes in the place of each string literal. A literal goes
up to the first quote before which there is an even number of backslashes inside the literal, or up
to the end of the line if there is none. -/
inductive Blanked : List Char → List Char → Prop where
  | nil : Blanked [] []
  | kept {c : Char} {rest blanked : List Char} (outside : c ≠ '"') (tail : Blanked rest blanked) :
      Blanked (c :: rest) (c :: blanked)
  | closed {content rest blanked : List Char} (stays : StaysOpen content)
      (even : Even (slashesAtEnd content)) (tail : Blanked rest blanked) :
      Blanked ('"' :: (content ++ '"' :: rest)) ('"' :: '"' :: blanked)
  | unclosed {content : List Char} (stays : StaysOpen content) :
      Blanked ('"' :: content) ['"', '"']

/-- The run of backslashes at the end grows by a backslash and is ended by anything else. -/
theorem slashesAtEnd_concat (text : List Char) (c : Char) :
    slashesAtEnd (text ++ [c]) = if c = '\\' then slashesAtEnd text + 1 else 0 := by
  rw [slashesAtEnd, List.rtakeWhile_concat]
  by_cases hSlash : c = '\\' <;> simp [hSlash, slashesAtEnd]

theorem staysOpen_nil : StaysOpen [] := by
  intro front back hSplit
  simp at hSplit

/-- A literal stays open behind a quote only if an odd run of backslashes is before it. -/
theorem staysOpen_concat {content : List Char} {c : Char} :
    StaysOpen (content ++ [c]) ↔
      StaysOpen content ∧ (c = '"' → Odd (slashesAtEnd content)) := by
  constructor
  · intro hStays
    refine ⟨fun front back hSplit => hStays front (back ++ [c]) (by simp [hSplit]), ?_⟩
    rintro rfl
    exact hStays content [] rfl
  · rintro ⟨hStays, hLast⟩ front back hSplit
    rcases List.eq_nil_or_concat back with rfl | ⟨back, d, rfl⟩
    · obtain ⟨rfl, hQuote⟩ := List.append_inj' hSplit rfl
      exact hLast (List.singleton_inj.mp hQuote)
    · rw [List.concat_eq_append, ← List.cons_append, ← List.append_assoc] at hSplit
      exact hStays front back (List.append_inj' hSplit rfl).1

/-- The literal that the text behind an opening quote closes, if it does. -/
theorem exists_closing_quote {text : List Char} (hCloses : ¬StaysOpen text) :
    ∃ content rest, text = content ++ '"' :: rest ∧ StaysOpen content ∧
      Even (slashesAtEnd content) := by
  induction text using List.reverseRecOn with
  | nil => exact absurd staysOpen_nil hCloses
  | append_singleton text c ih =>
    by_cases hStays : StaysOpen text
    · rw [staysOpen_concat, not_and, Classical.not_imp] at hCloses
      obtain ⟨rfl, hOdd⟩ := hCloses hStays
      exact ⟨text, [], rfl, hStays, Nat.not_odd_iff_even.mp hOdd⟩
    · obtain ⟨content, rest, rfl, hContent, hEven⟩ := ih hStays
      exact ⟨content, rest ++ [c], by simp, hContent, hEven⟩

/-! The scan in one pass -/

/-- Where the scan stands behind a text that leaves a literal open. -/
theorem blankFrom_inside_append {content : List Char} (hStays : StaysOpen content)
    (rest : List Char) :
    blankFrom .inside (content ++ rest) =
      blankFrom (if Even (slashesAtEnd content) then .inside else .escaped) rest := by
  induction content using List.reverseRecOn generalizing rest with
  | nil => rfl
  | append_singleton content c ih =>
    obtain ⟨hStays, hLast⟩ := staysOpen_concat.mp hStays
    rw [List.append_assoc, List.singleton_append, ih hStays, slashesAtEnd_concat]
    by_cases hEven : Even (slashesAtEnd content)
    · have hQuote : c ≠ '"' := fun hQuote => Nat.not_even_iff_odd.mpr (hLast hQuote) hEven
      by_cases hSlash : c = '\\'
      · have hOdd : ¬Even (slashesAtEnd content + 1) := by simpa [Nat.even_add_one] using hEven
        simp [hEven, hSlash, hOdd, blankFrom]
      · simp [hEven, hSlash, hQuote, blankFrom]
    · by_cases hSlash : c = '\\'
      · have hNext : Even (slashesAtEnd content + 1) := Nat.even_add_one.mpr hEven
        simp [hEven, hSlash, hNext, blankFrom]
      · simp [hEven, hSlash, blankFrom]

/-- What a line is blanked to is what the scan makes of it. -/
theorem Blanked.eq_blankLiterals {line blanked : List Char} (hBlanked : Blanked line blanked) :
    blanked = blankLiterals line := by
  rw [blankLiterals]
  induction hBlanked with
  | nil => rfl
  | kept hOutside _ ih => rw [blankFrom, if_neg hOutside, ih]
  | closed hStays hEven _ ih =>
    rw [blankFrom, if_pos rfl, blankFrom_inside_append hStays, if_pos hEven, blankFrom, if_pos rfl,
      ih]
  | @unclosed content hStays =>
    have hInside := blankFrom_inside_append hStays []
    rw [List.append_nil] at hInside
    rw [blankFrom, if_pos rfl, hInside]
    split_ifs <;> rfl

/-- Every line is blanked to something. -/
theorem exists_blanked (line : List Char) : ∃ blanked, Blanked line blanked := by
  induction hLength : line.length using Nat.strong_induction_on generalizing line with
  | _ length ih =>
    subst hLength
    cases line with
    | nil => exact ⟨[], .nil⟩
    | cons c rest =>
      by_cases hQuote : c = '"'
      · subst hQuote
        by_cases hStays : StaysOpen rest
        · exact ⟨_, .unclosed hStays⟩
        · obtain ⟨content, tail, rfl, hContent, hEven⟩ := exists_closing_quote hStays
          have hShorter : tail.length < ('"' :: (content ++ '"' :: tail)).length := by
            simp only [List.length_cons, List.length_append]
            omega
          obtain ⟨blanked, hTail⟩ := ih tail.length hShorter tail rfl
          exact ⟨_, .closed hContent hEven hTail⟩
      · obtain ⟨blanked, hRest⟩ := ih rest.length (by simp) rest rfl
        exact ⟨_, .kept hQuote hRest⟩

/-- The scan blanks as the definition of literals says. -/
theorem blanked_iff {line blanked : List Char} :
    Blanked line blanked ↔ blanked = blankLiterals line := by
  refine ⟨Blanked.eq_blankLiterals, ?_⟩
  rintro rfl
  obtain ⟨blanked, hBlanked⟩ := exists_blanked line
  exact hBlanked.eq_blankLiterals ▸ hBlanked

/-- Two quotes are the literal that they are left for. -/
theorem Blanked.blanked_self {line blanked : List Char} (hBlanked : Blanked line blanked) :
    Blanked blanked blanked := by
  have hEmpty {rest blanked : List Char} (hRest : Blanked rest blanked) :
      Blanked ('"' :: '"' :: rest) ('"' :: '"' :: blanked) :=
    @Blanked.closed [] rest blanked staysOpen_nil (by decide) hRest
  induction hBlanked with
  | nil => exact .nil
  | kept hOutside _ ih => exact .kept hOutside ih
  | closed _ _ _ ih => exact hEmpty ih
  | unclosed _ => exact hEmpty .nil

/-! The scan from quote to quote -/

theorem literalEnd_eq (line : List Char) (start : Nat) :
    literalEnd line start =
      if start + 1 < line.length then start + 1 + literalLength false (line.drop (start + 1))
      else line.length := by
  have hFirst : ((start : Int) + 1).toNat = start + 1 := by omega
  rw [literalEnd, hFirst]

/-- A literal holds its first quote at least, so that the scan moves on. -/
theorem lt_literalEnd {line : List Char} {start : Nat} (hStart : start < line.length) :
    start < literalEnd line start := by
  rw [literalEnd_eq]
  split_ifs <;> omega

/-- Where the first quote stands from a position on. There is none if that is not inside the line.
-/
def nextQuote (line : List Char) (position : Nat) : Nat :=
  position + ((line.drop position).takeWhile (· ≠ '"')).length

theorem le_nextQuote (line : List Char) (position : Nat) : position ≤ nextQuote line position :=
  Nat.le_add_right _ _

/-- Empties the literals behind a position: the next quote is looked for, and then the quote that
closes its literal. -/
def blankSpans (line : List Char) (position : Nat) : List Char :=
  if nextQuote line position < line.length then
    (line.take (nextQuote line position)).drop position ++
      '"' :: '"' :: blankSpans line (literalEnd line (nextQuote line position) + 1)
  else line.drop position
termination_by line.length - position
decreasing_by
  have hStart := le_nextQuote line position
  have hEnd := @lt_literalEnd line (nextQuote line position) ‹_›
  omega

/-- The rest of a line behind a position goes on without quotes up to the next one. -/
theorem drop_eq_of_nextQuote_lt {line : List Char} {position : Nat}
    (hQuote : nextQuote line position < line.length) :
    '"' ∉ (line.take (nextQuote line position)).drop position ∧
      line.drop position = (line.take (nextQuote line position)).drop position ++
        '"' :: line.drop (nextQuote line position + 1) := by
  have hPlain : (line.take (nextQuote line position)).drop position =
      (line.drop position).takeWhile (· ≠ '"') := by
    rw [List.drop_take, nextQuote, Nat.add_sub_cancel_left]
    exact (List.prefix_iff_eq_take.mp (List.takeWhile_prefix _)).symm
  have hSplit := @List.takeWhile_append_dropWhile Char (· ≠ '"') (line.drop position)
  have hHead := List.head?_dropWhile_not (· ≠ '"') (line.drop position)
  have hBehind : line.drop (nextQuote line position + 1) =
      ((line.drop position).dropWhile (· ≠ '"')).tail := by
    have hDrop := congrArg (List.drop ((line.drop position).takeWhile (· ≠ '"')).length) hSplit
    rw [List.drop_left, List.drop_drop] at hDrop
    rw [hDrop, List.tail_drop, nextQuote]
  rw [hPlain, hBehind]
  refine ⟨fun hMem => by simpa using List.mem_takeWhile_imp hMem, ?_⟩
  cases hTail : (line.drop position).dropWhile (· ≠ '"') with
  | nil =>
    have hLength := congrArg List.length hSplit
    rw [hTail, List.append_nil, List.length_drop] at hLength
    rw [nextQuote] at hQuote
    omega
  | cons c tail =>
    rw [hTail] at hHead hSplit
    obtain rfl : c = '"' := by simpa using hHead
    exact hSplit.symm

theorem not_mem_of_le_nextQuote {line : List Char} {position : Nat}
    (hQuote : line.length ≤ nextQuote line position) : '"' ∉ line.drop position := by
  have hAll : (line.drop position).takeWhile (· ≠ '"') = line.drop position := by
    refine (List.takeWhile_prefix _).eq_of_length_le ?_
    rw [nextQuote] at hQuote
    rw [List.length_drop]
    omega
  intro hMem
  rw [← hAll] at hMem
  simpa using List.mem_takeWhile_imp hMem

/-- A scan inside a literal goes on outside behind the quote that closes it. -/
theorem blankFrom_literalLength (escaped : Bool) (text : List Char) :
    blankFrom (if escaped then .escaped else .inside) text =
      blankFrom .outside (text.drop (literalLength escaped text + 1)) := by
  induction text generalizing escaped with
  | nil => cases escaped <;> rfl
  | cons c rest ih =>
    cases escaped with
    | true => simpa [blankFrom, literalLength] using ih false
    | false =>
      by_cases hQuote : c = '"'
      · simp [blankFrom, literalLength, hQuote]
      · have hRest := ih (c == '\\')
        by_cases hSlash : c = '\\' <;>
          simpa [blankFrom, literalLength, hQuote, hSlash] using hRest

/-- The part of a line behind a literal. It is empty if nothing closes the literal, as then the end
lies at the length of the line. -/
theorem drop_literalEnd (line : List Char) (start : Nat) :
    line.drop (literalEnd line start + 1) =
      (line.drop (start + 1)).drop (literalLength false (line.drop (start + 1)) + 1) := by
  rw [literalEnd_eq]
  split_ifs with hInside
  · rw [List.drop_drop, Nat.add_assoc]
  · have hBehind : line.drop (start + 1) = [] := List.drop_eq_nil_of_le (by omega)
    rw [hBehind, List.drop_nil, List.drop_eq_nil_of_le (Nat.le_succ _)]

theorem blankLiterals_plain_append {plain : List Char} (hPlain : '"' ∉ plain) (rest : List Char) :
    blankLiterals (plain ++ rest) = plain ++ blankLiterals rest := by
  rw [blankLiterals]
  induction plain with
  | nil => rfl
  | cons c plain ih =>
    rw [List.mem_cons, not_or] at hPlain
    rw [List.cons_append, blankFrom, if_neg (Ne.symm hPlain.1), ih hPlain.2, List.cons_append]

theorem blankLiterals_of_not_mem {line : List Char} (hQuote : '"' ∉ line) :
    blankLiterals line = line := by
  have hPlain := blankLiterals_plain_append hQuote []
  rw [List.append_nil] at hPlain
  exact hPlain.trans (List.append_nil line)

/-- The scan by spans makes of the rest of a line what the scan by characters makes of it. -/
theorem blankSpans_eq (line : List Char) (position : Nat) :
    blankSpans line position = blankLiterals (line.drop position) := by
  fun_induction blankSpans line position with
  | case1 position hQuote ih =>
    obtain ⟨hPlain, hDrop⟩ := drop_eq_of_nextQuote_lt hQuote
    have hInside := blankFrom_literalLength false (line.drop (nextQuote line position + 1))
    rw [← drop_literalEnd] at hInside
    rw [hDrop, blankLiterals_plain_append hPlain, ih, blankLiterals, blankLiterals, blankFrom,
      if_pos rfl, ← hInside]
    rfl
  | case2 position hQuote =>
    exact (blankLiterals_of_not_mem (not_mem_of_le_nextQuote (Nat.le_of_not_lt hQuote))).symm

/-- Emptying the literals of a line leaves the line with two quotes in the place of each literal,
and leaves only that. The scan from quote to quote comes to an end with the same result, and a
second pass changes nothing. -/
theorem blankLiterals_exact (line : List Char) :
    (∀ blanked, Blanked line blanked ↔ blanked = blankLiterals line) ∧
      blankSpans line 0 = blankLiterals line ∧
      blankLiterals (blankLiterals line) = blankLiterals line := by
  refine ⟨fun blanked => blanked_iff, blankSpans_eq line 0, ?_⟩
  have hLine : Blanked line (blankLiterals line) := blanked_iff.mpr rfl
  exact hLine.blanked_self.eq_blankLiterals.symm

-- A backslash outside a literal hides no quote, and two of them inside it hide none either.
example : blankLiterals "\\\"x\\\\\" + \"y\\\"z".toList = "\\\"\" + \"\"".toList := by
  decide

end CodeIndex.Go
