import CodeIndex.Extract.GoText
import Mathlib.Data.List.Infix
import Mathlib.Data.List.TakeWhile
import Mathlib.Tactic.Common

/-! How the passes that take comments out of a line of Go go through it, character by character. A
pass either meets its mark at the next character or leaves that character as it is. -/
namespace CodeIndex.Go

/-- A pair stands at the first place or further on. -/
theorem infix_pair_cons_iff {a b c : Char} {rest : List Char} :
    [a, b] <:+: c :: rest ↔ (c = a ∧ rest.head? = some b) ∨ [a, b] <:+: rest := by
  rw [List.infix_cons_iff]
  apply or_congr_left
  cases rest with
  | nil => simp
  | cons d rest => simp [List.cons_prefix_cons, eq_comm]

/-- A pair at the start is the first one. -/
theorem pairPosition?_cons_pair (a b : Char) (rest : List Char) :
    pairPosition? a b (a :: b :: rest) = some 0 := by
  simp [pairPosition?]

/-- Without a pair at the start it is looked for behind the first character. -/
theorem pairPosition?_cons {a b c : Char} {rest : List Char}
    (hMark : ¬(c = a ∧ rest.head? = some b)) :
    pairPosition? a b (c :: rest) = (pairPosition? a b rest).map (· + 1) := by
  cases rest with
  | nil => rfl
  | cons d rest =>
    rw [pairPosition?, if_neg]
    rintro ⟨rfl, rfl⟩
    exact hMark ⟨rfl, rfl⟩

/-- No position is found exactly in texts without the pair. -/
theorem pairPosition?_eq_none_iff {a b : Char} {text : List Char} :
    pairPosition? a b text = none ↔ ¬[a, b] <:+: text := by
  induction text with
  | nil => simp [pairPosition?]
  | cons c rest ih =>
    rw [infix_pair_cons_iff]
    by_cases hMark : c = a ∧ rest.head? = some b
    · obtain ⟨rfl, hHead⟩ := hMark
      obtain ⟨tail, rfl⟩ := List.head?_eq_some_iff.mp hHead
      simp [pairPosition?_cons_pair]
    · simp [pairPosition?_cons hMark, hMark, ih]

/-! Line comments -/

/-- Nothing is left of a line that is a comment. -/
theorem dropLineComment_mark (rest : List Char) : dropLineComment ('/' :: '/' :: rest) = [] := by
  rw [dropLineComment, pairPosition?_cons_pair]
  rfl

theorem dropLineComment_cons {c : Char} {rest : List Char}
    (hMark : ¬(c = '/' ∧ rest.head? = some '/')) :
    dropLineComment (c :: rest) = c :: dropLineComment rest := by
  rw [dropLineComment, pairPosition?_cons hMark, dropLineComment]
  cases pairPosition? '/' '/' rest <;> rfl

/-- The line without its comment starts as the line does, if anything is left of it. -/
theorem head?_of_head?_dropLineComment {line : List Char} {c : Char}
    (hHead : (dropLineComment line).head? = some c) : line.head? = some c := by
  cases line with
  | nil => exact hHead
  | cons d rest =>
    by_cases hMark : d = '/' ∧ rest.head? = some '/'
    · obtain ⟨rfl, hRest⟩ := hMark
      obtain ⟨tail, rfl⟩ := List.head?_eq_some_iff.mp hRest
      rw [dropLineComment_mark] at hHead
      cases hHead
    · rw [dropLineComment_cons hMark] at hHead
      exact hHead

theorem mem_of_mem_dropLineComment {line : List Char} {c : Char} (hMem : c ∈ dropLineComment line) :
    c ∈ line := by
  rw [dropLineComment] at hMem
  split at hMem
  · exact List.mem_of_mem_take hMem
  · exact hMem

/-! Block comments -/

/-- One more character of code before what a line was found to hold. -/
def withChar (c : Char) (found : List Char × Bool) : List Char × Bool := (c :: found.1, found.2)

/-- To skip characters is to begin behind them. -/
theorem joinComments_eq_drop (skip : Nat) (line : List Char) :
    joinComments skip line = joinComments 0 (line.drop skip) := by
  induction skip generalizing line with
  | zero => rfl
  | succ skip ih =>
    cases line with
    | nil => rfl
    | cons c rest =>
      rw [joinComments, ih]
      rfl

theorem joinComments_cons {c : Char} {rest : List Char}
    (hMark : ¬(c = '/' ∧ rest.head? = some '*')) :
    joinComments 0 (c :: rest) = c :: joinComments 0 rest := by
  rw [joinComments]
  rintro tail rfl rfl
  exact hMark ⟨rfl, rfl⟩

/-- A block comment goes up to the next closing mark, since a physical line holds no line feed. -/
theorem commentLength?_eq {rest : List Char} (hLine : '\n' ∉ rest) :
    commentLength? rest = (pairPosition? '*' '/' rest).map (· + 2) := by
  rw [commentLength?, List.takeWhile_eq_self_iff.mpr]
  intro c hMem
  simpa using fun hFeed : c = '\n' => hLine (hFeed ▸ hMem)

/-- An asterisk at the front was there before, since what stands for a comment is a space. -/
theorem head?_of_head?_joinComments {line : List Char}
    (hHead : (joinComments 0 line).head? = some '*') : line.head? = some '*' := by
  cases line with
  | nil => exact hHead
  | cons c rest =>
    by_cases hMark : c = '/' ∧ rest.head? = some '*'
    · obtain ⟨rfl, hRest⟩ := hMark
      obtain ⟨tail, rfl⟩ := List.head?_eq_some_iff.mp hRest
      rw [joinComments] at hHead
      split at hHead <;> simp at hHead
    · rw [joinComments_cons hMark] at hHead
      exact hHead

/-- The text before an opening mark, and whether there is one. -/
def beforeOpening (text : List Char) : List Char × Bool :=
  match pairPosition? '/' '*' text with
  | some position => (text.take position, true)
  | none => (text, false)

theorem beforeOpening_cons {c : Char} {rest : List Char}
    (hMark : ¬(c = '/' ∧ rest.head? = some '*')) :
    beforeOpening (c :: rest) = withChar c (beforeOpening rest) := by
  rw [beforeOpening, pairPosition?_cons hMark, beforeOpening]
  cases pairPosition? '/' '*' rest <;> rfl

theorem dropBlockComments_cons {c : Char} {rest : List Char}
    (hMark : ¬(c = '/' ∧ rest.head? = some '*')) :
    dropBlockComments (c :: rest) = withChar c (dropBlockComments rest) := by
  change beforeOpening (joinComments 0 (c :: rest)) = _
  rw [joinComments_cons hMark, beforeOpening_cons]
  · rfl
  · exact fun hJoined => hMark ⟨hJoined.1, head?_of_head?_joinComments hJoined.2⟩

/-- A block comment that is not closed on the line takes the rest of it. -/
theorem dropBlockComments_open {rest : List Char} (hClose : pairPosition? '*' '/' rest = none)
    (hLine : '\n' ∉ rest) : dropBlockComments ('/' :: '*' :: rest) = ([], true) := by
  have hLength : commentLength? rest = none := by rw [commentLength?_eq hLine, hClose]; rfl
  have hJoin : joinComments 0 ('/' :: '*' :: rest) = '/' :: '*' :: joinComments 0 rest := by
    rw [joinComments, hLength, joinComments_cons (by simp)]
  change beforeOpening (joinComments 0 ('/' :: '*' :: rest)) = _
  rw [hJoin, beforeOpening, pairPosition?_cons_pair]
  rfl

/-- A block comment that is closed on the line leaves a space. -/
theorem dropBlockComments_closed {rest : List Char} {position : Nat}
    (hClose : pairPosition? '*' '/' rest = some position) (hLine : '\n' ∉ rest) :
    dropBlockComments ('/' :: '*' :: rest) =
      withChar ' ' (dropBlockComments (rest.drop (position + 2))) := by
  have hLength : commentLength? rest = some (position + 2) := by
    rw [commentLength?_eq hLine, hClose]
    rfl
  have hJoin : joinComments 0 ('/' :: '*' :: rest) =
      ' ' :: joinComments 0 (rest.drop (position + 2)) := by
    rw [joinComments, hLength]
    exact congrArg (' ' :: ·) (joinComments_eq_drop (position + 3) ('*' :: rest))
  change beforeOpening (joinComments 0 ('/' :: '*' :: rest)) = _
  rw [hJoin, beforeOpening_cons (by simp)]
  rfl

end CodeIndex.Go
