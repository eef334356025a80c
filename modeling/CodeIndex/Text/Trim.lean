import CodeIndex.Text.Blank

namespace CodeIndex

section

variable {α : Type}

/-- Leaves out what satisfies a test at the end of a text. -/
def trimEnd (test : α → Bool) (text : List α) : List α :=
  (text.reverse.dropWhile test).reverse

/-- Leaves out what satisfies a test on both sides of a text. -/
def trim (test : α → Bool) (text : List α) : List α := trimEnd test (text.dropWhile test)

theorem trimEnd_append_takeWhile (test : α → Bool) (text : List α) :
    trimEnd test text ++ (text.reverse.takeWhile test).reverse = text := by
  rw [trimEnd, ← List.reverse_append, List.takeWhile_append_dropWhile, List.reverse_reverse]

/-- The characters at the end of a text that pass a test are left out, and no others. -/
theorem trimEnd_spec (test : α → Bool) (text : List α) :
    ∃ rest, text = trimEnd test text ++ rest ∧ (∀ c ∈ rest, test c = true) ∧
      ∀ c, (trimEnd test text).getLast? = some c → test c = false := by
  refine ⟨(text.reverse.takeWhile test).reverse, (trimEnd_append_takeWhile test text).symm, ?_, ?_⟩
  · intro c hMem
    exact List.all_eq_true.mp List.all_takeWhile c (List.mem_reverse.mp hMem)
  · intro c hLast
    rw [trimEnd, List.getLast?_reverse] at hLast
    have hHead := List.head?_dropWhile_not test text.reverse
    rw [hLast] at hHead
    simpa using hHead

/-- A text whose last character fails the test is left alone. -/
theorem trimEnd_of_getLast? {test : α → Bool} {text : List α}
    (hLast : ∀ c, text.getLast? = some c → test c = false) : trimEnd test text = text := by
  obtain ⟨rest, hText, hRest, -⟩ := trimEnd_spec test text
  cases hEnd : rest.getLast? with
  | none =>
    rw [List.getLast?_eq_none_iff.mp hEnd, List.append_nil] at hText
    exact hText.symm
  | some c =>
    have hSame : text.getLast? = some c := by rw [hText, List.getLast?_append, hEnd, Option.some_or]
    exact absurd (hRest c (List.mem_of_getLast? hEnd)) (by simp [hLast c hSame])

end

/-- Leaves out the blanks on both sides. -/
def trimBlanks (text : List Char) : List Char := trim isBlank text

/-- Splits a text at a separator. There is always one more piece than separators. -/
def splitAt (separator : Char) : List Char → List (List Char)
  | [] => [[]]
  | c :: rest =>
    if c = separator then [] :: splitAt separator rest
    else match splitAt separator rest with
      | [] => [[c]]
      | piece :: pieces => (c :: piece) :: pieces

/-- The maximal runs of characters that are not blank. The first argument holds the present run in
reverse order. -/
def wordsFrom : List Char → List Char → List (List Char)
  | [], [] => []
  | run, [] => [run.reverse]
  | run, c :: rest =>
    if isBlank c then
      if run.isEmpty then wordsFrom [] rest else run.reverse :: wordsFrom [] rest
    else wordsFrom (c :: run) rest

/-- The words of a text: its maximal runs of characters that are not blank. -/
def wordsOf (text : List Char) : List (List Char) := wordsFrom [] text

/-- A blank ends the present run, and the words start afresh behind it. -/
theorem wordsFrom_append_blank {blank : Char} (hBlank : isBlank blank = true)
    (run first rest : List Char) :
    wordsFrom run (first ++ blank :: rest) = wordsFrom run first ++ wordsFrom [] rest := by
  induction first generalizing run with
  | nil => cases run <;> simp [wordsFrom, hBlank]
  | cons c first ih =>
    by_cases hEnd : isBlank c = true
    · cases run <;> simp [wordsFrom, hEnd, ih]
    · simp [wordsFrom, hEnd, ih]

/-- A blank parts the words before it from those after it. -/
theorem wordsOf_append_blank {blank : Char} (hBlank : isBlank blank = true)
    (first rest : List Char) :
    wordsOf (first ++ blank :: rest) = wordsOf first ++ wordsOf rest :=
  wordsFrom_append_blank hBlank [] first rest

theorem wordsFrom_of_not_blank {run word : List Char} (hWord : ∀ c ∈ word, isBlank c = false)
    (hNe : run ≠ [] ∨ word ≠ []) : wordsFrom run word = [run.reverse ++ word] := by
  induction word generalizing run with
  | nil => cases run <;> simp_all [wordsFrom]
  | cons c word ih =>
    obtain ⟨hHead, hRest⟩ := List.forall_mem_cons.mp hWord
    simp [wordsFrom, hHead, ih hRest (.inl (List.cons_ne_nil c run))]

/-- A text without blanks is one word. -/
theorem wordsOf_of_not_blank {word : List Char} (hWord : ∀ c ∈ word, isBlank c = false)
    (hNe : word ≠ []) : wordsOf word = [word] :=
  wordsFrom_of_not_blank hWord (.inr hNe)

end CodeIndex
