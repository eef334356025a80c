import CodeIndex.Json.Printer
import CodeIndex.Json.Reader
import Mathlib.Tactic.Common

/-! Reading a rendered value gives the value back, for every value without floating-point numbers
whose integers are in the range of the reader and whose objects have no name twice. -/
namespace CodeIndex.JsonValue

/-! Texts -/

theorem hexValue?_hexDigit {n : Nat} (hDigit : n < 16) : hexValue? (hexDigit n) = some n := by
  revert n
  decide

/-- The code of a control character is read back from its four digits. -/
theorem unit?_controlCode {n : Nat} (hControl : n < 32) :
    unit? '0' '0' (hexDigit (n / 16)) (hexDigit (n % 16)) = some n := by
  have hZero : hexValue? '0' = some 0 := by decide
  simp only [unit?, hZero, hexValue?_hexDigit (show n / 16 < 16 by omega),
    hexValue?_hexDigit (show n % 16 < 16 by omega), Option.pure_def, Option.bind_eq_bind,
    Option.bind_some, Option.some.injEq]
  omega

/-- A unit below the surrogates is one character, also in front of another unit. -/
theorem readText_unit {a b c d : Char} {unit : Nat} (rest : List Char)
    (hUnit : unit? a b c d = some unit) (hLow : unit < 0xd800) :
    readText ('\\' :: 'u' :: a :: b :: c :: d :: rest) =
      (readText rest).map fun (chars, after) => (Char.ofNat unit :: chars, after) := by
  have hHigh : ¬ (0xd800 ≤ unit ∧ unit < 0xdc00) := by omega
  have hMiddle : ¬ (0xdc00 ≤ unit ∧ unit < 0xe000) := by omega
  have hAll : ¬ (0xd800 ≤ unit ∧ unit < 0xe000) := by omega
  by_cases hNext : ∃ a' b' c' d' tail, rest = '\\' :: 'u' :: a' :: b' :: c' :: d' :: tail
  · obtain ⟨a', b', c', d', tail, rfl⟩ := hNext
    rw [readText]
    simp only [hUnit, Option.bind_eq_bind, Option.bind_some, hHigh, hMiddle, if_false]
    cases readText ('\\' :: 'u' :: a' :: b' :: c' :: d' :: tail) <;> rfl
  · rw [readText]
    · simp only [hUnit, Option.bind_eq_bind, Option.bind_some, hAll, if_false]
      cases readText rest <;> rfl
    · intro a' b' c' d' tail hRest
      exact hNext ⟨a', b', c', d', tail, hRest⟩

/-- An escape of two characters stands for one. -/
theorem readText_shortEscape {c escaped : Char} (rest : List Char) (hNotUnit : c ≠ 'u')
    (hEscape : shortEscape? c = some escaped) :
    readText ('\\' :: c :: rest) =
      (readText rest).map fun (chars, after) => (escaped :: chars, after) := by
  rw [readText]
  · simp only [hEscape, Option.bind_eq_bind, Option.bind_some]
    cases readText rest <;> rfl
  · simp [hNotUnit]
  · simp [hNotUnit]

/-- A character without a meaning of its own stands for itself. -/
theorem readText_plain {c : Char} (rest : List Char) (hQuote : c ≠ '"') (hBackslash : c ≠ '\\')
    (hPrintable : 32 ≤ c.toNat) :
    readText (c :: rest) = (readText rest).map fun (chars, after) => (c :: chars, after) := by
  have hAccepted : ¬ (c.toNat < 32 ∨ c = '\\') := by
    rintro (hControl | hEq)
    · omega
    · exact hBackslash hEq
  rw [readText]
  · simp only [hAccepted, if_false]
    cases readText rest <;> rfl
  all_goals simp [hQuote, hBackslash]

/-- An escaped character is read back, whatever follows it. -/
theorem readText_escapeChar (c : Char) (rest : List Char) :
    readText (escapeChar c ++ rest) =
      (readText rest).map fun (chars, after) => (c :: chars, after) := by
  unfold escapeChar
  split_ifs with hQuote hBackslash hPrintable hFeed hTab hReturn hBack hForm
  · subst hQuote
    exact readText_shortEscape rest (by decide) rfl
  · subst hBackslash
    exact readText_shortEscape rest (by decide) rfl
  · exact readText_plain rest hQuote hBackslash hPrintable
  · subst hFeed
    exact readText_shortEscape rest (by decide) rfl
  · subst hTab
    exact readText_shortEscape rest (by decide) rfl
  · subst hReturn
    exact readText_shortEscape rest (by decide) rfl
  · subst hBack
    exact readText_shortEscape rest (by decide) rfl
  · subst hForm
    exact readText_shortEscape rest (by decide) rfl
  · have hUnit := unit?_controlCode (n := c.toNat) (by omega)
    have hRead := readText_unit rest hUnit (by omega)
    rw [Char.ofNat_toNat] at hRead
    exact hRead

/-- A text up to its closing quote is read back. -/
theorem readText_flatMap_escapeChar (chars rest : List Char) :
    readText (chars.flatMap escapeChar ++ '"' :: rest) = some (chars, rest) := by
  induction chars with
  | nil => simp [readText]
  | cons c chars ih =>
    rw [List.flatMap_cons, List.append_assoc, readText_escapeChar, ih]
    rfl

/-! Numbers -/

/-- What may follow a value: the end of the input, or a mark that closes or continues the value
around it. -/
def FollowsValue (rest : List Char) : Prop :=
  ∀ c ∈ rest.head?, c = ',' ∨ c = ']' ∨ c = '\x7d'

theorem FollowsValue.nil : FollowsValue [] := by
  simp [FollowsValue]

/-- A comma or a closing bracket may follow a value. -/
theorem followsValue_cons {c : Char} (rest : List Char)
    (hMark : c = ',' ∨ c = ']' ∨ c = '\x7d') : FollowsValue (c :: rest) := by
  simpa [FollowsValue] using hMark

/-- The digits of a number have its value. -/
theorem decimalValue_toDigits (n : Nat) : decimalValue (Nat.toDigits 10 n) = n := by
  have hFold := Nat.ofDigitChars_ten_toDigits (n := n)
  rw [Nat.ofDigitChars_eq_foldl] at hFold
  simpa only [decimalValue, Nat.mul_comm] using hFold

/-- Only zero is written with a zero in front. -/
theorem toDigits_head_ne_zero (n : Nat) (d : Char) (digits : List Char) :
    Nat.toDigits 10 n ≠ '0' :: d :: digits := by
  induction n using Nat.strongRecOn generalizing d digits with
  | _ n ih =>
    intro hDigits
    by_cases hSmall : n < 10
    · simp [Nat.toDigits_of_lt_base hSmall] at hDigits
    · rw [Nat.toDigits_of_base_le (by decide) (by omega)] at hDigits
      cases hRest : Nat.toDigits 10 (n / 10) with
      | nil => exact Nat.toDigits_ne_nil hRest
      | cons first others =>
        rw [hRest, List.cons_append, List.cons.injEq] at hDigits
        obtain ⟨rfl, hOthers⟩ := hDigits
        cases others with
        | cons second others => exact ih (n / 10) (by omega) second others hRest
        | nil =>
          -- a quotient of zero would make the number a single digit
          have hZero : n / 10 = 0 := by
            rw [← decimalValue_toDigits (n / 10), hRest]
            decide
          omega

/-- The digits of a number end where something else may follow it. -/
theorem spanDigits_append {digits rest : List Char} (hDigits : ∀ c ∈ digits, c.isDigit = true)
    (hRest : FollowsValue rest) : spanDigits (digits ++ rest) = (digits, rest) := by
  have hStop : ∀ c ∈ rest.head?, c.isDigit = false := by
    intro c hc
    rcases hRest c hc with rfl | rfl | rfl <;> decide
  have hTake : rest.takeWhile Char.isDigit = [] := by
    cases rest with
    | nil => rfl
    | cons c rest => simp [hStop c rfl]
  have hDrop : rest.dropWhile Char.isDigit = rest := by
    cases rest with
    | nil => rfl
    | cons c rest => simp [hStop c rfl]
  simp only [spanDigits, List.takeWhile_append_of_pos hDigits, List.dropWhile_append_of_pos hDigits,
    hTake, hDrop, List.append_nil]

/-- What may follow a value starts no fraction. -/
theorem readFraction_of_follows {rest : List Char} (hRest : FollowsValue rest) :
    readFraction rest = some (none, rest) := by
  rw [readFraction]
  intro tail hEq
  have := hRest '.' (by simp [hEq])
  simp at this

theorem readExponent_of_follows {rest : List Char} (hRest : FollowsValue rest) :
    readExponent rest = some (none, rest) := by
  cases rest with
  | nil => rfl
  | cons c rest =>
    have hMark : ¬ (c = 'e' ∨ c = 'E') := by
      rcases hRest c rfl with rfl | rfl | rfl <;> decide
    simp [readExponent, hMark]

/-- Digits without a fraction and an exponent are an integer, if it is in the range. -/
theorem numberValue_toDigits {range : IntegerRange} (negative : Bool) (n : Nat)
    (hRange : range.contains (if negative then -Int.ofNat n else Int.ofNat n) = true) :
    numberValue range negative (Nat.toDigits 10 n) none none =
      .integer (if negative then -Int.ofNat n else Int.ofNat n) := by
  simp only [numberValue, Option.isNone_none, Bool.and_self, if_true, decimalValue_toDigits, hRange]

/-- The digits of a number are read as an integer if the range has it. -/
theorem readNumber_toDigits {range : IntegerRange} {rest : List Char} (negative : Bool) (n : Nat)
    (hRange : range.contains (if negative then -Int.ofNat n else Int.ofNat n) = true)
    (hRest : FollowsValue rest) :
    readNumber range negative (Nat.toDigits 10 n ++ rest) =
      some (.integer (if negative then -Int.ofNat n else Int.ofNat n), rest) := by
  have hDigits : ∀ c ∈ Nat.toDigits 10 n, c.isDigit = true :=
    fun c hc => Nat.isDigit_of_mem_toDigits (by decide) (by decide) hc
  rw [readNumber, spanDigits_append hDigits hRest]
  split
  · next hEq => exact absurd (congrArg Prod.fst hEq) Nat.toDigits_ne_nil
  · next hEq => exact absurd (congrArg Prod.fst hEq) (toDigits_head_ne_zero n _ _)
  · next hEq =>
    rw [Prod.mk.injEq] at hEq
    obtain ⟨rfl, rfl⟩ := hEq
    simp only [readFraction_of_follows hRest, readExponent_of_follows hRest,
      Option.bind_eq_bind, Option.bind_some, numberValue_toDigits negative n hRange]

/-! Values -/

mutual

/-- Whether a value is read back as it is written: its integers are in the range, there is no
floating-point number in it, and no object in it has a name twice. -/
def Rereads (range : IntegerRange) : JsonValue → Prop
  | .null | .bool _ | .text _ => True
  | .integer n => range.contains n = true
  | .real _ => False
  | .list items => ItemsReread range items
  | .object fields => (fields.map Prod.fst).Nodup ∧ FieldsReread range fields

/-- Whether every item is read back as it is written. -/
def ItemsReread (range : IntegerRange) : List JsonValue → Prop
  | [] => True
  | item :: items => Rereads range item ∧ ItemsReread range items

/-- Whether the value of every field is read back as it is written. -/
def FieldsReread (range : IntegerRange) : List (String × JsonValue) → Prop
  | [] => True
  | (_, value) :: fields => Rereads range value ∧ FieldsReread range fields

end

/-- Items are read back if each of them is. -/
theorem itemsReread_iff {range : IntegerRange} {items : List JsonValue} :
    ItemsReread range items ↔ ∀ item ∈ items, Rereads range item := by
  induction items with
  | nil => simp [ItemsReread]
  | cons item items ih => simp [ItemsReread, ih]

theorem fieldsReread_iff {range : IntegerRange} {fields : List (String × JsonValue)} :
    FieldsReread range fields ↔ ∀ field ∈ fields, Rereads range field.2 := by
  induction fields with
  | nil => simp [FieldsReread]
  | cons field fields ih => simp [FieldsReread, ih]

mutual

/-- The range of a word only adds that the integers fit into it. -/
theorem rereads_word64_iff : ∀ value : JsonValue,
    Rereads .word64 value ↔ value.fitsWord64 = true ∧ Rereads .unbounded value
  | .null | .bool _ | .text _ | .real _ => by simp [Rereads, fitsWord64]
  | .integer n => by simp [Rereads, fitsWord64, IntegerRange.word64, IntegerRange.unbounded]
  | .list items => by
    simpa only [Rereads, fitsWord64] using itemsReread_word64_iff items
  | .object fields => by
    simp only [Rereads, fitsWord64, fieldsReread_word64_iff fields]
    tauto

theorem itemsReread_word64_iff : ∀ items : List JsonValue,
    ItemsReread .word64 items ↔ itemsFitWord64 items = true ∧ ItemsReread .unbounded items
  | [] => by simp [ItemsReread, itemsFitWord64]
  | item :: items => by
    simp only [ItemsReread, itemsFitWord64, Bool.and_eq_true, rereads_word64_iff item,
      itemsReread_word64_iff items]
    tauto

theorem fieldsReread_word64_iff : ∀ fields : List (String × JsonValue),
    FieldsReread .word64 fields ↔ fieldsFitWord64 fields = true ∧ FieldsReread .unbounded fields
  | [] => by simp [FieldsReread, fieldsFitWord64]
  | (name, value) :: fields => by
    simp only [FieldsReread, fieldsFitWord64, Bool.and_eq_true, rereads_word64_iff value,
      fieldsReread_word64_iff fields]
    tauto

end

/-- A natural number is written in its digits. -/
theorem render_ofNat (n : Nat) : render (.integer n) = Nat.toDigits 10 n := by
  simp [render, Int.repr_eq_if]

/-- A negative number is written with a sign before its digits. -/
theorem render_neg (n : Nat) (hPositive : 0 < n) :
    render (.integer (-n)) = '-' :: Nat.toDigits 10 n := by
  have hNonzero : n ≠ 0 := by omega
  simp [render, Int.repr_eq_if, hNonzero]

theorem toDigits_eq_cons (n : Nat) :
    ∃ d digits, Nat.toDigits 10 n = d :: digits ∧ d.isDigit = true := by
  cases hDigits : Nat.toDigits 10 n with
  | nil => exact absurd hDigits Nat.toDigits_ne_nil
  | cons d digits =>
    exact ⟨d, digits, rfl, Nat.isDigit_of_mem_toDigits (by decide) (by decide)
      (hDigits ▸ List.mem_cons_self)⟩

/-- Whether a character can be the first one of a rendered value: it is neither blank nor a closing
bracket. -/
def startsValue (c : Char) : Bool := !isLayout c && c != ']'

theorem startsValue_of_isDigit {c : Char} (hDigit : c.isDigit = true) : startsValue c = true := by
  have hBracket : c ≠ ']' := by rintro rfl; simp at hDigit
  have hLayout : isLayout c = false := by
    by_contra hBlank
    simp only [isLayout, Bool.not_eq_false, Bool.or_eq_true, decide_eq_true_eq] at hBlank
    rcases hBlank with ((rfl | rfl) | rfl) | rfl <;> simp at hDigit
  simp [startsValue, hBracket, hLayout]

/-- There is no layout before the start of a value. -/
theorem skipLayout_cons {c : Char} (rest : List Char) (hStart : startsValue c = true) :
    skipLayout (c :: rest) = c :: rest := by
  simp only [startsValue, Bool.and_eq_true, Bool.not_eq_true'] at hStart
  simp [skipLayout, hStart.1]

/-- A rendered value starts with a character of its own. -/
theorem render_eq_cons {range : IntegerRange} {value : JsonValue} (hValue : Rereads range value) :
    ∃ c tail, render value = c :: tail ∧ startsValue c = true := by
  cases value with
  | null => exact ⟨_, _, by rw [render], by decide⟩
  | bool b => cases b <;> exact ⟨_, _, by rw [render], by decide⟩
  | integer n =>
    obtain ⟨m, rfl | rfl⟩ := n.eq_nat_or_neg
    · obtain ⟨d, digits, hDigits, hDigit⟩ := toDigits_eq_cons m
      exact ⟨d, digits, by rw [render_ofNat, hDigits], startsValue_of_isDigit hDigit⟩
    · by_cases hPositive : 0 < m
      · exact ⟨_, _, render_neg m hPositive, by decide⟩
      · obtain rfl : m = 0 := by omega
        exact ⟨'0', [], by rw [Int.natCast_zero, Int.neg_zero]; exact render_ofNat 0, by decide⟩
  | real x => exact absurd hValue (by simp [Rereads])
  | text s => exact ⟨_, _, by rw [render, renderText]; rfl, by decide⟩
  | list items => exact ⟨_, _, by rw [render]; rfl, by decide⟩
  | object fields => exact ⟨_, _, by rw [render]; rfl, by decide⟩

/-- Items are written with commas between them. -/
theorem renderItems_cons_cons (item next : JsonValue) (items : List JsonValue) :
    renderItems (item :: next :: items) = render item ++ ',' :: renderItems (next :: items) :=
  renderItems.eq_3 item (next :: items) (List.cons_ne_nil next items)

theorem renderFields_cons_cons (name : String) (value : JsonValue) (next : String × JsonValue)
    (fields : List (String × JsonValue)) :
    renderFields ((name, value) :: next :: fields) =
      renderText name ++ ':' :: (render value ++ ',' :: renderFields (next :: fields)) := by
  rw [renderFields.eq_3 name value (next :: fields) (List.cons_ne_nil next fields),
    List.append_assoc, List.cons_append]

/-- Written items start with a value, so that a list that holds some is not taken for an empty one.
-/
theorem renderItems_cons_eq_cons {range : IntegerRange} {item : JsonValue}
    (items : List JsonValue) (hItem : Rereads range item) :
    ∃ c tail, renderItems (item :: items) = c :: tail ∧ startsValue c = true := by
  obtain ⟨c, tail, hRender, hStart⟩ := render_eq_cons hItem
  cases items with
  | nil => exact ⟨c, tail, by rw [renderItems, hRender], hStart⟩
  | cons next items =>
    exact ⟨c, tail ++ ',' :: renderItems (next :: items),
      by rw [renderItems_cons_cons, hRender, List.cons_append], hStart⟩

/-- A digit makes the reader expect a number. -/
theorem readValue_of_isDigit {range : IntegerRange} {d : Char} (fuel : Nat) (rest : List Char)
    (hDigit : d.isDigit = true) :
    readValue range (fuel + 1) (d :: rest) = readNumber range false (d :: rest) := by
  rw [readValue, skipLayout_cons rest (startsValue_of_isDigit hDigit)]
  split
  all_goals
    first
    | rfl
    | next hEq => simp only [List.cons.injEq] at hEq; obtain ⟨rfl, -⟩ := hEq; simp at hDigit

/-- An integer is read back, if it is in the range. -/
theorem readValue_integer {range : IntegerRange} {rest : List Char} (fuel : Nat) (n : Int)
    (hRange : range.contains n = true) (hRest : FollowsValue rest) :
    readValue range (fuel + 1) (render (.integer n) ++ rest) = some (.integer n, rest) := by
  have hNatural (m : Nat) (hRange : range.contains m = true) :
      readValue range (fuel + 1) (Nat.toDigits 10 m ++ rest) = some (.integer m, rest) := by
    obtain ⟨d, digits, hDigits, hDigit⟩ := toDigits_eq_cons m
    rw [hDigits, List.cons_append, readValue_of_isDigit fuel _ hDigit, ← List.cons_append,
      ← hDigits]
    exact readNumber_toDigits false m hRange hRest
  obtain ⟨m, rfl | rfl⟩ := n.eq_nat_or_neg
  · rw [render_ofNat]
    exact hNatural m hRange
  · by_cases hPositive : 0 < m
    · rw [render_neg m hPositive, List.cons_append, readValue, skipLayout_cons _ (by decide)]
      exact readNumber_toDigits true m hRange hRest
    · obtain rfl : m = 0 := by omega
      rw [Int.natCast_zero, Int.neg_zero] at hRange ⊢
      rw [show (0 : Int) = (0 : Nat) from rfl, render_ofNat]
      exact hNatural 0 hRange

/-! Fields -/

/-- A field with a new name goes to the end. -/
theorem setField_of_not_mem {name : String} {value : JsonValue}
    {fields : List (String × JsonValue)} (hNew : name ∉ fields.map Prod.fst) :
    setField name value fields = fields ++ [(name, value)] := by
  induction fields with
  | nil => rfl
  | cons field fields ih =>
    obtain ⟨other, old⟩ := field
    simp only [List.map_cons, List.mem_cons, not_or] at hNew
    simp [setField, Ne.symm hNew.1, ih hNew.2]

/-- Fields with different names stay as they are if they are set one after the other. -/
theorem foldl_setField (before fields : List (String × JsonValue))
    (hNodup : ((before ++ fields).map Prod.fst).Nodup) :
    fields.foldl (fun all (name, value) => setField name value all) before = before ++ fields := by
  induction fields generalizing before with
  | nil => simp
  | cons field fields ih =>
    obtain ⟨name, value⟩ := field
    have hNew : name ∉ before.map Prod.fst := by
      simp only [List.map_append, List.map_cons, List.nodup_append] at hNodup
      exact fun hOld => hNodup.2.2 name hOld name (by simp) rfl
    simp only [List.foldl_cons, setField_of_not_mem hNew]
    rw [ih _ (by simpa using hNodup), List.append_assoc]
    rfl

/-- Written fields start with a quote, so that an object that holds some is not taken for an empty
one. -/
theorem renderFields_cons_eq_cons (field : String × JsonValue)
    (fields : List (String × JsonValue)) :
    ∃ tail, renderFields (field :: fields) = '"' :: tail := by
  obtain ⟨name, value⟩ := field
  cases fields with
  | nil => exact ⟨_, by rw [renderFields, renderText]; rfl⟩
  | cons next fields => exact ⟨_, by rw [renderFields_cons_cons, renderText]; rfl⟩

/-! The round trip -/

/-- A bracket with a value behind it makes the reader expect items. -/
theorem readValue_list {range : IntegerRange} {items : List JsonValue} {c : Char}
    {tail rest : List Char} (fuel : Nat) (hItems : renderItems items = c :: tail)
    (hStart : startsValue c = true) :
    readValue range (fuel + 1) ('[' :: (renderItems items ++ rest)) =
      (readItems range fuel (renderItems items ++ rest)).map fun (items, after) =>
        (.list items, after) := by
  have hBracket : c ≠ ']' := by
    rintro rfl
    simp [startsValue] at hStart
  rw [readValue, skipLayout_cons _ (by decide), hItems, List.cons_append]
  simp only [skipLayout_cons _ hStart]
  split
  · next hEq => exact absurd (List.cons.inj hEq).1 hBracket
  · cases readItems range fuel (c :: (tail ++ rest)) <;> rfl

/-- A brace with a quote behind it makes the reader expect fields. -/
theorem readValue_object {range : IntegerRange} {field : String × JsonValue}
    {fields : List (String × JsonValue)} {rest : List Char} (fuel : Nat) :
    readValue range (fuel + 1) ('\x7b' :: (renderFields (field :: fields) ++ rest)) =
      (readFields range fuel (renderFields (field :: fields) ++ rest)).map fun (fields, after) =>
        (.object (fields.foldl (fun all (name, value) => setField name value all) []), after) := by
  obtain ⟨tail, hFields⟩ := renderFields_cons_eq_cons field fields
  rw [readValue, skipLayout_cons _ (by decide), hFields, List.cons_append]
  simp only [skipLayout_cons (c := '"') _ (by decide)]
  split
  · next hEq => simp at hEq
  · cases readFields range fuel ('"' :: (tail ++ rest)) <;> rfl

theorem renderText_append (text : String) (rest : List Char) :
    renderText text ++ rest = '"' :: (text.toList.flatMap escapeChar ++ '"' :: rest) := by
  simp [renderText]

/-- A field after which a comma stands is read with the fields behind the comma. -/
theorem readFields_field {range : IntegerRange} {name : String} {value : JsonValue}
    {input after rest : List Char} {fields : List (String × JsonValue)} {fuel : Nat}
    (hValue : readValue range fuel input = some (value, ',' :: after))
    (hOthers : readFields range fuel after = some (fields, rest)) :
    readFields range (fuel + 1) (renderText name ++ ':' :: input) =
      some ((name, value) :: fields, rest) := by
  rw [renderText_append, readFields, skipLayout_cons _ (by decide)]
  simp [readText_flatMap_escapeChar, skipLayout_cons (c := ':') input (by decide), hValue,
    skipLayout_cons (c := ',') after (by decide), hOthers]

/-- A field after which the object is closed is read alone. -/
theorem readFields_last {range : IntegerRange} {name : String} {value : JsonValue}
    {input rest : List Char} {fuel : Nat}
    (hValue : readValue range fuel input = some (value, '\x7d' :: rest)) :
    readFields range (fuel + 1) (renderText name ++ ':' :: input) =
      some ([(name, value)], rest) := by
  rw [renderText_append, readFields, skipLayout_cons _ (by decide)]
  simp [readText_flatMap_escapeChar, skipLayout_cons (c := ':') input (by decide), hValue,
    skipLayout_cons (c := '\x7d') rest (by decide)]

mutual

/-- A rendered value is read back with the rest of the input, if the fuel is at least its length. -/
theorem readValue_render {range : IntegerRange} : ∀ (value : JsonValue) (fuel : Nat)
    (rest : List Char), Rereads range value → FollowsValue rest → (render value).length ≤ fuel →
    readValue range fuel (render value ++ rest) = some (value, rest)
  | value, 0, rest, hValue, _, hFuel => by
    obtain ⟨c, tail, hRender, -⟩ := render_eq_cons hValue
    simp [hRender] at hFuel
  | .null, fuel + 1, rest, _, _, _ => by
    rw [render, List.cons_append, readValue, skipLayout_cons _ (by decide)]
    rfl
  | .bool b, fuel + 1, rest, _, _, _ => by
    cases b <;>
    · rw [render, List.cons_append, readValue, skipLayout_cons _ (by decide)]
      rfl
  | .integer n, fuel + 1, rest, hValue, hRest, _ => readValue_integer fuel n hValue hRest
  | .real x, fuel + 1, rest, hValue, _, _ => absurd hValue (by simp [Rereads])
  | .text s, fuel + 1, rest, _, _, _ => by
    rw [render, renderText, List.cons_append, List.cons_append, readValue,
      skipLayout_cons _ (by decide)]
    simp [readText_flatMap_escapeChar]
  | .list [], fuel + 1, rest, _, _, _ => by
    simp [render, renderItems, readValue, skipLayout, isLayout]
  | .list (item :: items), fuel + 1, rest, hValue, hRest, hFuel => by
    have hItems : ItemsReread range (item :: items) := hValue
    obtain ⟨c, tail, hStartsWith, hStart⟩ := renderItems_cons_eq_cons items hItems.1
    have hLength : (renderItems (item :: items)).length + 1 ≤ fuel := by
      simp only [render, List.length_cons, List.length_append] at hFuel
      simpa using hFuel
    have hRead := readItems_render (item :: items) fuel rest (by simp) hItems hLength
    rw [render, List.append_assoc, List.cons_append, readValue_list fuel hStartsWith hStart]
    simp only [List.singleton_append, hRead, Option.map_some]
  | .object [], fuel + 1, rest, _, _, _ => by
    simp [render, renderFields, readValue, skipLayout, isLayout]
  | .object (field :: fields), fuel + 1, rest, hValue, hRest, hFuel => by
    have hLength : (renderFields (field :: fields)).length + 1 ≤ fuel := by
      simp only [render, List.length_cons, List.length_append] at hFuel
      simpa using hFuel
    have hRead := readFields_render (field :: fields) fuel rest (by simp) hValue.2 hLength
    have hFold := foldl_setField [] (field :: fields) hValue.1
    rw [render, List.append_assoc, List.cons_append, readValue_object fuel]
    simp only [List.singleton_append, hRead, Option.map_some, hFold, List.nil_append]

/-- Rendered items are read back up to the bracket that closes their list. -/
theorem readItems_render {range : IntegerRange} : ∀ (items : List JsonValue) (fuel : Nat)
    (rest : List Char), items ≠ [] → ItemsReread range items →
    (renderItems items).length + 1 ≤ fuel →
    readItems range fuel (renderItems items ++ ']' :: rest) = some (items, rest)
  | [], _, _, hItems, _, _ => absurd rfl hItems
  | _, 0, _, _, _, hFuel => absurd hFuel (by simp)
  | [item], fuel + 1, rest, _, hItems, hFuel => by
    have hRead := readValue_render item fuel (']' :: rest) hItems.1
      (followsValue_cons rest (by simp)) (by simpa [renderItems] using hFuel)
    rw [renderItems, readItems, hRead]
    simp [skipLayout, isLayout]
  | item :: next :: items, fuel + 1, rest, _, hItems, hFuel => by
    have hLength : (render item).length + (renderItems (next :: items)).length + 1 ≤ fuel := by
      simp only [renderItems_cons_cons, List.length_append, List.length_cons] at hFuel
      omega
    have hRead := readValue_render item fuel (',' :: (renderItems (next :: items) ++ ']' :: rest))
      hItems.1 (followsValue_cons _ (by simp)) (by omega)
    have hOthers := readItems_render (next :: items) fuel rest (by simp) hItems.2 (by omega)
    rw [renderItems_cons_cons, List.append_assoc, List.cons_append, readItems, hRead]
    simp [skipLayout, isLayout, hOthers]

/-- Rendered fields are read back up to the brace that closes their object. -/
theorem readFields_render {range : IntegerRange} : ∀ (fields : List (String × JsonValue))
    (fuel : Nat) (rest : List Char), fields ≠ [] → FieldsReread range fields →
    (renderFields fields).length + 1 ≤ fuel →
    readFields range fuel (renderFields fields ++ '\x7d' :: rest) = some (fields, rest)
  | [], _, _, hFields, _, _ => absurd rfl hFields
  | _, 0, _, _, _, hFuel => absurd hFuel (by simp)
  | [(name, value)], fuel + 1, rest, _, hFields, hFuel => by
    have hRead := readValue_render value fuel ('\x7d' :: rest) hFields.1
      (followsValue_cons rest (by simp)) (by
        simp only [renderFields, List.length_append, List.length_cons] at hFuel
        omega)
    rw [renderFields, List.append_assoc, List.cons_append, readFields_last hRead]
  | (name, value) :: next :: fields, fuel + 1, rest, _, hFields, hFuel => by
    have hLength : (render value).length + (renderFields (next :: fields)).length + 1 ≤ fuel := by
      simp only [renderFields_cons_cons, List.length_append, List.length_cons] at hFuel
      omega
    have hRead := readValue_render value fuel
      (',' :: (renderFields (next :: fields) ++ '\x7d' :: rest)) hFields.1
      (followsValue_cons _ (by simp)) (by omega)
    have hOthers := readFields_render (next :: fields) fuel rest (by simp) hFields.2 (by omega)
    rw [renderFields_cons_cons, List.append_assoc, List.cons_append, List.append_assoc,
      List.cons_append, readFields_field hRead hOthers]

end

/-- A text is read as a value if nothing is left over. The fuel is twice the length of the text,
since a level of nesting takes two rounds and at least one character. -/
theorem read?_of_readValue {range : IntegerRange} {text : String} {value : JsonValue}
    (hRead : readValue range (2 * text.toList.length + 2) text.toList = some (value, [])) :
    read? range text = some value := by
  rw [read?, hRead]
  rfl

/-- A value is read back from its written form, if its integers are in the range and its objects
have no name twice. -/
theorem read?_render {range : IntegerRange} {value : JsonValue} (hValue : Rereads range value) :
    read? range (String.ofList (render value)) = some value := by
  apply read?_of_readValue
  rw [String.toList_ofList]
  have hRead := readValue_render value (2 * (render value).length + 2) [] hValue .nil (by omega)
  rwa [List.append_nil] at hRead

/-! Control characters -/

/-- Characters that are no controls, so that none of them ends a line. -/
def Printable (chars : List Char) : Prop := ∀ c ∈ chars, 32 ≤ c.toNat

/-- Texts are printable together if each of them is. -/
theorem printable_append {first second : List Char} :
    Printable (first ++ second) ↔ Printable first ∧ Printable second := by
  simp only [Printable, List.mem_append]
  grind

theorem printable_cons {c : Char} {rest : List Char} :
    Printable (c :: rest) ↔ 32 ≤ c.toNat ∧ Printable rest := by
  simp [Printable]

/-- Control characters are escaped, so that what is written is printable. -/
theorem printable_escapeChar (c : Char) : Printable (escapeChar c) := by
  have hHex : ∀ n < 16, 32 ≤ (hexDigit n).toNat := by decide
  unfold escapeChar
  split_ifs with hQuote hBackslash hPrintable
  · simp [Printable]
  · simp [Printable]
  · simpa [Printable] using hPrintable
  all_goals simp only [Printable, List.mem_cons, List.not_mem_nil, or_false]
  all_goals rintro d (rfl | rfl | rfl | rfl | rfl | rfl)
  all_goals first | decide | exact hHex _ (by omega)

theorem printable_renderText (s : String) : Printable (renderText s) := by
  have hChars : Printable (s.toList.flatMap escapeChar) := by
    intro d hd
    obtain ⟨c, -, hc⟩ := List.mem_flatMap.mp hd
    exact printable_escapeChar c d hc
  have hQuote : Printable ['"'] := by simp [Printable]
  exact printable_append.mpr ⟨printable_cons.mpr ⟨by decide, hChars⟩, hQuote⟩

theorem printable_toDigits (n : Nat) : Printable (Nat.toDigits 10 n) := by
  intro c hc
  have hDigit := Char.isDigit_iff_toNat.mp (Nat.isDigit_of_mem_toDigits (by decide) (by decide) hc)
  have hZero : '0'.toNat = 48 := rfl
  omega

theorem printable_render_integer (n : Int) : Printable (render (.integer n)) := by
  obtain ⟨m, rfl | rfl⟩ := n.eq_nat_or_neg
  · rw [render_ofNat]
    exact printable_toDigits m
  · by_cases hPositive : 0 < m
    · rw [render_neg m hPositive]
      exact printable_cons.mpr ⟨by decide, printable_toDigits m⟩
    · obtain rfl : m = 0 := by omega
      exact printable_toDigits 0

mutual

/-- No control character stands in a rendered value, hence no line end either. -/
theorem printable_render {range : IntegerRange} :
    ∀ value : JsonValue, Rereads range value → Printable (render value)
  | .null, _ => by simp [render, Printable]
  | .bool b, _ => by cases b <;> simp [render, Printable]
  | .integer n, _ => printable_render_integer n
  | .real x, hValue => absurd hValue (by simp [Rereads])
  | .text s, _ => by
    rw [render]
    exact printable_renderText s
  | .list items, hValue => by
    rw [render]
    refine printable_append.mpr ⟨printable_cons.mpr ⟨by decide, ?_⟩, by simp [Printable]⟩
    exact printable_renderItems items hValue
  | .object fields, hValue => by
    rw [render]
    refine printable_append.mpr ⟨printable_cons.mpr ⟨by decide, ?_⟩, by simp [Printable]⟩
    exact printable_renderFields fields hValue.2

theorem printable_renderItems {range : IntegerRange} :
    ∀ items : List JsonValue, ItemsReread range items → Printable (renderItems items)
  | [], _ => by simp [renderItems, Printable]
  | [item], hItems => by
    rw [renderItems]
    exact printable_render item hItems.1
  | item :: next :: items, hItems => by
    rw [renderItems_cons_cons]
    exact printable_append.mpr ⟨printable_render item hItems.1,
      printable_cons.mpr ⟨by decide, printable_renderItems (next :: items) hItems.2⟩⟩

theorem printable_renderFields {range : IntegerRange} :
    ∀ fields : List (String × JsonValue), FieldsReread range fields →
      Printable (renderFields fields)
  | [], _ => by simp [renderFields, Printable]
  | [(name, value)], hFields => by
    rw [renderFields]
    exact printable_append.mpr ⟨printable_renderText name,
      printable_cons.mpr ⟨by decide, printable_render value hFields.1⟩⟩
  | (name, value) :: next :: fields, hFields => by
    rw [renderFields_cons_cons]
    exact printable_append.mpr ⟨printable_renderText name,
      printable_cons.mpr ⟨by decide, printable_append.mpr ⟨printable_render value hFields.1,
        printable_cons.mpr ⟨by decide, printable_renderFields (next :: fields) hFields.2⟩⟩⟩⟩

end

end CodeIndex.JsonValue
