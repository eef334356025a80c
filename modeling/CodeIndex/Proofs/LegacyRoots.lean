import CodeIndex.Proofs.ByteLines
import CodeIndex.Proofs.LoadOutcome

/-! The root paths of older snapshots. Up to format two the length of what follows is told, so that
the paths may be spread over lines; later they are a line of their own. Whatever follows the paths
does not matter. -/
namespace CodeIndex.Snapshot

open JsonValue

/-! Numbers in bytes -/

/-- The decimal digits of a number. -/
def numeral (number : Nat) : List UInt8 := Utf8.encode (toString number)

theorem toNat_of_isDigit {c : Char} (hDigit : c.isDigit = true) : 48 ≤ c.toNat ∧ c.toNat ≤ 57 :=
  Char.isDigit_iff_toNat.mp hDigit

theorem toNat_of_mem_toDigits {number : Nat} {c : Char} (hMem : c ∈ Nat.toDigits 10 number) :
    48 ≤ c.toNat ∧ c.toNat ≤ 57 ∧ (UInt8.ofNat c.toNat).toNat = c.toNat := by
  have hCode := toNat_of_isDigit (Nat.isDigit_of_mem_toDigits (by decide) (by decide) hMem)
  rw [UInt8.toNat_ofNat']
  omega

/-- Each digit of a numeral is one byte. -/
theorem numeral_eq (number : Nat) :
    numeral number = (Nat.toDigits 10 number).map fun c => UInt8.ofNat c.toNat := by
  rw [numeral, Utf8.encode_eq_encodeChars, Nat.toString_eq_repr, Nat.toList_repr]
  apply Utf8.encodeChars_of_ascii
  intro c hMem
  have hCode := toNat_of_mem_toDigits hMem
  omega

theorem isNumeral_numeral (number : Nat) : IsNumeral (numeral number) := by
  rw [numeral_eq]
  refine ⟨by simp, ?_⟩
  intro byte hMem
  obtain ⟨c, hDigit, rfl⟩ := List.mem_map.mp hMem
  have hCode := toNat_of_mem_toDigits hDigit
  omega

theorem numeralValue_numeral (number : Nat) : numeralValue (numeral number) = number := by
  rw [numeralValue_eq_foldl, numeral_eq, List.map_map, List.foldl_map]
  refine Eq.trans ?_ (decimalValue_toDigits number)
  rw [decimalValue]
  apply List.foldl_ext
  intro value c hMem
  rw [Function.comp_apply, (toNat_of_mem_toDigits hMem).2.2]
  rfl

/-- A numeral is within the limit of digits exactly if its number is within the power of ten. -/
theorem length_numeral_le_iff (number : Nat) :
    (numeral number).length ≤ IntegerText.digitLimit ↔ number < 10 ^ IntegerText.digitLimit := by
  rw [numeral_eq, List.length_map]
  exact Nat.length_toDigits_le_iff (by decide) (by decide)

/-- What is trimmed stands on both sides of what is left. -/
theorem trim_append {α : Type} {test : α → Bool} {before text after : List α}
    (hBefore : ∀ item ∈ before, test item = true) (hText : ∀ item ∈ text, test item = false)
    (hAfter : ∀ item ∈ after, test item = true) : trim test (before ++ text ++ after) = text := by
  have hDrop {items : List α} (hItems : ∀ item ∈ items, test item = false) (rest : List α)
      (hNe : items ≠ []) : (items ++ rest).dropWhile test = items ++ rest := by
    obtain ⟨first, others, rfl⟩ := List.exists_cons_of_ne_nil hNe
    rw [List.cons_append, List.dropWhile_cons_of_neg (by simp [hItems first List.mem_cons_self])]
  rw [trim, trimEnd, List.append_assoc, List.dropWhile_append_of_pos hBefore]
  by_cases hNe : text = []
  · rw [hNe, List.nil_append, List.dropWhile_eq_nil_iff.mpr hAfter]
    rfl
  · have hReverse := hDrop (fun item hMem => hText item (List.mem_reverse.mp hMem)) []
      (List.reverse_ne_nil_iff.mpr hNe)
    rw [List.append_nil] at hReverse
    rw [hDrop hText after hNe, List.reverse_append,
      List.dropWhile_append_of_pos fun item hMem => hAfter item (List.mem_reverse.mp hMem),
      hReverse, List.reverse_reverse]

/-- There are no blanks around digits. -/
theorem trim_of_isDigit {text : List Char} (hDigits : ∀ c ∈ text, c.isDigit = true) :
    trim IntegerText.isMargin text = text := by
  have hMargin : ∀ c ∈ text, IntegerText.isMargin c = false := by
    intro c hMem
    have hCode := toNat_of_isDigit (hDigits c hMem)
    rw [IntegerText.isMargin, if_pos (by omega)]
    simp only [Bool.or_eq_false_iff, beq_eq_false_iff_ne, Bool.and_eq_false_iff,
      decide_eq_false_iff_not]
    omega
  simpa using @trim_append _ IntegerText.isMargin [] text [] nofun hMargin nofun

/-- A numeral is read as its value, unless it is too long. -/
theorem read?_asciiText {bytes : List UInt8} (hNumeral : IsNumeral bytes) :
    IntegerText.read? (asciiText bytes) =
      if bytes.length ≤ IntegerText.digitLimit then some (Int.ofNat (numeralValue bytes))
      else none := by
  have hDigits : ∀ c ∈ asciiText bytes, c.isDigit = true := by
    have hAll := (isNumeral_iff bytes).mp hNumeral
    simpa using (Bool.or_eq_false_iff.mp hAll).2
  -- a sign is no digit, so that all bytes are read as digits
  have hSign {sign : Char} (hOther : sign.isDigit = false) (rest : List Char) :
      asciiText bytes ≠ sign :: rest := by
    intro hText
    have hDigit := hDigits sign (hText ▸ List.mem_cons_self)
    rw [hOther] at hDigit
    cases hDigit
  rw [IntegerText.read?, trim_of_isDigit hDigits]
  split
  · next hText => exact absurd hText (hSign (by decide) _)
  · next hText => exact absurd hText (hSign (by decide) _)
  · rw [magnitude?_asciiText hNumeral, apply_ite (Option.map Int.ofNat)]
    rfl

/-! Numbers on lines of their own -/

/-- A line that holds a number, with spaces and tabs on both sides. -/
structure NumberLine (number : Nat) where
  before : List UInt8
  after : List UInt8
  isBlankBefore : ∀ byte ∈ before, byte = 32 ∨ byte = 9
  isBlankAfter : ∀ byte ∈ after, byte = 32 ∨ byte = 9

namespace NumberLine

variable {number : Nat}

/-- The bytes of the line without its end. -/
def bytes (line : NumberLine number) : List UInt8 := line.before ++ numeral number ++ line.after

theorem isBlankByte_of_mem_numeral {byte : UInt8} (hMem : byte ∈ numeral number) :
    isBlankByte byte = false := by
  have hDigit := (isNumeral_numeral number).2 byte hMem
  simp only [isBlankByte, Bool.or_eq_false_iff, beq_eq_false_iff_ne, Bool.and_eq_false_iff,
    decide_eq_false_iff_not, UInt8.le_iff_toNat_le, ← UInt8.toNat_inj, ne_eq]
  have hSpace : (32 : UInt8).toNat = 32 := rfl
  have hReturn : (13 : UInt8).toNat = 13 := rfl
  omega

theorem isBlankByte_of_margin {byte : UInt8} (hByte : byte = 32 ∨ byte = 9) :
    isBlankByte byte = true := by
  rcases hByte with rfl | rfl <;> rfl

/-- What is left of a line with a number is the numeral. -/
theorem stripBytes_bytes (line : NumberLine number) : stripBytes line.bytes = numeral number :=
  trim_append (fun byte hMem => isBlankByte_of_margin (line.isBlankBefore byte hMem))
    (fun _ hMem => isBlankByte_of_mem_numeral hMem)
    (fun byte hMem => isBlankByte_of_margin (line.isBlankAfter byte hMem))

/-- Such a line is one line. -/
theorem lineFeed_not_mem_bytes (line : NumberLine number) : (10 : UInt8) ∉ line.bytes := by
  have hMargin : ¬((10 : UInt8) = 32 ∨ (10 : UInt8) = 9) := by decide
  simp only [bytes, List.mem_append, not_or]
  refine ⟨⟨fun hMem => hMargin (line.isBlankBefore _ hMem), fun hMem => ?_⟩,
    fun hMem => hMargin (line.isBlankAfter _ hMem)⟩
  exact absurd (isBlankByte_of_mem_numeral hMem) (by decide)

/-- The tag on such a line is read as its number, unless it is too long. -/
theorem readTag_bytes (line : NumberLine number) :
    readTag line.bytes =
      if number < 10 ^ IntegerText.digitLimit then .ok number else .error .malformedInteger := by
  rw [readTag_eq, stripBytes_bytes, if_pos (isNumeral_numeral number), numeralValue_numeral]
  exact if_congr (length_numeral_le_iff number) rfl rfl

/-- The number on such a line is read, unless it is too long. -/
theorem read?_bytes (line : NumberLine number) :
    IntegerText.read? (asciiText (stripBytes line.bytes)) =
      if number < 10 ^ IntegerText.digitLimit then some (Int.ofNat number) else none := by
  rw [stripBytes_bytes, read?_asciiText (isNumeral_numeral number), numeralValue_numeral]
  exact if_congr (length_numeral_le_iff number) rfl rfl

end NumberLine

/-! The root paths -/

variable {paths : List String} {json : String} {tag : Nat}

/-- A text that holds a list of paths is read from its bytes. -/
theorem readJson_encode (hJson : read? .word64 json = some (.list (paths.map .text))) :
    readJson (Utf8.encode json) = .ok (.list (paths.map .text)) := by
  rw [readJson, Utf8.encode, fromUTF8?_utf8]
  simp only [hJson]

/-- As many bytes as the text has are cut off from what follows. -/
theorem prefixOf_encode (json : String) (rest : List UInt8) :
    prefixOf (Utf8.encode json ++ rest) (Int.ofNat json.utf8ByteSize) = Utf8.encode json := by
  have hLength : 0 ≤ Int.ofNat json.utf8ByteSize := Int.natCast_nonneg _
  rw [prefixOf, if_pos hLength, ← Utf8.length_encode]
  exact List.take_left

theorem lt_pow_digitLimit {number : Nat} (hSmall : number < IntegerText.digitLimit) :
    number < 10 ^ IntegerText.digitLimit :=
  hSmall.trans (Nat.lt_pow_self (by decide))

/-- A tag below the present format leads to the root paths. -/
theorem decode_eq_decodeLegacy (hTag : tag < format) (tagLine : NumberLine tag)
    (rest : List UInt8) : decode (tagLine.bytes ++ 10 :: rest) = decodeLegacy tag rest := by
  have hSmall := lt_pow_digitLimit (hTag.trans (by decide))
  have hRead := tagLine.readTag_bytes.trans (if_pos hSmall)
  rw [decode_append rest tagLine.lineFeed_not_mem_bytes hRead, if_neg (Nat.lt_asymm hTag),
    if_neg (Nat.ne_of_lt hTag)]

/-- The length tells where the text ends, whatever it holds and whatever follows. -/
theorem legacyValue_of_length (hTag : tag ≤ 2) (lengthLine : NumberLine json.utf8ByteSize)
    (rest : List UInt8) :
    legacyValue tag (lengthLine.bytes ++ 10 :: (Utf8.encode json ++ rest)) =
      if json.utf8ByteSize < 10 ^ IntegerText.digitLimit then readJson (Utf8.encode json)
      else .error .malformedInteger := by
  rw [legacyValue, if_pos hTag, splitLine_append _ lengthLine.lineFeed_not_mem_bytes,
    lengthLine.read?_bytes]
  split_ifs
  · simp only [prefixOf_encode]
  · rfl

/-- A text on one line ends with the line. -/
theorem legacyValue_of_line (hTag : 2 < tag) (hLine : '\n' ∉ json.toList) (rest : List UInt8) :
    legacyValue tag (Utf8.encode json ++ 10 :: rest) = readJson (Utf8.encode json) := by
  have hFeed : (10 : UInt8) ∉ Utf8.encode json := by
    rw [Utf8.encode_eq_encodeChars]
    exact Utf8.lineFeed_not_mem_encodeChars hLine
  rw [legacyValue, if_neg (Nat.not_le.mpr hTag), splitLine_append rest hFeed]

/-- Paths that were read are displayed as they are. -/
theorem items_display (tag : Nat) (paths : List String) :
    ((JsonValue.list (paths.map .text)).items >>= fun items =>
      .ok (.legacy tag (items.map display)) : Except Failure Snapshot) =
      .ok (.legacy tag paths) := by
  have hDisplay : (paths.map JsonValue.text).map display = paths := by
    rw [List.map_map]
    exact List.map_id' paths
  rw [items, ok_bind, hDisplay]

/-- The root paths come back from every text that holds them. In the first two formats the text
stands behind a line with its length in bytes, and only a length of more than 4300 digits, which no
text in any memory has, could not be read. In the next two formats it is a line of its own. -/
theorem decode_legacy_roots (hJson : read? .word64 json = some (.list (paths.map .text)))
    (rest : List UInt8) :
    (∀ tag, tag = 1 ∨ tag = 2 → ∀ (tagLine : NumberLine tag)
      (lengthLine : NumberLine json.utf8ByteSize),
      decode (tagLine.bytes ++ 10 :: (lengthLine.bytes ++ 10 :: (Utf8.encode json ++ rest))) =
        if json.utf8ByteSize < 10 ^ IntegerText.digitLimit then .ok (.legacy tag paths)
        else .error .malformedInteger) ∧
    ('\n' ∉ json.toList → ∀ tag, tag = 3 ∨ tag = 4 → ∀ tagLine : NumberLine tag,
      decode (tagLine.bytes ++ 10 :: (Utf8.encode json ++ 10 :: rest)) =
        .ok (.legacy tag paths)) := by
  have hRead := readJson_encode hJson
  constructor
  · intro tag hTag tagLine lengthLine
    rw [decode_eq_decodeLegacy (by rw [format]; omega) tagLine, decodeLegacy_eq,
      legacyValue_of_length (by omega) lengthLine, hRead]
    split_ifs
    · rw [ok_bind, items_display]
    · rfl
  · intro hLine tag hTag tagLine
    rw [decode_eq_decodeLegacy (by rw [format]; omega) tagLine, decodeLegacy_eq,
      legacyValue_of_line (by omega) hLine, hRead, ok_bind, items_display]

/-- A list may go on over lines, so that its length has to be counted and lines do not end it. -/
theorem read?_brokenLine : read? .word64 "[\n\"ä\"]" = some (.list [.text "ä"]) := by
  have hItems := @readItems_render .word64 [.text "ä"] 13 [] (by simp)
    (by simp [ItemsReread, Rereads]) (by decide)
  have hRest : renderItems [.text "ä"] ++ [']'] = ['"', 'ä', '"', ']'] := by decide
  rw [hRest] at hItems
  apply read?_of_readValue
  change readValue .word64 14 ['[', '\n', '"', 'ä', '"', ']'] = _
  have hLayout : skipLayout ['\n', '"', 'ä', '"', ']'] = ['"', 'ä', '"', ']'] := by decide
  rw [readValue, skipLayout_cons _ (by decide)]
  simp only [hLayout]
  change (readItems .word64 13 _).bind (fun found => some (list found.1, found.2)) = _
  rw [hItems]
  rfl

/-- A path that is no ASCII text, in a text of two lines and in one of a single line. -/
theorem umlautPath_roots :
    read? .word64 "[\n\"ä\"]" = some (.list [.text "ä"]) ∧
    decode ([32, 50, 9, 10, 55, 9, 10] ++ (Utf8.encode "[\n\"ä\"]" ++ [255])) =
      .ok (.legacy 2 ["ä"]) ∧
    read? .word64 "[\"ä\"]" = some (.list [.text "ä"]) ∧ '\n' ∉ "[\"ä\"]".toList ∧
    decode ([9, 51, 10] ++ (Utf8.encode "[\"ä\"]" ++ [10, 255])) = .ok (.legacy 3 ["ä"]) := by
  have hLine : read? .word64 "[\"ä\"]" = some (.list [.text "ä"]) :=
    @read?_render .word64 (.list [.text "ä"]) (by simp [ItemsReread, Rereads])
  have hFeed : '\n' ∉ "[\"ä\"]".toList := by decide
  refine ⟨read?_brokenLine, ?_, hLine, hFeed, ?_⟩
  · have hRoots := (@decode_legacy_roots ["ä"] _ read?_brokenLine [255]).1 2 (.inr rfl)
      ⟨[32], [9], by simp, by simp⟩ ⟨[], [9], by simp, by simp⟩
    rw [if_pos (lt_pow_digitLimit (by decide))] at hRoots
    exact hRoots
  · exact (@decode_legacy_roots ["ä"] _ hLine [255]).2 hFeed 3 (.inl rfl)
      ⟨[9], [], by simp, by simp⟩

end CodeIndex.Snapshot
