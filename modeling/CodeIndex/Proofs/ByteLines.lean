import CodeIndex.Proofs.SnapshotRoundTrip
import CodeIndex.Text.Utf8

/-! The bytes of texts and of lines. A line feed is one byte that stands in no other character, so
that bytes fall into lines as the text does. -/
namespace CodeIndex

namespace Utf8

/-- The bytes of characters. -/
def encodeChars (chars : List Char) : List UInt8 := chars.flatMap String.utf8EncodeChar

/-- The bytes of a text are those of its characters in turn. -/
theorem encode_eq_encodeChars (text : String) : encode text = encodeChars text.toList := by
  conv_lhs => rw [← String.ofList_toList (s := text)]
  exact Snapshot.utf8_ofList text.toList

@[simp]
theorem encodeChars_append (first second : List Char) :
    encodeChars (first ++ second) = encodeChars first ++ encodeChars second :=
  List.flatMap_append

theorem encodeChars_cons (c : Char) (rest : List Char) :
    encodeChars (c :: rest) = String.utf8EncodeChar c ++ encodeChars rest :=
  List.flatMap_cons

theorem encode_append (first second : String) :
    encode (first ++ second) = encode first ++ encode second := by
  simp only [encode_eq_encodeChars, String.toList_append, encodeChars_append]

/-- The number of bytes is the size of the text. -/
theorem length_encode (text : String) : (encode text).length = text.utf8ByteSize := by
  rw [encode, ← String.size_toByteArray]
  rfl

/-- An ASCII character is one byte, and all bytes of any other character are above ASCII. -/
theorem utf8EncodeChar_cases (c : Char) :
    (c.toNat < 128 ∧ String.utf8EncodeChar c = [UInt8.ofNat c.toNat]) ∨
      (128 ≤ c.toNat ∧ String.utf8EncodeChar c ≠ [] ∧
        ∀ byte ∈ String.utf8EncodeChar c, 128 ≤ byte.toNat) := by
  have hValue : c.val.toNat = c.toNat := rfl
  by_cases hAscii : c.toNat < 128
  · refine .inl ⟨hAscii, ?_⟩
    rw [String.utf8EncodeChar, hValue]
    exact if_pos (by omega)
  · refine .inr ⟨by omega, ?_⟩
    have hHigh {n : Nat} (hLow : 128 ≤ n) (hSmall : n < 256) : 128 ≤ (UInt8.ofNat n).toNat := by
      rw [UInt8.toNat_ofNat']
      omega
    have hMax : c.val.toNat < 0x110000 := by
      rcases c.valid with hValid | hValid
      · exact lt_trans hValid (by decide)
      · exact hValid.2
    unfold String.utf8EncodeChar
    dsimp only
    split_ifs with hOne hTwo hThree
    · omega
    · simp only [ne_eq, reduceCtorEq, not_false_eq_true, List.mem_cons, List.not_mem_nil, or_false,
        forall_eq_or_imp, forall_eq, true_and]
      exact ⟨hHigh (by omega) (by omega), hHigh (by omega) (by omega)⟩
    · simp only [ne_eq, reduceCtorEq, not_false_eq_true, List.mem_cons, List.not_mem_nil, or_false,
        forall_eq_or_imp, forall_eq, true_and]
      exact ⟨hHigh (by omega) (by omega), hHigh (by omega) (by omega), hHigh (by omega) (by omega)⟩
    · simp only [ne_eq, reduceCtorEq, not_false_eq_true, List.mem_cons, List.not_mem_nil, or_false,
        forall_eq_or_imp, forall_eq, true_and]
      exact ⟨hHigh (by omega) (by omega), hHigh (by omega) (by omega), hHigh (by omega) (by omega),
        hHigh (by omega) (by omega)⟩

/-- An ASCII character is one byte. -/
theorem encodeChars_of_ascii {chars : List Char} (hChars : ∀ c ∈ chars, c.toNat < 128) :
    encodeChars chars = chars.map fun c => UInt8.ofNat c.toNat := by
  induction chars with
  | nil => rfl
  | cons c rest ih =>
    have hAscii := hChars c List.mem_cons_self
    rcases utf8EncodeChar_cases c with ⟨-, hByte⟩ | ⟨hLarge, -⟩
    · rw [encodeChars_cons, hByte, ih fun d hd => hChars d (List.mem_cons_of_mem _ hd)]
      rfl
    · omega

/-- Only a line feed has the byte of a line feed. -/
theorem lineFeed_not_mem_encodeChars {chars : List Char} (hChars : '\n' ∉ chars) :
    (10 : UInt8) ∉ encodeChars chars := by
  rw [encodeChars, List.mem_flatMap]
  rintro ⟨c, hc, hByte⟩
  rcases utf8EncodeChar_cases c with ⟨hAscii, hBytes⟩ | ⟨-, -, hHigh⟩
  · rw [hBytes, List.mem_singleton] at hByte
    have hCode : c.toNat = 10 := by
      have hNat := congrArg UInt8.toNat hByte
      rw [UInt8.toNat_ofNat'] at hNat
      have hTen : (10 : UInt8).toNat = 10 := rfl
      omega
    have hFeed : c = '\n' := Char.toNat_inj.mp hCode
    exact hChars (hFeed ▸ hc)
  · have hTen := hHigh 10 hByte
    exact absurd hTen (by decide)

/-- Bytes start with that of an ASCII character exactly if the characters start with it. -/
theorem cons_prefix_encodeChars_iff {ascii : Char} (hAscii : ascii.toNat < 128)
    {start : List UInt8} {chars : List Char} :
    UInt8.ofNat ascii.toNat :: start <+: encodeChars chars ↔
      ∃ rest, chars = ascii :: rest ∧ start <+: encodeChars rest := by
  have hByte {n : Nat} (hSmall : n < 128) : (UInt8.ofNat n).toNat = n := by
    rw [UInt8.toNat_ofNat']
    omega
  cases chars with
  | nil => simp [encodeChars]
  | cons c rest =>
    rw [encodeChars_cons]
    rcases utf8EncodeChar_cases c with ⟨hSmall, hBytes⟩ | ⟨hLarge, hFilled, hHigh⟩
    · rw [hBytes, List.singleton_append, List.cons_prefix_cons]
      have hSame : UInt8.ofNat ascii.toNat = UInt8.ofNat c.toNat ↔ c = ascii := by
        rw [← UInt8.toNat_inj, hByte hAscii, hByte hSmall, Char.toNat_inj, eq_comm]
      simp [hSame]
    · obtain ⟨first, others, hFirst⟩ := List.exists_cons_of_ne_nil hFilled
      have hFirstHigh := hHigh first (by rw [hFirst]; exact List.mem_cons_self)
      rw [hFirst, List.cons_append, List.cons_prefix_cons]
      constructor
      · rintro ⟨hEq, -⟩
        rw [← hEq, hByte hAscii] at hFirstHigh
        omega
      · rintro ⟨others, hChars, -⟩
        rw [(List.cons.inj hChars).1] at hLarge
        omega

end Utf8

/-- The lines of bytes. If the last one is ended there is an empty one after it. -/
def byteLines (bytes : List UInt8) : List (List UInt8) := bytes.splitOn 10

/-- The bytes of lines, each with a line feed at its end. -/
def lineBytes (lines : List String) : List UInt8 :=
  lines.flatMap fun line => Utf8.encode line ++ [10]

/-- Each line is followed by a line feed. -/
theorem lineBytes_cons (line : String) (lines : List String) :
    lineBytes (line :: lines) = Utf8.encode line ++ [10] ++ lineBytes lines :=
  List.flatMap_cons

theorem lineBytes_append (first second : List String) :
    lineBytes (first ++ second) = lineBytes first ++ lineBytes second :=
  List.flatMap_append

/-- A line feed parts the lines before it from those after it. -/
theorem byteLines_append (first rest : List UInt8) :
    byteLines (first ++ 10 :: rest) = byteLines first ++ byteLines rest :=
  List.splitOnP_append_cons first rest rfl

theorem byteLines_of_not_mem {bytes : List UInt8} (hBytes : (10 : UInt8) ∉ bytes) :
    byteLines bytes = [bytes] := by
  have hSplit : ([10].intercalate [bytes]).splitOn 10 = [bytes] :=
    List.splitOn_intercalate 10 (by simpa using hBytes) (by simp)
  rw [byteLines]
  simpa using hSplit

/-- No character but the line feed has a byte of that value, so a text that is one line is so in
bytes. -/
theorem byteLines_encode {text : String} (hText : '\n' ∉ text.toList) :
    byteLines (Utf8.encode text) = [Utf8.encode text] := by
  rw [Utf8.encode_eq_encodeChars]
  exact byteLines_of_not_mem (Utf8.lineFeed_not_mem_encodeChars hText)

/-- Lines are found again in their bytes. -/
theorem byteLines_lineBytes {lines : List String} (hLines : ∀ line ∈ lines, '\n' ∉ line.toList)
    (rest : List UInt8) :
    byteLines (lineBytes lines ++ rest) = lines.map Utf8.encode ++ byteLines rest := by
  induction lines with
  | nil => rfl
  | cons line lines ih =>
    rw [lineBytes_cons, List.append_assoc, List.append_assoc, List.singleton_append,
      byteLines_append, byteLines_encode (hLines line List.mem_cons_self),
      ih fun other hOther => hLines other (List.mem_cons_of_mem _ hOther)]
    rfl

end CodeIndex
