namespace CodeIndex.Utf8

/-- How many bytes follow a lead byte, the bits of the code that it carries, and the least and the
greatest second byte. -/
structure Lead where
  count : Nat
  bits : Nat
  low : UInt8 := 0x80
  high : UInt8 := 0xbf

/-- What a byte of 128 or more starts, if it can start a character. -/
def lead? (byte : UInt8) : Option Lead :=
  if 0xc2 ≤ byte && byte ≤ 0xdf then some { count := 1, bits := byte.toNat - 0xc0 }
  else if byte = 0xe0 then some { count := 2, bits := 0, low := 0xa0 }
  else if byte = 0xed then some { count := 2, bits := 0xd, high := 0x9f }
  else if 0xe1 ≤ byte && byte ≤ 0xef then some { count := 2, bits := byte.toNat - 0xe0 }
  else if byte = 0xf0 then some { count := 3, bits := 0, low := 0x90 }
  else if byte = 0xf4 then some { count := 3, bits := 4, high := 0x8f }
  else if 0xf1 ≤ byte && byte ≤ 0xf3 then some { count := 3, bits := byte.toNat - 0xf0 }
  else none

/-- What the bytes before a place leave open: nothing, or a character with so many bytes to come,
its code so far, and the bounds of the next byte. -/
inductive Progress where
  | between
  | within (count code : Nat) (low high : UInt8)

/-- The characters that start at a byte which starts something new, and what it leaves open. -/
def begin (byte : UInt8) : List Char × Progress :=
  if byte < 0x80 then ([Char.ofNat byte.toNat], .between)
  else match lead? byte with
    | some lead => ([], .within lead.count lead.bits lead.low lead.high)
    | none => (['\ufffd'], .between)

/-- Decodes bytes. The longest start of a character that does not go on as it should becomes one
replacement character, and so does any other byte that has no place in a text. -/
def decodeFrom : Progress → List UInt8 → List Char
  | .between, [] => []
  | .within _ _ _ _, [] => ['\ufffd']
  | .between, byte :: rest =>
    let (found, progress) := begin byte
    found ++ decodeFrom progress rest
  | .within count code low high, byte :: rest =>
    if low ≤ byte && byte ≤ high then
      let code := code * 64 + (byte.toNat - 0x80)
      if count ≤ 1 then Char.ofNat code :: decodeFrom .between rest
      else decodeFrom (.within (count - 1) code 0x80 0xbf) rest
    else
      let (found, progress) := begin byte
      '\ufffd' :: found ++ decodeFrom progress rest

/-- The text of bytes, with replacement characters for what is no text. -/
def decode (bytes : List UInt8) : List Char := decodeFrom .between bytes

/-- The bytes of a text. -/
def encode (text : String) : List UInt8 := text.toUTF8.data.toList

end CodeIndex.Utf8
