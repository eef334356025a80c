import CodeIndex.Gzip.Checksum
import CodeIndex.Gzip.Inflate

/-! The gzip container: a header, compressed data, and a trailer with a checksum and the length of
the content. -/
namespace CodeIndex.Gzip

/-- The bytes of a number, the lowest one first. -/
def littleEndian : (count : Nat) → Nat → List UInt8
  | 0, _ => []
  | count + 1, number => UInt8.ofNat (number % 256) :: littleEndian count (number / 256)

/-- The number of bytes, the lowest one first. -/
def ofLittleEndian : List UInt8 → Nat
  | [] => 0
  | byte :: rest => byte.toNat + 256 * ofLittleEndian rest

/-- The two bytes that a container starts with. -/
def signature : List UInt8 := [0x1f, 0x8b]

/-- The most bytes of a stored block. -/
def blockLimit : Nat := 65535

/-- Content in stored blocks, of which the last one is marked. -/
def storedBlocks : (fuel : Nat) → List UInt8 → List UInt8
  | 0, _ => []
  | fuel + 1, content =>
    let block := content.take blockLimit
    let rest := content.drop blockLimit
    let head : List UInt8 := [if rest.isEmpty then 1 else 0]
    let frame := littleEndian 2 block.length ++ littleEndian 2 (0xffff - block.length)
    head ++ frame ++ block ++ if rest.isEmpty then [] else storedBlocks fuel rest

/-- Packs content into a container. -/
def pack (content : List UInt8) : List UInt8 :=
  signature ++ [8, 0, 0, 0, 0, 0, 0, 255] ++ storedBlocks (content.length + 1) content
    ++ littleEndian 4 (checksum content).toNat ++ littleEndian 4 content.length

/-- Takes a number of bytes that have to be there. -/
def takeExactly (count : Nat) (bytes : List UInt8) :
    Except Failure (List UInt8 × List UInt8) :=
  if bytes.length < count then .error .truncatedData
  else .ok (bytes.take count, bytes.drop count)

/-- Passes over a text that ends in a zero byte. -/
def skipText (bytes : List UInt8) : List UInt8 := (bytes.dropWhile (· ≠ 0)).drop 1

/-- Whether a bit of the flags is set. -/
def hasFlag (flags : Nat) (bit : Nat) : Bool := flags / Nat.pow 2 bit % 2 = 1

/-- Passes over the header after its signature. It may have more data, a name, a comment and a
checksum of its own. -/
def skipHeader (bytes : List UInt8) : Except Failure (List UInt8) := do
  let (head, rest) ← takeExactly 8 bytes
  unless head.head? = some 8 do throw (.corruptContainer "Unknown compression method")
  let flags := (head.getD 1 0).toNat
  let rest ← if hasFlag flags 2 then do
      let (size, rest) ← takeExactly 2 rest
      pure (← takeExactly (ofLittleEndian size) rest).2
    else pure rest
  let rest := if hasFlag flags 3 then skipText rest else rest
  let rest := if hasFlag flags 4 then skipText rest else rest
  if hasFlag flags 1 then return (← takeExactly 2 rest).2 else return rest

/-- A number in hexadecimal digits, as messages show it. -/
def hexText (number : Nat) : String :=
  "0x" ++ String.ofList ((Nat.toDigits 16 number))

/-- Unpacks the parts of a container one after the other. There may be zero bytes between them. -/
def unpackParts : (fuel : Nat) → List UInt8 → Except Failure (List UInt8)
  | 0, _ => .ok []
  | fuel + 1, bytes => do
    if bytes.isEmpty then return []
    unless bytes.take 2 = signature do throw (.notCompressed (bytes.take 2))
    let body ← skipHeader (bytes.drop 2)
    let (content, rest) ← inflate body
    let (trailer, rest) ← takeExactly 8 rest
    let stored := ofLittleEndian (trailer.take 4)
    let found := (checksum content).toNat
    unless stored = found do
      throw (.corruptContainer
        ("CRC check failed " ++ hexText stored ++ " != " ++ hexText found))
    unless ofLittleEndian (trailer.drop 4) = content.length % 2 ^ 32 do
      throw (.corruptContainer "Incorrect length of data produced")
    return content ++ (← unpackParts fuel (rest.dropWhile (· = 0)))

/-- Unpacks a container. -/
def unpack (bytes : List UInt8) : Except Failure (List UInt8) :=
  unpackParts (bytes.length + 1) bytes

end CodeIndex.Gzip
