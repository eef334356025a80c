import CodeIndex.Failure

/-! Decompression of DEFLATE data: blocks of stored bytes, or of literals and copies in canonical
prefix codes. -/
namespace CodeIndex.Gzip

/-- Bytes to be read bit by bit, the lowest bit of a byte first. The first `used` bits of the first
byte are used up. -/
structure BitSource where
  bytes : List UInt8
  used : Nat := 0

/-- Reading bits. Data may end early or make no sense. -/
abbrev Inflating := StateT BitSource (Except Failure)

namespace Inflating

/-- The next bit. -/
def bit : Inflating Nat := do
  let source ← get
  match source.bytes with
  | [] => throw .truncatedData
  | byte :: rest =>
    set (if source.used = 7 then BitSource.mk rest 0 else ⟨source.bytes, source.used + 1⟩)
    return byte.toNat / Nat.pow 2 source.used % 2

/-- The number of some bits, the lowest one first. -/
def bits : (count : Nat) → Inflating Nat
  | 0 => return 0
  | count + 1 => do
    let low ← bit
    return low + 2 * (← bits count)

/-- Passes over the rest of a byte that is partly used up. -/
def align : Inflating Unit :=
  modify fun source => if source.used = 0 then source else ⟨source.bytes.drop 1, 0⟩

/-- The next bytes. The place has to be between two bytes. -/
def bytes (count : Nat) : Inflating (List UInt8) := do
  let source ← get
  if source.bytes.length < count then throw .truncatedData
  set (BitSource.mk (source.bytes.drop count) 0)
  return source.bytes.take count

end Inflating

open Inflating

/-- A canonical prefix code: how many codes there are of each length from one on, and the symbols in
ascending order of their codes. -/
structure PrefixCode where
  counts : List Nat
  symbols : List Nat

/-- The most bits of a code. -/
def lengthLimit : Nat := 15

/-- The codes that are left over after codes of each length: none if there are too many. -/
def leftOver (counts : List Nat) : Option Nat :=
  counts.foldlM (fun left count => if count ≤ 2 * left then some (2 * left - count) else none) 1

/-- The code in which symbols have codes of given lengths, zero for symbols without one. Codes that
leave some bits without meaning are only allowed if there is a single one of one bit. -/
def PrefixCode.ofLengths (lengths : List Nat) (mayBeIncomplete : Bool) :
    Except Failure PrefixCode :=
  let counts := (List.range lengthLimit).map fun i => lengths.count (i + 1)
  let numbered := lengths.zipIdx
  let symbols := (List.range lengthLimit).flatMap fun i =>
    (numbered.filter fun (length, _) => length = i + 1).map Prod.snd
  match leftOver counts with
  | none => .error .corruptData
  | some left =>
    let longest := lengths.foldl max 0
    if left = 0 || longest = 0 || (mayBeIncomplete && longest = 1) then .ok ⟨counts, symbols⟩
    else .error .corruptData

/-- The next symbol of a code. The codes of each length follow those of the lengths before. -/
def symbolFrom : (counts symbols : List Nat) → (code first : Nat) → Inflating Nat
  | [], _, _, _ => throw .corruptData
  | count :: counts, symbols, code, first => do
    let code := 2 * code + (← bit)
    let first := 2 * first
    if code < first + count then
      match symbols[code - first]? with
      | some symbol => return symbol
      | none => throw .corruptData
    else symbolFrom counts (symbols.drop count) code (first + count)

/-- The next symbol of a code. -/
def symbol (code : PrefixCode) : Inflating Nat := symbolFrom code.counts code.symbols 0 0

/-- The least length of each copy symbol from 257 on, and how many bits follow it. -/
def copyLengths : List (Nat × Nat) :=
  [(3, 0), (4, 0), (5, 0), (6, 0), (7, 0), (8, 0), (9, 0), (10, 0), (11, 1), (13, 1), (15, 1),
    (17, 1), (19, 2), (23, 2), (27, 2), (31, 2), (35, 3), (43, 3), (51, 3), (59, 3), (67, 4),
    (83, 4), (99, 4), (115, 4), (131, 5), (163, 5), (195, 5), (227, 5), (258, 0)]

/-- The least distance of each distance symbol, and how many bits follow it. -/
def copyDistances : List (Nat × Nat) :=
  [(1, 0), (2, 0), (3, 0), (4, 0), (5, 1), (7, 1), (9, 2), (13, 2), (17, 3), (25, 3), (33, 4),
    (49, 4), (65, 5), (97, 5), (129, 6), (193, 6), (257, 7), (385, 7), (513, 8), (769, 8),
    (1025, 9), (1537, 9), (2049, 10), (3073, 10), (4097, 11), (6145, 11), (8193, 12),
    (12289, 12), (16385, 13), (24577, 13)]

/-- The number that a symbol stands for, with the bits that follow it. -/
def extended (table : List (Nat × Nat)) (index : Nat) : Inflating Nat := do
  match table[index]? with
  | some (least, count) => return least + (← bits count)
  | none => throw .corruptData

/-- Copies bytes from a distance back, which may reach into the copy itself. -/
def copyBack : (length distance : Nat) → Array UInt8 → Array UInt8
  | 0, _, output => output
  | length + 1, distance, output =>
    copyBack length distance (output.push (output.getD (output.size - distance) 0))

/-- The literals and copies of a block. -/
def codedBlock (literals distances : PrefixCode) :
    (fuel : Nat) → Array UInt8 → Inflating (Array UInt8)
  | 0, _ => throw .truncatedData
  | fuel + 1, output => do
    let found ← symbol literals
    if found < 256 then codedBlock literals distances fuel (output.push (UInt8.ofNat found))
    else if found = 256 then return output
    else
      let length ← extended copyLengths (found - 257)
      let distance ← extended copyDistances (← symbol distances)
      if output.size < distance then throw .corruptData
      codedBlock literals distances fuel (copyBack length distance output)

/-- The code lengths of literals and copies in the fixed codes. -/
def fixedLengths : List Nat :=
  List.replicate 144 8 ++ List.replicate 112 9 ++ List.replicate 24 7 ++ List.replicate 8 8

/-- The order in which the lengths of the codes for lengths are given. -/
def lengthOrder : List Nat := [16, 17, 18, 0, 8, 7, 9, 6, 10, 5, 11, 4, 12, 3, 13, 2, 14, 1, 15]

/-- Reads several numbers of three bits. -/
def smallNumbers : (count : Nat) → Inflating (List Nat)
  | 0 => return []
  | count + 1 => do
    let first ← bits 3
    return first :: (← smallNumbers count)

/-- Reads code lengths up to a total. Some symbols repeat a length. -/
def codeLengths (code : PrefixCode) (total : Nat) : (fuel : Nat) → List Nat → Inflating (List Nat)
  | 0, _ => throw .corruptData
  | fuel + 1, lengths => do
    if total ≤ lengths.length then
      if lengths.length = total then return lengths else throw .corruptData
    let found ← symbol code
    if found < 16 then codeLengths code total fuel (lengths ++ [found])
    else if found = 16 then
      match lengths.getLast? with
      | none => throw .corruptData
      | some last =>
        codeLengths code total fuel (lengths ++ List.replicate (3 + (← bits 2)) last)
    else if found = 17 then
      codeLengths code total fuel (lengths ++ List.replicate (3 + (← bits 3)) 0)
    else codeLengths code total fuel (lengths ++ List.replicate (11 + (← bits 7)) 0)

/-- The two codes at the head of a block that brings its own. -/
def ownCodes : Inflating (PrefixCode × PrefixCode) := do
  let literals := 257 + (← bits 5)
  let distances := 1 + (← bits 5)
  let given := 4 + (← bits 4)
  if 286 < literals || 30 < distances then throw .corruptData
  let numbers ← smallNumbers given
  let ordered := (List.range 19).map fun symbol =>
    ((lengthOrder.zip numbers).lookup symbol).getD 0
  let code ← PrefixCode.ofLengths ordered false
  let total := literals + distances
  let lengths ← codeLengths code total (total + 1) []
  if lengths.getD 256 0 = 0 then throw .corruptData
  let literalCode ← PrefixCode.ofLengths (lengths.take literals) true
  let distanceCode ← PrefixCode.ofLengths (lengths.drop literals) true
  return (literalCode, distanceCode)

/-- A block of stored bytes, which comes with its length and the complement of it. -/
def storedBlock (output : Array UInt8) : Inflating (Array UInt8) := do
  align
  let length ← bits 16
  let complement ← bits 16
  if length + complement ≠ 0xffff then throw .corruptData
  return output ++ (← bytes length)

/-- The blocks up to the one marked as the last. -/
def blocks : (fuel : Nat) → Array UInt8 → Inflating (Array UInt8)
  | 0, _ => throw .truncatedData
  | fuel + 1, output => do
    let isLast ← bit
    let kind ← bits 2
    let budget := 8 * (← get).bytes.length + 1
    let output ← match kind with
      | 0 => storedBlock output
      | 1 => do
        let literals ← PrefixCode.ofLengths fixedLengths false
        let distances ← PrefixCode.ofLengths (List.replicate 32 5) false
        codedBlock literals distances budget output
      | 2 => do
        let (literals, distances) ← ownCodes
        codedBlock literals distances budget output
      | _ => throw .corruptData
    if isLast = 1 then return output else blocks fuel output

/-- Decompresses the data at the start of bytes, and gives the bytes after it. -/
def inflate (input : List UInt8) : Except Failure (List UInt8 × List UInt8) := do
  let run : Inflating (Array UInt8) := do
    let output ← blocks (8 * input.length + 1) #[]
    align
    return output
  let (output, source) ← run ⟨input, 0⟩
  return (output.toList, source.bytes)

end CodeIndex.Gzip
