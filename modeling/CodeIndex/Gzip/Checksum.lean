namespace CodeIndex.Gzip

/-- Takes eight bits out of a remainder of the reversed polynomial of CRC-32. -/
def divideStep : (bits : Nat) → UInt32 → UInt32
  | 0, remainder => remainder
  | bits + 1, remainder =>
    divideStep bits
      (if remainder &&& 1 = 1 then (remainder >>> 1) ^^^ 0xedb88320 else remainder >>> 1)

/-- The checksum CRC-32 of bytes. -/
def checksum (bytes : List UInt8) : UInt32 :=
  bytes.foldl (fun remainder byte => divideStep 8 (remainder ^^^ byte.toUInt32)) 0xffffffff
    ^^^ 0xffffffff

end CodeIndex.Gzip
