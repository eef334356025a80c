namespace CodeIndex

/-- A set of characters given by its boundaries in ascending order: a character belongs to the set
exactly when an odd number of boundaries is at most its code. -/
structure CharRanges where
  bounds : Array Nat

namespace CharRanges

/-- The value of one digit of the written form of a table, in base thirty-six. -/
def digitValue (c : Char) : Nat :=
  if c.isDigit then c.toNat - '0'.toNat else c.toNat - 'a'.toNat + 10

/-- One character of a written table: a blank ends a number, which is the distance from the
previous entry. The state holds the entries so far, the last entry and the number being read. -/
def readStep (state : Array Nat × Nat × Nat) (c : Char) : Array Nat × Nat × Nat :=
  let (entries, last, number) := state
  if c = ' ' then (entries.push (last + number), last + number, 0)
  else (entries, last, number * 36 + digitValue c)

/-- Reads an ascending table from the distances between its entries, each written in base
thirty-six and followed by a blank. -/
def readDistances (lines : List String) : Array Nat :=
  (lines.foldl (fun state line => line.foldl readStep state) (#[], 0, 0)).1

/-- Reads a set of characters from the distances between its boundaries. -/
def ofDistances (lines : List String) : CharRanges := ⟨readDistances lines⟩

/-- How many entries of an ascending table are at most `value`, if the answer lies between `low`
and `high`. -/
def countUpTo (entries : Array Nat) (value low high : Nat) : Nat :=
  if low < high then
    let middle := (low + high) / 2
    if entries.getD middle 0 ≤ value then countUpTo entries value (middle + 1) high
    else countUpTo entries value low middle
  else low
termination_by high - low

/-- Whether the character belongs to the set. -/
def contains (ranges : CharRanges) (c : Char) : Bool :=
  countUpTo ranges.bounds c.toNat 0 ranges.bounds.size % 2 == 1

end CharRanges

end CodeIndex
