namespace CodeIndex

/-- The blank characters beyond ASCII. -/
def wideBlanks : List Nat :=
  [0x85, 0xa0, 0x1680, 0x2000, 0x2001, 0x2002, 0x2003, 0x2004, 0x2005, 0x2006, 0x2007, 0x2008,
    0x2009, 0x200a, 0x2028, 0x2029, 0x202f, 0x205f, 0x3000]

/-- Blank characters: the Unicode white space, and the four ASCII separators from U+001C on. -/
def isBlank (c : Char) : Bool :=
  let code := c.toNat
  if code < 128 then code == 32 || (9 ≤ code && code ≤ 13) || (28 ≤ code && code ≤ 31)
  else wideBlanks.contains code

/-- The blank bytes of ASCII text: the space and the five layout controls. -/
def isBlankByte (b : UInt8) : Bool :=
  b == 32 || (9 ≤ b && b ≤ 13)

end CodeIndex
