import CodeIndex.Text.LetterCase

namespace CodeIndex

/-- The groups of lower-case characters that are taken for one another when letter case is
ignored. -/
def caseFamilies : List (List Nat) :=
  [[0x69, 0x131], [0x73, 0x17f], [0xb5, 0x3bc], [0x345, 0x3b9, 0x1fbe], [0x390, 0x1fd3],
    [0x3b0, 0x1fe3], [0x3b2, 0x3d0], [0x3b5, 0x3f5], [0x3b8, 0x3d1], [0x3ba, 0x3f0], [0x3c0, 0x3d6],
    [0x3c1, 0x3f1], [0x3c2, 0x3c3], [0x3c6, 0x3d5], [0x432, 0x1c80], [0x434, 0x1c81],
    [0x43e, 0x1c82], [0x441, 0x1c83], [0x442, 0x1c84, 0x1c85], [0x44a, 0x1c86], [0x463, 0x1c87],
    [0x1c88, 0xa64b], [0x1e61, 0x1e9b], [0xfb05, 0xfb06]]

/-- The lower-case codes that are taken for the given one. -/
def caseFamily (code : Nat) : List Nat :=
  (caseFamilies.find? fun family => family.contains code).getD [code]

/-- The lower case of a code. -/
def lowerCode (code : Nat) : Nat := (lowerChar (Char.ofNat code)).toNat

/-- The codes whose lower case is the given one. -/
def codesLoweredTo (code : Nat) : List Nat :=
  (if lowerCode code = code then [code] else [])
    ++ (if 97 ≤ code && code ≤ 122 then [code - 32] else [])
    ++ lowerTable.sourcesOf [code]

end CodeIndex
