import CodeIndex.Text.CharRanges

namespace CodeIndex

/-- A map from characters to code sequences: the codes that have an image in ascending order, and
the images in the same order. -/
structure CharMap where
  sources : Array Nat
  images : Array (List Nat)

namespace CharMap

/-- One character of a written list of images: a comma ends a code and a blank ends a code and its
image. The state holds the images so far, the codes of the current image in reverse order and the
code being read. -/
def readStep (state : Array (List Nat) × List Nat × Nat) (c : Char) :
    Array (List Nat) × List Nat × Nat :=
  let (images, codes, number) := state
  if c = ' ' then (images.push (number :: codes).reverse, [], 0)
  else if c = ',' then (images, number :: codes, 0)
  else (images, codes, number * 36 + CharRanges.digitValue c)

/-- Reads a map from the distances between its sources and from its images, all codes written in
base thirty-six. -/
def ofTables (sources images : List String) : CharMap :=
  ⟨CharRanges.readDistances sources,
    (images.foldl (fun state line => line.foldl readStep state) (#[], [], 0)).1⟩

/-- The image of a code, if it has one. -/
def get? (map : CharMap) (code : Nat) : Option (List Nat) :=
  let count := CharRanges.countUpTo map.sources code 0 map.sources.size
  if count ≠ 0 && map.sources.getD (count - 1) 0 == code then map.images[count - 1]? else none

/-- The codes with the given image, in ascending order. -/
def sourcesOf (map : CharMap) (image : List Nat) : List Nat :=
  ((map.sources.zip map.images).filter fun entry => entry.2 == image).toList.map Prod.fst

end CharMap

end CodeIndex
