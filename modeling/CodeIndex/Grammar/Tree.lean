namespace CodeIndex

/-- The syntax tree of a Python module, or a part of one. A node has a label, named fields in order
and the numbers of its first and last line. The value of a field is a node, a list, or a plain
value without nodes in it. -/
inductive Tree where
  | node (label : String) (fields : List (String × Tree)) (line last : Option Int)
  | list (items : List Tree)
  | text (content : String)
  | number (value : Int)
  | absent
  deriving Repr, Inhabited

namespace Tree

/-- Whether the tree is a node. -/
def isNode : Tree → Bool
  | .node .. => true
  | _ => false

/-- The label of a node. -/
def label? : Tree → Option String
  | .node label _ _ _ => some label
  | _ => none

/-- The value of the first field with a name. -/
def fieldIn? (name : String) (fields : List (String × Tree)) : Option Tree := fields.lookup name

/-- The text of a field. -/
def textIn? (name : String) (fields : List (String × Tree)) : Option String :=
  match fieldIn? name fields with
  | some (.text content) => some content
  | _ => none

/-- The nodes that the value of a field holds directly. -/
def fieldNodes : Tree → List Tree
  | .node label fields line last => [.node label fields line last]
  | .list items => items.filter isNode
  | _ => []

/-- The children of a node in the order of its fields. -/
def children : Tree → List Tree
  | .node _ fields _ _ => fields.flatMap fun field => fieldNodes field.2
  | _ => []

mutual

/-- The number of constructors in a tree. -/
def size : Tree → Nat
  | .node _ fields _ _ => fieldsSize fields + 1
  | .list items => itemsSize items + 1
  | _ => 1

/-- The number of constructors in fields. -/
def fieldsSize : List (String × Tree) → Nat
  | [] => 0
  | (_, value) :: rest => value.size + fieldsSize rest

/-- The number of constructors in items. -/
def itemsSize : List Tree → Nat
  | [] => 0
  | item :: rest => item.size + itemsSize rest

end

theorem itemsSize_append (a b : List Tree) : itemsSize (a ++ b) = itemsSize a + itemsSize b := by
  induction a with
  | nil => simp [itemsSize]
  | cons item rest ih => simp [itemsSize, ih, Nat.add_assoc]

theorem itemsSize_filter_le (test : Tree → Bool) (items : List Tree) :
    itemsSize (items.filter test) ≤ itemsSize items := by
  induction items with
  | nil => simp
  | cons item rest ih =>
    by_cases hTest : test item = true
    · simp only [List.filter_cons_of_pos hTest, itemsSize]
      omega
    · simp only [List.filter_cons_of_neg hTest, itemsSize]
      omega

/-- The trees in the fields of a tree are no larger than the tree. -/
theorem itemsSize_fieldNodes_le (value : Tree) : itemsSize (fieldNodes value) ≤ value.size := by
  cases value with
  | node => simp [fieldNodes, itemsSize]
  | list items =>
    have hFilter := itemsSize_filter_le isNode items
    simp only [fieldNodes, size]
    omega
  | text => simp [fieldNodes, itemsSize]
  | number => simp [fieldNodes, itemsSize]
  | absent => simp [fieldNodes, itemsSize]

/-- The children of a node are smaller than the node, all taken together. -/
theorem itemsSize_children_lt (tree : Tree) : itemsSize tree.children < tree.size := by
  cases tree with
  | node label fields line last =>
    simp only [children, size]
    suffices h : itemsSize (fields.flatMap fun field => fieldNodes field.2) ≤
        fieldsSize fields by omega
    induction fields with
    | nil => simp [itemsSize]
    | cons field rest ih =>
      have hValue := itemsSize_fieldNodes_le field.2
      simp only [List.flatMap_cons, itemsSize_append, fieldsSize]
      omega
  | list => simp [children, itemsSize, size]
  | text => simp [children, itemsSize, size]
  | number => simp [children, itemsSize, size]
  | absent => simp [children, itemsSize, size]

mutual

/-- The segments of a name with dots: attributes of attributes of a plain name. -/
def dottedName? : Tree → Option (List String)
  | .node label fields _ _ =>
    if label = "Attribute" then do
      let base ← dottedValue? fields
      return base ++ [← textIn? "attr" fields]
    else if label = "Name" then (textIn? "id" fields).map ([·])
    else none
  | _ => none

/-- The segments of the value that an attribute is taken from. -/
def dottedValue? : List (String × Tree) → Option (List String)
  | [] => none
  | (name, value) :: rest => if name = "value" then dottedName? value else dottedValue? rest

end

mutual

/-- Whether something can be assigned to an expression: names, attributes and subscripts, and
tuples and lists of such, whose elements may be starred. -/
def isTarget : Tree → Bool
  | .node label fields _ _ =>
    if label = "Name" || label = "Attribute" || label = "Subscript" then true
    else (label = "Tuple" || label = "List") && elementsAreTargets fields
  | _ => false

/-- Whether the elements of a tuple or list are targets. -/
def elementsAreTargets : List (String × Tree) → Bool
  | [] => true
  | (_, value) :: rest =>
    (match value with
      | .list items => areTargets items
      | _ => true) && elementsAreTargets rest

/-- Whether all items are targets or starred targets. -/
def areTargets : List Tree → Bool
  | [] => true
  | item :: rest => isStarTarget item && areTargets rest

/-- Whether a tree is a target or a starred target. -/
def isStarTarget : Tree → Bool
  | .node label fields _ _ =>
    if label = "Starred" then starredIsTarget fields
    else if label = "Name" || label = "Attribute" || label = "Subscript" then true
    else (label = "Tuple" || label = "List") && elementsAreTargets fields
  | _ => false

/-- Whether the value of a starred expression is a target. -/
def starredIsTarget : List (String × Tree) → Bool
  | [] => false
  | (_, value) :: _ => isTarget value

end

mutual

/-- Whether an expression can be deleted: names, attributes and subscripts, and tuples and lists of
such. -/
def isDeletable : Tree → Bool
  | .node label fields _ _ =>
    if label = "Name" || label = "Attribute" || label = "Subscript" then true
    else (label = "Tuple" || label = "List") && elementsAreDeletable fields
  | _ => false

/-- Whether the elements of a tuple or list can be deleted. -/
def elementsAreDeletable : List (String × Tree) → Bool
  | [] => true
  | (_, value) :: rest =>
    (match value with
      | .list items => areDeletable items
      | _ => true) && elementsAreDeletable rest

/-- Whether all items can be deleted. -/
def areDeletable : List Tree → Bool
  | [] => true
  | item :: rest => isDeletable item && areDeletable rest

end

/-- Whether an expression is a single target: a name, an attribute or a subscript. -/
def isSingleTarget (tree : Tree) : Bool :=
  tree.label?.any fun label => ["Name", "Attribute", "Subscript"].contains label

end Tree

end CodeIndex
