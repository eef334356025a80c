import CodeIndex.Extract.Fact
import CodeIndex.Grammar.Tree

/-! The index of a Python module: one walk over its syntax tree in the order of the source, with
the names of the enclosing classes as scope. -/
namespace CodeIndex.TreeWalk

/-- The name of a definition or a call. A single segment belongs to the scope. -/
def inScope (scope : List String) : List String → List String
  | [segment] => scope ++ [segment]
  | name => name

mutual

/-- The assignments to a target. Tuples and lists are taken apart; a name that starts with a lone
underscore is thrown away. -/
def targetFacts (scope : List String) (line : Option Int) : Tree → List Fact
  | .node label fields first last =>
    if label = "Tuple" || label = "List" then elementFacts scope line fields
    else match (Tree.node label fields first last).dottedName? with
      | some (segment :: rest) =>
        if segment = "_" then []
        else [{ table := assignsTable, name := inScope scope (segment :: rest), lineNo := line }]
      | _ => []
  | _ => []

/-- The assignments to the elements of a tuple or list. -/
def elementFacts (scope : List String) (line : Option Int) : List (String × Tree) → List Fact
  | [] => []
  | (name, value) :: rest =>
    if name = "elts" then
      match value with
      | .list items => itemFacts scope line items
      | _ => []
    else elementFacts scope line rest

/-- The assignments to targets one after the other. -/
def itemFacts (scope : List String) (line : Option Int) : List Tree → List Fact
  | [] => []
  | item :: rest => targetFacts scope line item ++ itemFacts scope line rest

end

/-- The names that an import statement lists. -/
def importedNames (fields : List (String × Tree)) : List String :=
  match Tree.fieldIn? "names" fields with
  | some (.list items) => items.filterMap fun item =>
      match item with
      | .node _ fields _ _ => Tree.textIn? "name" fields
      | _ => none
  | _ => []

/-- The segments of the module that names are imported from. Empty segments are left out. -/
def moduleSegments (fields : List (String × Tree)) : List String :=
  let segments := splitAt '.' ((Tree.textIn? "module" fields).getD "").toList
  (segments.filter fun segment => !segment.isEmpty).map String.ofList

/-- A definition of some kind. -/
def definitionFact (scope : List String) (fields : List (String × Tree)) (kind : String)
    (line : Option Int) : Fact :=
  { table := defsTable, name := scope ++ [(Tree.textIn? "name" fields).getD ""], lineNo := line,
    kind := kind }

/-- The facts of a single node, without those of its children. -/
def nodeFacts (scope : List String) (label : String) (fields : List (String × Tree))
    (line : Option Int) : List Fact :=
  match label with
  | "ClassDef" => [definitionFact scope fields "class" line]
  | "FunctionDef" | "AsyncFunctionDef" => [definitionFact scope fields "func" line]
  | "Import" =>
    (importedNames fields).map fun name =>
      { table := importsTable, name := (splitAt '.' name.toList).map String.ofList, lineNo := line }
  | "ImportFrom" =>
    (importedNames fields).map fun name =>
      { table := importsTable, name := moduleSegments fields ++ [name], lineNo := line }
  | "Call" =>
    match (Tree.fieldIn? "func" fields).bind Tree.dottedName? with
    | some name => [{ table := callsTable, name := inScope scope name, lineNo := line }]
    | none => []
  | "Assign" =>
    match Tree.fieldIn? "targets" fields with
    | some (.list targets) => itemFacts scope line targets
    | _ => []
  | "AugAssign" | "AnnAssign" =>
    ((Tree.fieldIn? "target" fields).map (targetFacts scope line)).getD []
  | _ => []

/-- The facts of the topmost node of a tree. -/
def visit (scope : List String) : Tree → List Fact
  | .node label fields line _ => nodeFacts scope label fields line
  | _ => []

/-- The name of a class, if the tree is one. -/
def className? : Tree → Option String
  | .node label fields _ _ =>
    if label = "ClassDef" then some ((Tree.textIn? "name" fields).getD "") else none
  | _ => none

/-- The end of a class in its own scope. It is at the last line or, if that is not known, at the
first. -/
def endFact (scope : List String) : Tree → Fact
  | .node _ _ line last =>
    { table := endTable, name := scope ++ ["end"], kind := "class",
      lineNo := (last.filter (· ≠ 0)).or line }
  | _ => { table := endTable, name := scope ++ ["end"], kind := "class" }

/-- A step that is still to be done. -/
inductive Step where
  | enter (tree : Tree)
  /-- The end of a class. -/
  | leave (tree : Tree)

/-- What the steps cost at most. -/
def Step.cost : Step → Nat
  | .enter tree => 2 * tree.size
  | .leave _ => 1

/-- The cost of all steps. -/
def cost : List Step → Nat
  | [] => 0
  | step :: rest => step.cost + cost rest

/-- The cost of trees that are still to be entered is twice their size. -/
theorem cost_map_enter (trees : List Tree) :
    cost (trees.map .enter) = 2 * Tree.itemsSize trees := by
  induction trees with
  | nil => simp [cost, Tree.itemsSize]
  | cons tree rest ih =>
    simp only [cost, List.map_cons, Step.cost, Tree.itemsSize, ih]
    omega

theorem cost_append (a b : List Step) : cost (a ++ b) = cost a + cost b := by
  induction a with
  | nil => simp [cost]
  | cons step rest ih => simp only [List.cons_append, cost, ih, Nat.add_assoc]

/-- Takes the steps in turn, children before what comes after their parent. The names of the open
classes are the scope. -/
def run (scope : List String) : List Step → List Fact
  | [] => []
  | .leave tree :: rest => endFact scope tree :: run scope.dropLast rest
  | .enter tree :: rest =>
    let facts := visit scope tree
    match className? tree with
    | some name =>
      facts ++ run (scope ++ [name]) (tree.children.map .enter ++ .leave tree :: rest)
    | none => facts ++ run scope (tree.children.map .enter ++ rest)
termination_by steps => cost steps
decreasing_by
  · simp only [cost, Step.cost]
    omega
  · have hChildren := Tree.itemsSize_children_lt tree
    simp only [cost_append, cost_map_enter]
    simp only [cost, Step.cost]
    omega
  · have hChildren := Tree.itemsSize_children_lt tree
    simp only [cost_append, cost_map_enter]
    simp only [cost, Step.cost]
    omega

/-- The facts of a tree. -/
def facts (tree : Tree) : List Fact := run [] [.enter tree]

end CodeIndex.TreeWalk
