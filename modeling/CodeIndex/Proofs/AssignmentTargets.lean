import CodeIndex.Extract.TreeWalk
import Mathlib.Data.List.Basic

/-! The names that an assignment gives a value. Targets are built from names and attributes by
tuples, lists and stars, to any depth. The walk opens tuples and lists, but no star. -/
namespace CodeIndex

theorem Tree.dottedValue?_eq (fields : List (String × Tree)) :
    dottedValue? fields = (fieldIn? "value" fields).bind dottedName? := by
  induction fields with
  | nil => rfl
  | cons field rest ih =>
    obtain ⟨name, value⟩ := field
    rw [dottedValue?, ih, fieldIn?, fieldIn?, List.lookup_cons]
    by_cases hName : name = "value"
    · simp [hName]
    · simp [hName, beq_false_of_ne (Ne.symm hName)]

namespace TreeWalk

/-- A place in a target that something is assigned to: a name with the attributes that are taken
from it one after the other. It may stand inside a star. -/
structure Leaf where
  root : String
  attributes : List String
  isStarred : Bool

namespace Leaf

/-- The same place inside a star. -/
def star (leaf : Leaf) : Leaf := { leaf with isStarred := true }

/-- The assignment to a place. A plain name belongs to the scope. -/
def fact (scope : List String) (line : Option Int) (leaf : Leaf) : Fact where
  table := assignsTable
  name := if leaf.attributes = [] then scope ++ [leaf.root] else leaf.root :: leaf.attributes
  lineNo := line

/-- Whether the place has a name that is not thrown away. -/
def isNamed (leaf : Leaf) : Bool := leaf.root ≠ "_"

end Leaf

/-- A tree that is a name, or an attribute of such a tree. -/
inductive IsLeaf : Tree → (root : String) → (attributes : List String) → Prop
  | name {fields : List (String × Tree)} {first last : Option Int} {root : String}
    (hId : Tree.textIn? "id" fields = some root) : IsLeaf (.node "Name" fields first last) root []
  | member {fields : List (String × Tree)} {first last : Option Int} {value : Tree}
    {root segment : String} {attributes : List String}
    (hValue : Tree.fieldIn? "value" fields = some value) (hBase : IsLeaf value root attributes)
    (hSegment : Tree.textIn? "attr" fields = some segment) :
    IsLeaf (.node "Attribute" fields first last) root (attributes ++ [segment])

/-- Targets one after the other, with their places from left to right. -/
inductive HasLeaves : List Tree → List Leaf → Prop
  | nil : HasLeaves [] []
  | leaf {target : Tree} {rest : List Tree} {root : String} {attributes : List String}
    {leaves : List Leaf} (hLeaf : IsLeaf target root attributes) (hRest : HasLeaves rest leaves) :
    HasLeaves (target :: rest) (⟨root, attributes, false⟩ :: leaves)
  | sequence {label : String} {fields : List (String × Tree)} {first last : Option Int}
    {elements rest : List Tree} {inner leaves : List Leaf}
    (hLabel : label = "Tuple" ∨ label = "List")
    (hElements : Tree.fieldIn? "elts" fields = some (.list elements))
    (hInner : HasLeaves elements inner) (hRest : HasLeaves rest leaves) :
    HasLeaves (.node label fields first last :: rest) (inner ++ leaves)
  | starred {fields : List (String × Tree)} {first last : Option Int} {value : Tree}
    {rest : List Tree} {inner leaves : List Leaf}
    (hValue : Tree.fieldIn? "value" fields = some value) (hInner : HasLeaves [value] inner)
    (hRest : HasLeaves rest leaves) :
    HasLeaves (.node "Starred" fields first last :: rest) (inner.map Leaf.star ++ leaves)

/-- A statement that assigns, with its line and its targets from left to right. -/
inductive IsAssignment : Tree → (line : Option Int) → (targets : List Tree) → Prop
  | plain {fields : List (String × Tree)} {line last : Option Int} {targets : List Tree}
    (hTargets : Tree.fieldIn? "targets" fields = some (.list targets)) :
    IsAssignment (.node "Assign" fields line last) line targets
  | single {label : String} {fields : List (String × Tree)} {line last : Option Int}
    {target : Tree} (hLabel : label = "AugAssign" ∨ label = "AnnAssign")
    (hTarget : Tree.fieldIn? "target" fields = some target) :
    IsAssignment (.node label fields line last) line [target]

variable {scope : List String} {line : Option Int}

/-- A leaf has the dotted name of its root and its attributes. -/
theorem IsLeaf.dottedName? {target : Tree} {root : String} {attributes : List String}
    (hLeaf : IsLeaf target root attributes) : target.dottedName? = some (root :: attributes) := by
  induction hLeaf with
  | name hId => simp [Tree.dottedName?, hId]
  | member hValue hBase hSegment ih =>
    simp [Tree.dottedName?, Tree.dottedValue?_eq, hValue, ih, hSegment]

theorem elementFacts_eq {fields : List (String × Tree)} {elements : List Tree}
    (hElements : Tree.fieldIn? "elts" fields = some (.list elements)) :
    elementFacts scope line fields = itemFacts scope line elements := by
  induction fields with
  | nil => cases hElements
  | cons field rest ih =>
    obtain ⟨name, value⟩ := field
    rw [Tree.fieldIn?, List.lookup_cons] at hElements
    unfold elementFacts
    by_cases hName : name = "elts"
    · subst hName
      obtain rfl := Option.some.inj hElements
      rw [if_pos rfl]
    · rw [beq_false_of_ne (Ne.symm hName)] at hElements
      rw [if_neg hName, ih hElements]

theorem inScope_cons (root : String) (attributes : List String) :
    inScope scope (root :: attributes) =
      if attributes = [] then scope ++ [root] else root :: attributes := by
  cases attributes <;> rfl

/-- A place that is not inside a star is found unless its name is thrown away. -/
theorem targetFacts_of_isLeaf {target : Tree} {root : String} {attributes : List String}
    (hLeaf : IsLeaf target root attributes) :
    targetFacts scope line target =
      if root = "_" then [] else [Leaf.fact scope line ⟨root, attributes, false⟩] := by
  have hName := hLeaf.dottedName?
  cases hLeaf with
  | name hId =>
    rw [targetFacts, if_neg (by decide), hName]
    rfl
  | member hValue hBase hSegment =>
    rw [targetFacts, if_neg (by decide), hName]
    simp only [inScope_cons]
    rfl

/-- A tuple and a list are assigned to element by element. -/
theorem targetFacts_of_sequence {label : String} {fields : List (String × Tree)}
    {first last : Option Int} {elements : List Tree} (hLabel : label = "Tuple" ∨ label = "List")
    (hElements : Tree.fieldIn? "elts" fields = some (.list elements)) :
    targetFacts scope line (.node label fields first last) = itemFacts scope line elements := by
  rw [targetFacts, if_pos (by simpa using hLabel), elementFacts_eq hElements]

/-- Nothing is found inside a star. -/
theorem targetFacts_starred (fields : List (String × Tree)) (first last : Option Int) :
    targetFacts scope line (.node "Starred" fields first last) = [] := by
  rw [targetFacts, if_neg (by decide), Tree.dottedName?, if_neg (by decide), if_neg (by decide)]

/-- Targets give one assignment for each named place outside stars, from left to right. -/
theorem itemFacts_of_hasLeaves {targets : List Tree} {leaves : List Leaf}
    (hLeaves : HasLeaves targets leaves) :
    itemFacts scope line targets =
      (leaves.filter fun leaf => leaf.isNamed && !leaf.isStarred).map (Leaf.fact scope line) := by
  induction hLeaves with
  | nil => rfl
  | @leaf target rest root attributes leaves hLeaf hRest ih =>
    rw [itemFacts, targetFacts_of_isLeaf hLeaf, ih]
    by_cases hRoot : root = "_" <;> simp [hRoot, Leaf.isNamed]
  | sequence hLabel hElements hInner hRest ihInner ihRest =>
    rw [itemFacts, targetFacts_of_sequence hLabel hElements, ihInner, ihRest, List.filter_append,
      List.map_append]
  | starred hValue hInner hRest ihInner ihRest =>
    -- the places inside the star are left out on both sides
    rw [itemFacts, targetFacts_starred, ihRest, List.filter_append]
    simp [Leaf.star]

/-- An assignment is listed by its targets, at its own line. -/
theorem visit_of_isAssignment {tree : Tree} {targets : List Tree}
    (hTree : IsAssignment tree line targets) (scope : List String) :
    visit scope tree = itemFacts scope line targets := by
  cases hTree with
  | plain hTargets => simp only [visit, nodeFacts, hTargets]
  | single hLabel hTarget =>
    rcases hLabel with rfl | rfl <;> simp [visit, nodeFacts, hTarget, itemFacts]

/-- To leave out more changes nothing exactly if there is nothing more to be left out. -/
theorem map_filter_eq_iff {α β : Type} (found kept : α → Bool) (form : α → β) (items : List α) :
    (items.filter fun item => found item && kept item).map form = (items.filter found).map form ↔
      ∀ item ∈ items, found item = true → kept item = true := by
  have hTwice : (items.filter fun item => found item && kept item) =
      (items.filter found).filter kept := by
    rw [List.filter_filter]
    congr 1
    funext item
    exact Bool.and_comm ..
  rw [hTwice]
  constructor
  · intro hSame item hMem hFound
    have hLength := congrArg List.length hSame
    rw [List.length_map, List.length_map, List.length_filter_eq_length_iff] at hLength
    exact hLength item (List.mem_filter.mpr ⟨hMem, hFound⟩)
  · intro hKept
    rw [List.filter_eq_self.mpr]
    intro item hMem
    exact hKept item (List.mem_filter.mp hMem).1 (List.mem_filter.mp hMem).2

/-- An assignment is found for each place of the targets that has a name and is not inside a star,
once and from left to right. So all names are found exactly if none is inside a star. -/
theorem visit_assignment {tree : Tree} {targets : List Tree} {leaves : List Leaf}
    (hTree : IsAssignment tree line targets) (hLeaves : HasLeaves targets leaves)
    (scope : List String) :
    visit scope tree =
      (leaves.filter fun leaf => leaf.isNamed && !leaf.isStarred).map (Leaf.fact scope line) ∧
    (visit scope tree = (leaves.filter Leaf.isNamed).map (Leaf.fact scope line) ↔
      ∀ leaf ∈ leaves, leaf.isNamed = true → leaf.isStarred = false) := by
  have hVisit := (visit_of_isAssignment hTree scope).trans (itemFacts_of_hasLeaves hLeaves)
  refine ⟨hVisit, ?_⟩
  rw [hVisit, map_filter_eq_iff]
  simp only [Bool.not_eq_true']

/-- The node of a name. -/
def nameTree (name : String) : Tree := .node "Name" [("id", .text name)] none none

/-- The node of a starred expression. -/
def starTree (value : Tree) : Tree := .node "Starred" [("value", value)] none none

theorem isLeaf_nameTree (name : String) : IsLeaf (nameTree name) name [] := .name rfl

/-- An assignment of a plain name. -/
def assignTree (targets : List Tree) (line : Option Int) : Tree :=
  .node "Assign" [("targets", .list targets), ("value", nameTree "v")] line none

/-- The targets of `[a, (_, p.q)] = *b, = v`. -/
def nestedTargets : List Tree :=
  [.node "List" [("elts", .list [nameTree "a", .node "Tuple" [("elts", .list [nameTree "_",
      .node "Attribute" [("value", nameTree "p"), ("attr", .text "q")] none none])] none none])]
    none none,
  .node "Tuple" [("elts", .list [starTree (nameTree "b")])] none none]

/-- Of targets inside each other the names are listed in turn, apart from the underscore and the
starred name. -/
theorem nestedTargets_visit :
    IsAssignment (assignTree nestedTargets (some 3)) (some 3) nestedTargets ∧
    HasLeaves nestedTargets
      [⟨"a", [], false⟩, ⟨"_", [], false⟩, ⟨"p", ["q"], false⟩, ⟨"b", [], true⟩] ∧
    visit ["K"] (assignTree nestedTargets (some 3)) =
      [⟨assignsTable, ["K", "a"], some 3, none, none⟩,
        ⟨assignsTable, ["p", "q"], some 3, none, none⟩] := by
  have hInner : HasLeaves [nameTree "_",
      .node "Attribute" [("value", nameTree "p"), ("attr", .text "q")] none none]
      [⟨"_", [], false⟩, ⟨"p", ["q"], false⟩] :=
    .leaf (isLeaf_nameTree "_") (.leaf (.member rfl (isLeaf_nameTree "p") rfl) .nil)
  have hStar : HasLeaves [starTree (nameTree "b")] [⟨"b", [], true⟩] :=
    .starred rfl (.leaf (isLeaf_nameTree "b") .nil) .nil
  have hTree : IsAssignment (assignTree nestedTargets (some 3)) (some 3) nestedTargets := .plain rfl
  have hLeaves : HasLeaves nestedTargets
      [⟨"a", [], false⟩, ⟨"_", [], false⟩, ⟨"p", ["q"], false⟩, ⟨"b", [], true⟩] :=
    .sequence (.inr rfl) rfl
      (.leaf (isLeaf_nameTree "a") (.sequence (.inl rfl) rfl hInner .nil))
      (.sequence (.inl rfl) rfl hStar .nil)
  exact ⟨hTree, hLeaves, (visit_assignment hTree hLeaves ["K"]).1⟩

/-- The targets of `a, *b = v`. -/
def starredTargets : List Tree :=
  [.node "Tuple" [("elts", .list [nameTree "a", starTree (nameTree "b")])] none none]

/-- The name inside the star is not found. -/
theorem starredName_not_found :
    IsAssignment (assignTree starredTargets (some 1)) (some 1) starredTargets ∧
    HasLeaves starredTargets [⟨"a", [], false⟩, ⟨"b", [], true⟩] ∧
    visit [] (assignTree starredTargets (some 1)) = [Leaf.fact [] (some 1) ⟨"a", [], false⟩] ∧
    visit [] (assignTree starredTargets (some 1)) ≠
      [Leaf.fact [] (some 1) ⟨"a", [], false⟩, Leaf.fact [] (some 1) ⟨"b", [], true⟩] := by
  refine ⟨.plain rfl, ?_, by decide +kernel, by decide +kernel⟩
  exact .sequence (.inl rfl) rfl
    (.leaf (isLeaf_nameTree "a") (.starred rfl (.leaf (isLeaf_nameTree "b") .nil) .nil)) .nil

end TreeWalk

end CodeIndex
