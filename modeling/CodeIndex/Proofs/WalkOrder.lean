import CodeIndex.Extract.TreeWalk
import Mathlib.Logic.Function.Iterate
import Mathlib.Tactic.Common

/-! The walk over a syntax tree keeps what is still to be done on a stack of its own. It finds the
same facts in the same order as a recursion over the tree, which stands here as the second side. -/
namespace CodeIndex.TreeWalk

theorem size_le_itemsSize {tree : Tree} {trees : List Tree} (hMem : tree ∈ trees) :
    tree.size ≤ Tree.itemsSize trees := by
  induction trees with
  | nil => cases hMem
  | cons first rest ih =>
    rw [Tree.itemsSize]
    rcases List.mem_cons.mp hMem with rfl | hRest
    · omega
    · have hSize := ih hRest
      omega

/-- Children are smaller than their tree, which is what the recursion over a tree goes by. -/
theorem size_lt_of_mem_children {child tree : Tree} (hChild : child ∈ tree.children) :
    child.size < tree.size :=
  Nat.lt_of_le_of_lt (size_le_itemsSize hChild) (Tree.itemsSize_children_lt tree)

/-- The scope of the children of a node. Only a class adds its name. -/
def innerScope (scope : List String) (tree : Tree) : List String :=
  scope ++ (className? tree).toList

/-- What is found after the children of a node. Only a class has an end, which is at its last line
or, if that is unset or zero, at its first. -/
def closingFacts (scope : List String) : Tree → List Fact
  | .node label fields line last =>
    if label = "ClassDef" then
      [{ table := endTable
         name := scope ++ [(Tree.textIn? "name" fields).getD "", "end"]
         lineNo := if last = none ∨ last = some 0 then line else last
         kind := "class" }]
    else []
  | _ => []

/-- The facts of a tree by recursion: those of the topmost node, then those of each child in turn,
then the end of a class. -/
def treeFacts (scope : List String) (tree : Tree) : List Fact :=
  visit scope tree ++
    (tree.children.attach.flatMap fun child => treeFacts (innerScope scope tree) child.1) ++
    closingFacts scope tree
termination_by tree.size
decreasing_by exact size_lt_of_mem_children child.2

/-- The facts of a tree are its own, then those of its children in its scope, and the end of a class
at last. -/
theorem treeFacts_eq (scope : List String) (tree : Tree) :
    treeFacts scope tree =
      visit scope tree ++ tree.children.flatMap (treeFacts (innerScope scope tree)) ++
        closingFacts scope tree := by
  rw [treeFacts, List.flatMap_subtype fun _ _ => rfl, List.unattach_attach]

/-- Only classes open a scope. -/
theorem innerScope_of_none {tree : Tree} (scope : List String) (hClass : className? tree = none) :
    innerScope scope tree = scope := by
  rw [innerScope, hClass, Option.toList_none, List.append_nil]

/-- Only classes have an end. -/
theorem closingFacts_of_none {tree : Tree} (scope : List String) (hClass : className? tree = none) :
    closingFacts scope tree = [] := by
  cases tree with
  | node label fields line last =>
    rw [className?] at hClass
    split_ifs at hClass with hLabel
    rw [closingFacts, if_neg hLabel]
  | _ => rfl

/-- The end that the walk puts after a class is the one that the recursion puts there. -/
theorem closingFacts_of_some {tree : Tree} {name : String} (scope : List String)
    (hClass : className? tree = some name) :
    closingFacts scope tree = [endFact (scope ++ [name]) tree] := by
  cases tree with
  | node label fields line last =>
    rw [className?] at hClass
    split_ifs at hClass with hLabel
    obtain rfl := Option.some.inj hClass
    have hLine : (if last = none ∨ last = some 0 then line else last) =
        (last.filter (· ≠ 0)).or line := by
      cases last with
      | none => rfl
      | some number => by_cases hZero : number = 0 <;> simp [Option.filter_some, hZero]
    rw [closingFacts, if_pos hLabel, hLine, endFact]
    simp
  | _ => cases hClass

/-! The walk as a machine. -/

/-- Where a walk stands: the names of the open classes, the steps still to be done, and the facts
found so far. -/
structure Walk where
  scope : List String
  steps : List Step
  found : List Fact

namespace Walk

/-- The start of the walk over a tree. -/
def start (tree : Tree) : Walk := ⟨[], [.enter tree], []⟩

/-- The walk after the step on top of the stack. -/
def next : Walk → Walk
  | ⟨scope, [], found⟩ => ⟨scope, [], found⟩
  | ⟨scope, .leave tree :: rest, found⟩ => ⟨scope.dropLast, rest, found ++ [endFact scope tree]⟩
  | ⟨scope, .enter tree :: rest, found⟩ =>
    match className? tree with
    | some name =>
      ⟨scope ++ [name], tree.children.map .enter ++ .leave tree :: rest, found ++ visit scope tree⟩
    | none => ⟨scope, tree.children.map .enter ++ rest, found ++ visit scope tree⟩

/-- A step moves facts from those that are still to be found to those that were. -/
theorem found_append_run_next (walk : Walk) :
    walk.next.found ++ run walk.next.scope walk.next.steps =
      walk.found ++ run walk.scope walk.steps := by
  obtain ⟨scope, steps, found⟩ := walk
  cases steps with
  | nil => rfl
  | cons step rest =>
    cases step with
    | leave tree => simp [next, run]
    | enter tree =>
      rw [run]
      cases hClass : className? tree <;> simp [next, hClass]

/-- What is found and what is still to be found stays the same along the steps of a walk. The
induction is on the number of steps. -/
theorem found_append_run_iterate (count : Nat) (walk : Walk) :
    (next^[count] walk).found ++ run (next^[count] walk).scope (next^[count] walk).steps =
      walk.found ++ run walk.scope walk.steps := by
  induction count generalizing walk with
  | zero => rfl
  | succ count ih => rw [Function.iterate_succ_apply, ih, found_append_run_next]

/-- One walk leads to another in some number of steps. -/
def LeadsTo (first last : Walk) : Prop := ∃ count, next^[count] first = last

theorem LeadsTo.refl (walk : Walk) : walk.LeadsTo walk := ⟨0, rfl⟩

theorem LeadsTo.trans {first middle last : Walk} (hFirst : first.LeadsTo middle)
    (hSecond : middle.LeadsTo last) : first.LeadsTo last := by
  obtain ⟨count, rfl⟩ := hFirst
  obtain ⟨other, rfl⟩ := hSecond
  exact ⟨other + count, Function.iterate_add_apply next other count first⟩

theorem leadsTo_of_next {first last : Walk} (hNext : first.next.LeadsTo last) :
    first.LeadsTo last :=
  .trans ⟨1, rfl⟩ hNext

/-- Trees that are entered one after the other. What lies below them on the stack is not touched
until all of them are done. -/
theorem leadsTo_of_trees (scope : List String) (trees : List Tree) (rest : List Step)
    (found : List Fact)
    (hTrees : ∀ tree ∈ trees, ∀ rest found,
      LeadsTo ⟨scope, .enter tree :: rest, found⟩ ⟨scope, rest, found ++ treeFacts scope tree⟩) :
    LeadsTo ⟨scope, trees.map .enter ++ rest, found⟩
      ⟨scope, rest, found ++ trees.flatMap (treeFacts scope)⟩ := by
  induction trees generalizing found with
  | nil => simpa using LeadsTo.refl _
  | cons tree others ih =>
    have hFirst := hTrees tree List.mem_cons_self (others.map .enter ++ rest) found
    have hOthers := ih (found ++ treeFacts scope tree) fun other hOther =>
      hTrees other (List.mem_cons_of_mem _ hOther)
    rw [List.append_assoc] at hOthers
    exact hFirst.trans hOthers

/-- A tree on top of the stack is done when its facts are found, and the scope is then what it was
before. -/
theorem leadsTo_of_enter (scope : List String) (tree : Tree) (rest : List Step)
    (found : List Fact) :
    LeadsTo ⟨scope, .enter tree :: rest, found⟩ ⟨scope, rest, found ++ treeFacts scope tree⟩ := by
  have hChildren (inner : List String) (rest : List Step) (found : List Fact) :
      LeadsTo ⟨inner, tree.children.map .enter ++ rest, found⟩
        ⟨inner, rest, found ++ tree.children.flatMap (treeFacts inner)⟩ :=
    leadsTo_of_trees inner tree.children rest found fun child _ => leadsTo_of_enter inner child
  apply leadsTo_of_next
  rw [treeFacts_eq]
  cases hClass : className? tree with
  | none =>
    have hNext : next ⟨scope, .enter tree :: rest, found⟩ =
        ⟨scope, tree.children.map .enter ++ rest, found ++ visit scope tree⟩ := by
      simp [next, hClass]
    have hRest := hChildren scope rest (found ++ visit scope tree)
    rw [hNext, innerScope_of_none scope hClass, closingFacts_of_none scope hClass]
    simpa using hRest
  | some name =>
    have hNext : next ⟨scope, .enter tree :: rest, found⟩ =
        ⟨scope ++ [name], tree.children.map .enter ++ .leave tree :: rest,
          found ++ visit scope tree⟩ := by
      simp [next, hClass]
    have hInner : innerScope scope tree = scope ++ [name] := by rw [innerScope, hClass]; rfl
    rw [hNext, hInner, closingFacts_of_some scope hClass]
    -- the mark of the class comes up when its children are done, and takes its name back
    refine (hChildren (scope ++ [name]) (.leave tree :: rest) (found ++ visit scope tree)).trans ?_
    apply leadsTo_of_next
    simpa [next] using LeadsTo.refl _
termination_by tree.size
decreasing_by exact size_lt_of_mem_children ‹_›

end Walk

/-- The walk over a tree finds the facts of the recursion. -/
theorem facts_eq_treeFacts (tree : Tree) : facts tree = treeFacts [] tree := by
  obtain ⟨count, hWalk⟩ := Walk.leadsTo_of_enter [] tree [] []
  have hRun := Walk.found_append_run_iterate count ⟨[], [.enter tree], []⟩
  rw [hWalk] at hRun
  simpa [run, facts] using hRun.symm

/-! Classes and their ends. -/

/-- Whether a fact is the definition of a class. -/
def isClassStart (fact : Fact) : Bool := fact.table = defsTable && fact.kind = some "class"

/-- Whether a fact is the end of a class. -/
def isClassEnd (fact : Fact) : Bool := fact.table = endTable && fact.kind = some "class"

/-- Facts in which each class is ended under its own name, after all classes that began in it. -/
inductive Nested : List Fact → Prop
  | nil : Nested []
  | other {fact : Fact} {rest : List Fact} (hStart : isClassStart fact = false)
    (hEnd : isClassEnd fact = false) (hRest : Nested rest) : Nested (fact :: rest)
  | block {first last : Fact} {body rest : List Fact} (hStart : isClassStart first = true)
    (hEnd : isClassEnd last = true) (hName : last.name = first.name ++ ["end"])
    (hBody : Nested body) (hRest : Nested rest) : Nested (first :: (body ++ last :: rest))

namespace Nested

/-- Facts that are nested are so one after the other. -/
theorem append {first second : List Fact} (hFirst : Nested first) (hSecond : Nested second) :
    Nested (first ++ second) := by
  induction hFirst with
  | nil => exact hSecond
  | other hStart hEnd _ ih => exact .other hStart hEnd ih
  | block hStart hEnd hName hBody _ _ ihRest =>
    rw [List.cons_append, List.append_assoc, List.cons_append]
    exact .block hStart hEnd hName hBody ihRest

theorem flatMap {trees : List Tree} {found : Tree → List Fact}
    (hTrees : ∀ tree ∈ trees, Nested (found tree)) : Nested (trees.flatMap found) := by
  induction trees with
  | nil => exact .nil
  | cons tree others ih =>
    rw [List.flatMap_cons]
    exact (hTrees tree List.mem_cons_self).append
      (ih fun other hOther => hTrees other (List.mem_cons_of_mem _ hOther))

/-- Facts of no class at all. -/
theorem of_kind {found : List Fact} (hKind : ∀ fact ∈ found, fact.kind ≠ some "class") :
    Nested found := by
  induction found with
  | nil => exact .nil
  | cons fact rest ih =>
    have hFact := hKind fact List.mem_cons_self
    exact .other (by simp [isClassStart, hFact]) (by simp [isClassEnd, hFact])
      (ih fun other hOther => hKind other (List.mem_cons_of_mem _ hOther))

/-- The start of a class is not the end of one. -/
theorem isClassEnd_of_isClassStart {fact : Fact} (hStart : isClassStart fact = true) :
    isClassEnd fact = false := by
  rw [isClassStart, Bool.and_eq_true, decide_eq_true_eq] at hStart
  rw [isClassEnd, hStart.1]
  rfl

theorem isClassStart_of_isClassEnd {fact : Fact} (hEnd : isClassEnd fact = true) :
    isClassStart fact = false := by
  rw [isClassEnd, Bool.and_eq_true, decide_eq_true_eq] at hEnd
  rw [isClassStart, hEnd.1]
  rfl

/-- There are as many ends as classes. -/
theorem countP_eq {found : List Fact} (hNested : Nested found) :
    found.countP isClassStart = found.countP isClassEnd := by
  induction hNested with
  | nil => rfl
  | other hStart hEnd _ ih => simp [hStart, hEnd, ih]
  | block hStart hEnd _ _ _ ihBody ihRest =>
    simp only [List.countP_cons, List.countP_append, hStart, hEnd,
      isClassEnd_of_isClassStart hStart, isClassStart_of_isClassEnd hEnd, ihBody, ihRest]
    simp only [if_true, Bool.false_eq_true, if_false]
    omega

end Nested

mutual

/-- The facts of targets have no kind, so that none of them starts or ends a class. -/
theorem kind_of_mem_targetFacts (scope : List String) (line : Option Int) (tree : Tree) :
    ∀ fact ∈ targetFacts scope line tree, fact.kind = none := by
  cases tree with
  | node label fields first last =>
    intro fact hFact
    rw [targetFacts] at hFact
    split_ifs at hFact with hList
    · exact kind_of_mem_elementFacts scope line fields fact hFact
    · split at hFact
      · split_ifs at hFact
        · cases hFact
        · rw [List.mem_singleton.mp hFact]
      · cases hFact
  | _ => simp [targetFacts]

theorem kind_of_mem_elementFacts (scope : List String) (line : Option Int)
    (fields : List (String × Tree)) :
    ∀ fact ∈ elementFacts scope line fields, fact.kind = none := by
  cases fields with
  | nil => simp [elementFacts]
  | cons field rest =>
    obtain ⟨name, value⟩ := field
    intro fact hFact
    unfold elementFacts at hFact
    split_ifs at hFact
    · split at hFact
      · exact kind_of_mem_itemFacts scope line _ fact hFact
      · cases hFact
    · exact kind_of_mem_elementFacts scope line rest fact hFact

theorem kind_of_mem_itemFacts (scope : List String) (line : Option Int) (items : List Tree) :
    ∀ fact ∈ itemFacts scope line items, fact.kind = none := by
  cases items with
  | nil => simp [itemFacts]
  | cons item rest =>
    intro fact hFact
    rw [itemFacts] at hFact
    rcases List.mem_append.mp hFact with hItem | hRest
    · exact kind_of_mem_targetFacts scope line item fact hItem
    · exact kind_of_mem_itemFacts scope line rest fact hRest

end

/-- A node that is no class has no fact of the kind of classes. -/
theorem kind_of_mem_visit {scope : List String} {tree : Tree} (hClass : className? tree = none) :
    ∀ fact ∈ visit scope tree, fact.kind ≠ some "class" := by
  cases tree with
  | node label fields line last =>
    rw [className?] at hClass
    split_ifs at hClass with hLabel
    intro fact hFact
    rw [visit] at hFact
    unfold nodeFacts at hFact
    split at hFact
    · exact absurd rfl hLabel
    · rw [List.mem_singleton.mp hFact]; simp [definitionFact]
    · rw [List.mem_singleton.mp hFact]; simp [definitionFact]
    · obtain ⟨name, -, rfl⟩ := List.mem_map.mp hFact; simp
    · obtain ⟨name, -, rfl⟩ := List.mem_map.mp hFact; simp
    · split at hFact
      · rw [List.mem_singleton.mp hFact]; simp
      · cases hFact
    · split at hFact
      · simp [kind_of_mem_itemFacts scope line _ fact hFact]
      · cases hFact
    iterate 2
      cases hTarget : Tree.fieldIn? "target" fields with
      | none => simp [hTarget] at hFact
      | some target =>
        rw [hTarget] at hFact
        simp [kind_of_mem_targetFacts scope line target fact hFact]
    · cases hFact
  | _ => simp [visit]

/-- The one fact of a class node is its definition, under the name that its end will have. -/
theorem visit_of_some {tree : Tree} {name : String} (scope : List String)
    (hClass : className? tree = some name) :
    ∃ line, visit scope tree =
      [{ table := defsTable, name := scope ++ [name], lineNo := line, kind := "class" }] := by
  cases tree with
  | node label fields line last =>
    rw [className?] at hClass
    split_ifs at hClass with hLabel
    obtain rfl := Option.some.inj hClass
    subst hLabel
    exact ⟨line, rfl⟩
  | _ => cases hClass

/-- The facts of a tree are nested, by induction on its size. -/
theorem nested_treeFacts (scope : List String) (tree : Tree) : Nested (treeFacts scope tree) := by
  have hChildren (inner : List String) : Nested (tree.children.flatMap (treeFacts inner)) :=
    .flatMap fun child _ => nested_treeFacts inner child
  rw [treeFacts_eq]
  cases hClass : className? tree with
  | none =>
    rw [closingFacts_of_none scope hClass, List.append_nil]
    exact (Nested.of_kind (kind_of_mem_visit hClass)).append (hChildren _)
  | some name =>
    obtain ⟨line, hVisit⟩ := visit_of_some scope hClass
    rw [hVisit, closingFacts_of_some scope hClass]
    refine .block (by rfl) ?_ ?_ (hChildren _) .nil
    · cases tree <;> rfl
    · cases tree <;> rfl
termination_by tree.size
decreasing_by exact size_lt_of_mem_children ‹_›

/-- The walk over any tree comes to an end, with no step and no open class left. It finds what the
recursion over the tree finds, in the same order. In these facts each class is ended under its own
name after all that began in it, so there are as many ends as classes. -/
theorem walk_eq_recursion (tree : Tree) :
    (Walk.start tree).LeadsTo ⟨[], [], treeFacts [] tree⟩ ∧ facts tree = treeFacts [] tree ∧
      Nested (facts tree) ∧ (facts tree).countP isClassStart = (facts tree).countP isClassEnd := by
  have hNested : Nested (facts tree) := by
    rw [facts_eq_treeFacts]
    exact nested_treeFacts [] tree
  exact ⟨Walk.leadsTo_of_enter [] tree [] [], facts_eq_treeFacts tree, hNested, hNested.countP_eq⟩

end CodeIndex.TreeWalk
