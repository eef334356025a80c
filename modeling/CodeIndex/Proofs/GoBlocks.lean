import CodeIndex.Proofs.GoNesting

/-! The ends of blocks among the facts of a Go text. Each of them closes the block that was opened
last and is still open, so that blocks are nested in each other like brackets, whatever the braces
of the text look like. -/
namespace CodeIndex.Go

/-- The end of a block on a line. -/
def endFact (name : List String) (kind : String) (lineNo : Int) : Fact :=
  { table := endTable, name := name, lineNo := lineNo, kind := kind }

/-- Whether a fact is the end of the block that another one opens. The end of a type is named after
the type, the end of a function has no name but the brace. -/
def Closes (opening closing : Fact) : Prop :=
  opening.table = defsTable ∧ closing.table = endTable ∧
    (opening.kind = some "class" ∧ closing.kind = some "class" ∧
        closing.name = opening.name ++ ["\x7d"] ∨
      opening.kind = some "func" ∧ closing.kind = some "func" ∧ closing.name = ["\x7d"])

/-- A block: the places of the facts that open and close it, and their lines. -/
structure Block where
  opening : Nat
  closing : Nat
  firstLine : Int
  lastLine : Int
  deriving DecidableEq, Repr

/-- What stands at a place stays there when more is added. -/
theorem getElem?_append_of_eq_some {α : Type} {items : List α} {place : Nat} {item : α}
    (hItem : items[place]? = some item) (more : List α) : (items ++ more)[place]? = some item :=
  (List.getElem?_append_left (List.getElem?_eq_some_iff.mp hItem).1).trans hItem

namespace Block

/-- A block of a list of facts. It is closed later than it is opened, and on a later line. -/
def IsIn (facts : List Fact) (block : Block) : Prop :=
  block.opening < block.closing ∧ block.firstLine < block.lastLine ∧
    ∃ opening closing, facts[block.opening]? = some opening ∧ facts[block.closing]? = some closing ∧
      opening.lineNo = some block.firstLine ∧ closing.lineNo = some block.lastLine ∧
      Closes opening closing

/-- The first block ends before the second one starts. -/
def Precedes (first second : Block) : Prop :=
  first.closing < second.opening ∧ first.lastLine < second.firstLine

/-- The inner block starts and ends inside the outer one. -/
def Encloses (outer inner : Block) : Prop :=
  outer.opening < inner.opening ∧ inner.closing < outer.closing ∧
    outer.firstLine < inner.firstLine ∧ inner.lastLine < outer.lastLine

/-- Two blocks that do not cross: one comes before the other or is inside it. In particular they
share neither the fact that opens them nor the one that closes them. -/
def AreNested (first second : Block) : Prop :=
  first.Precedes second ∨ second.Precedes first ∨ first.Encloses second ∨ second.Encloses first

theorem IsIn.append {facts : List Fact} {block : Block} (hBlock : block.IsIn facts)
    (new : List Fact) : block.IsIn (facts ++ new) := by
  obtain ⟨hPlaces, hLines, opening, closing, hOpening, hClosing, hRest⟩ := hBlock
  exact ⟨hPlaces, hLines, opening, closing, getElem?_append_of_eq_some hOpening new,
    getElem?_append_of_eq_some hClosing new, hRest⟩

end Block

/-- A block that is still open: the place of the fact that opens it, its line, and the fact. -/
structure Mark where
  place : Nat
  line : Int
  fact : Fact
  deriving DecidableEq, Repr

/-- The first mark was set after the second one. -/
def Mark.Follows (first second : Mark) : Prop :=
  second.place < first.place ∧ second.line < first.line

/-- No fact is the end of a block. -/
def HasNoEnd (facts : List Fact) : Prop := ∀ fact ∈ facts, fact.table ≠ endTable

/-- The facts of the lines before a number, read line by line with a stack of open blocks. A line
opens a block, closes the innermost one, or does neither. -/
inductive History : List Fact → (lineNo : Int) → List Block → List Mark → Prop
  | start (lineNo : Int) : History [] lineNo [] []
  | pass {facts new : List Fact} {lineNo : Int} {blocks : List Block} {marks : List Mark}
    (hPast : History facts lineNo blocks marks) (hNew : HasNoEnd new) :
    History (facts ++ new) (lineNo + 1) blocks marks
  | opens {facts new : List Fact} {lineNo : Int} {blocks : List Block} {marks : List Mark}
    {fact : Fact} (hPast : History facts lineNo blocks marks) (hLine : fact.lineNo = some lineNo)
    (hNew : HasNoEnd (fact :: new)) :
    History (facts ++ fact :: new) (lineNo + 1) blocks (⟨facts.length, lineNo, fact⟩ :: marks)
  | closes {facts : List Fact} {lineNo : Int} {blocks : List Block} {mark : Mark}
    {marks : List Mark} {fact : Fact} (hPast : History facts lineNo blocks (mark :: marks))
    (hLine : fact.lineNo = some lineNo) (hCloses : Closes mark.fact fact) :
    History (facts ++ [fact]) (lineNo + 1)
      (⟨mark.place, facts.length, mark.line, lineNo⟩ :: blocks) marks

namespace History

variable {facts : List Fact} {lineNo : Int} {blocks : List Block} {marks : List Mark}

/-- A mark is set at a fact of an earlier line. -/
theorem mark_isIn (hPast : History facts lineNo blocks marks) :
    ∀ mark ∈ marks, facts[mark.place]? = some mark.fact ∧ mark.fact.lineNo = some mark.line ∧
      mark.line < lineNo := by
  induction hPast with
  | start => nofun
  | pass _ _ ih =>
    intro mark hMark
    obtain ⟨hFact, hLine, hBefore⟩ := ih mark hMark
    exact ⟨getElem?_append_of_eq_some hFact _, hLine, by omega⟩
  | @opens facts new lineNo blocks marks fact _ hLine _ ih =>
    intro mark hMark
    rcases List.mem_cons.mp hMark with rfl | hMark
    · exact ⟨by simp, hLine, Int.lt_succ lineNo⟩
    · obtain ⟨hFact, hMarkLine, hBefore⟩ := ih mark hMark
      exact ⟨getElem?_append_of_eq_some hFact _, hMarkLine, by omega⟩
  | closes _ _ _ ih =>
    intro mark hMark
    obtain ⟨hFact, hLine, hBefore⟩ := ih mark (List.mem_cons_of_mem _ hMark)
    exact ⟨getElem?_append_of_eq_some hFact _, hLine, by omega⟩

/-- An open block begins at a fact that is there. -/
theorem mark_place_lt (hPast : History facts lineNo blocks marks) {mark : Mark}
    (hMark : mark ∈ marks) : mark.place < facts.length :=
  (List.getElem?_eq_some_iff.mp (hPast.mark_isIn mark hMark).1).1

/-- The marks stand in the order in which they were set, the last one first. -/
theorem marks_follow (hPast : History facts lineNo blocks marks) :
    marks.Pairwise Mark.Follows := by
  induction hPast with
  | start => exact .nil
  | pass _ _ ih => exact ih
  | opens hPast _ _ ih =>
    refine List.pairwise_cons.mpr ⟨fun mark hMark => ?_, ih⟩
    exact ⟨hPast.mark_place_lt hMark, (hPast.mark_isIn mark hMark).2.2⟩
  | closes _ _ _ ih => exact ih.of_cons

/-- A block that is closed lies behind the mark of an open one, or before it. -/
theorem block_beside_mark (hPast : History facts lineNo blocks marks) :
    ∀ block ∈ blocks, (block.closing < facts.length ∧ block.lastLine < lineNo) ∧
      ∀ mark ∈ marks, (mark.place < block.opening ∧ mark.line < block.firstLine) ∨
        (block.closing < mark.place ∧ block.lastLine < mark.line) := by
  induction hPast with
  | start => nofun
  | @pass facts new lineNo blocks marks _ _ ih =>
    intro block hBlock
    obtain ⟨⟨hClosing, hLast⟩, hMarks⟩ := ih block hBlock
    exact ⟨⟨by rw [List.length_append]; omega, by omega⟩, hMarks⟩
  | @opens facts new lineNo blocks marks fact _ _ _ ih =>
    intro block hBlock
    obtain ⟨⟨hClosing, hLast⟩, hMarks⟩ := ih block hBlock
    refine ⟨⟨by rw [List.length_append]; omega, by omega⟩, fun mark hMark => ?_⟩
    rcases List.mem_cons.mp hMark with rfl | hMark
    · exact .inr ⟨hClosing, hLast⟩
    · exact hMarks mark hMark
  | @closes facts lineNo blocks closed marks fact hPast _ _ ih =>
    intro block hBlock
    rcases List.mem_cons.mp hBlock with rfl | hBlock
    · refine ⟨⟨by simp, Int.lt_succ lineNo⟩, fun mark hMark => .inl ?_⟩
      exact List.rel_of_pairwise_cons hPast.marks_follow hMark
    · obtain ⟨⟨hClosing, hLast⟩, hMarks⟩ := ih block hBlock
      refine ⟨⟨by rw [List.length_append]; omega, by omega⟩, fun mark hMark => ?_⟩
      exact hMarks mark (List.mem_cons_of_mem _ hMark)

/-- Any two blocks of a history come one after the other, or one is inside the other. -/
theorem blocks_areNested (hPast : History facts lineNo blocks marks) :
    blocks.Pairwise Block.AreNested := by
  induction hPast with
  | start => exact .nil
  | pass _ _ ih => exact ih
  | opens _ _ _ ih => exact ih
  | @closes facts lineNo blocks mark marks fact hPast _ _ ih =>
    refine List.pairwise_cons.mpr ⟨fun block hBlock => ?_, ih⟩
    obtain ⟨⟨hClosing, hLast⟩, hMarks⟩ := hPast.block_beside_mark block hBlock
    rcases hMarks mark List.mem_cons_self with ⟨hOpening, hFirst⟩ | hBefore
    · exact .inr (.inr (.inl ⟨hOpening, hClosing, hFirst, hLast⟩))
    · exact .inr (.inl hBefore)

/-- The blocks of a history begin and end at facts that are there. -/
theorem block_isIn (hPast : History facts lineNo blocks marks) :
    ∀ block ∈ blocks, block.IsIn facts := by
  induction hPast with
  | start => nofun
  | pass _ _ ih => exact fun block hBlock => (ih block hBlock).append _
  | opens _ _ _ ih => exact fun block hBlock => (ih block hBlock).append _
  | @closes facts lineNo blocks mark marks fact hPast hLine hCloses ih =>
    intro block hBlock
    rcases List.mem_cons.mp hBlock with rfl | hBlock
    · obtain ⟨hFact, hMarkLine, hBefore⟩ := hPast.mark_isIn mark List.mem_cons_self
      have hPlace := hPast.mark_place_lt List.mem_cons_self
      exact ⟨hPlace, hBefore, mark.fact, fact, getElem?_append_of_eq_some hFact _, by simp,
        hMarkLine, hLine, hCloses⟩
    · exact (ih block hBlock).append _

/-- An end is not among facts without ends that come later. -/
theorem getElem?_of_hasNoEnd {new : List Fact} (hNew : HasNoEnd new) {place : Nat} {fact : Fact}
    (hFact : (facts ++ new)[place]? = some fact) (hEnd : fact.table = endTable) :
    facts[place]? = some fact := by
  rw [List.getElem?_append] at hFact
  split_ifs at hFact
  · exact hFact
  · exact absurd hEnd (hNew fact (List.mem_of_getElem? hFact))

/-- Every end closes a block. -/
theorem exists_block (hPast : History facts lineNo blocks marks) :
    ∀ place fact, facts[place]? = some fact → fact.table = endTable →
      ∃ block ∈ blocks, block.closing = place := by
  induction hPast with
  | start => nofun
  | pass _ hNew ih =>
    exact fun place fact hFact hEnd => ih place fact (getElem?_of_hasNoEnd hNew hFact hEnd) hEnd
  | opens _ _ hNew ih =>
    exact fun place fact hFact hEnd => ih place fact (getElem?_of_hasNoEnd hNew hFact hEnd) hEnd
  | @closes facts lineNo blocks mark marks closing _ _ _ ih =>
    intro place fact hFact hEnd
    rw [List.getElem?_append] at hFact
    split_ifs at hFact with hPlace
    · obtain ⟨block, hBlock, hClosing⟩ := ih place fact hFact hEnd
      exact ⟨block, List.mem_cons_of_mem _ hBlock, hClosing⟩
    · have hLast := (List.getElem?_eq_some_iff.mp hFact).1
      rw [List.length_singleton] at hLast
      exact ⟨_, List.mem_cons_self, by dsimp only; omega⟩

end History

/-! What a line says about the block that it opens or closes. -/

/-- Whether a mode is a block that has an end among the facts. -/
def Mode.isBlock (mode : Mode) : Bool := mode.isTypeBody || mode = .functionBody

/-- Whether an action opens or closes a block. -/
def Action.isAboutBlock : Action → Bool
  | .enter mode _ => mode.isBlock
  | .leave mode => mode.isBlock
  | .addPackage _ => false

/-- The facts of a line that is read in a scope, by what the line does to the stacks. -/
inductive Emits (scope : List String) (lineNo : Int) : Option Action → List Fact → Prop
  | function {name : List String} {new : List Fact} (hNew : HasNoEnd new) :
    Emits scope lineNo (some (.enter .functionBody none)) (kindFact name "func" lineNo :: new)
  | typeBody {mode : Mode} (hMode : mode.isTypeBody = true) (name : String) :
    Emits scope lineNo (some (.enter mode (some name)))
      [kindFact (scope ++ [name]) "class" lineNo]
  | functionEnd : Emits scope lineNo (some (.leave .functionBody)) [endFact ["\x7d"] "func" lineNo]
  | typeEnd {mode : Mode} (hMode : mode.isTypeBody = true) :
    Emits scope lineNo (some (.leave mode)) [endFact (scope ++ ["\x7d"]) "class" lineNo]
  | other {action : Option Action} {new : List Fact}
    (hAction : ∀ performed ∈ action, performed.isAboutBlock = false) (hNew : HasNoEnd new) :
    Emits scope lineNo action new

theorem hasNoEnd_nil : HasNoEnd [] := nofun

theorem HasNoEnd.append {first second : List Fact} (hFirst : HasNoEnd first)
    (hSecond : HasNoEnd second) : HasNoEnd (first ++ second) := by
  intro fact hFact
  rcases List.mem_append.mp hFact with hFact | hFact
  · exact hFirst fact hFact
  · exact hSecond fact hFact

/-- Facts of another table are no ends of blocks. -/
theorem hasNoEnd_of_table {facts : List Fact} (table : String) (hTable : table ≠ endTable)
    (hFacts : ∀ fact ∈ facts, fact.table = table) : HasNoEnd facts :=
  fun fact hFact => hFacts fact hFact ▸ hTable

theorem hasNoEnd_kindFact (name : List String) (kind : String) (lineNo : Int) :
    HasNoEnd [kindFact name kind lineNo] :=
  hasNoEnd_of_table defsTable (by decide) fun fact hFact => by
    rw [List.mem_singleton.mp hFact, kindFact]

theorem table_of_callFact? {scope : List String} {lineNo : Int} {name : List Char} {fact : Fact}
    (hFact : callFact? scope lineNo name = some fact) : fact.table = callsTable := by
  rw [callFact?] at hFact
  split at hFact
  · cases hFact
  · split_ifs at hFact <;> exact congrArg Fact.table (Option.some.inj hFact).symm
  · exact congrArg Fact.table (Option.some.inj hFact).symm

theorem hasNoEnd_callFacts (scope : List String) (lineNo : Int) (line : List Char) :
    HasNoEnd (callFacts scope lineNo line) :=
  hasNoEnd_of_table callsTable (by decide) fun fact hFact => by
    obtain ⟨name, -, hCall⟩ := List.mem_filterMap.mp hFact
    exact table_of_callFact? hCall

theorem hasNoEnd_definitionFacts (scope : List String) (lineNo : Int) (text : List Char) :
    HasNoEnd (definitionFacts scope lineNo text) :=
  hasNoEnd_of_table defsTable (by decide) fun fact hFact => by
    rw [definitionFacts] at hFact
    split_ifs at hFact
    · obtain ⟨name, -, rfl⟩ := List.mem_map.mp hFact
      rfl
    · cases hFact

theorem table_of_assignmentFact? {scope : List String} {lineNo : Int} {word : List Char}
    {fact : Fact} (hFact : assignmentFact? scope lineNo word = some fact) :
    fact.table = assignsTable := by
  rw [assignmentFact?] at hFact
  split_ifs at hFact
  split at hFact
  · cases hFact
  · split_ifs at hFact <;> exact congrArg Fact.table (Option.some.inj hFact).symm

theorem hasNoEnd_assignmentFacts (scope : List String) (lineNo : Int) (targets : List Char) :
    HasNoEnd (assignmentFacts scope lineNo targets) :=
  hasNoEnd_of_table assignsTable (by decide) fun fact hFact => by
    obtain ⟨word, -, hAssign⟩ := List.mem_filterMap.mp hFact
    exact table_of_assignmentFact? hAssign

theorem hasNoEnd_importFact (lineNo : Int) (path : Option (List Char)) :
    HasNoEnd (path.map (importFact lineNo)).toList :=
  hasNoEnd_of_table importsTable (by decide) fun fact hFact => by
    obtain ⟨text, -, rfl⟩ := Option.map_eq_some_iff.mp (Option.mem_toList.mp hFact)
    rfl

/-- A line that does nothing about blocks emits no end of one. -/
theorem Emits.ofNone {scope : List String} {lineNo : Int} {new : List Fact} (hNew : HasNoEnd new) :
    Emits scope lineNo none new := .other nofun hNew

theorem Emits.ofBeside {scope : List String} {lineNo : Int} {action : Action} {new : List Fact}
    (hAction : action.isAboutBlock = false) (hNew : HasNoEnd new) :
    Emits scope lineNo (some action) new := .other (by simpa using hAction) hNew

/-- The head of a function opens a block, or has no body that is left open. -/
theorem emits_enterFunction (state : ScanState) (lineNo : Int) (name : List String)
    (line : List Char) :
    Emits state.scope lineNo (functionAction? line)
      (kindFact name "func" lineNo :: (enterFunction state lineNo line).2) := by
  rw [functionAction?, enterFunction]
  cases line.dropWhile (· ≠ '\x7b') with
  | nil => exact .ofNone (hasNoEnd_kindFact name "func" lineNo)
  | cons brace body =>
    have hCalls := hasNoEnd_callFacts state.scope lineNo body
    dsimp only
    split_ifs
    · exact .function hCalls
    · exact .ofNone ((hasNoEnd_kindFact name "func" lineNo).append hCalls)

/-- The head of a type opens a block, or has no body that is left open. -/
theorem emits_enterType (state : ScanState) {mode : Mode} (hMode : mode.isTypeBody = true)
    (name : String) (lineNo : Int) (line : List Char) :
    Emits state.scope lineNo (typeAction? mode name line)
      (enterType state mode name lineNo line).2 := by
  rw [typeAction?, enterType]
  split_ifs
  · exact .typeBody hMode name
  · exact .ofNone (hasNoEnd_kindFact _ "class" lineNo)

/-- A line outside groups emits what its action asks for. -/
theorem emits_scanPlain (state : ScanState) (lineNo : Int) (line : List Char) :
    Emits state.scope lineNo (plainAction? line) (scanPlain state lineNo line).2 := by
  rw [scanPlain, plainAction?]
  have hCalls := hasNoEnd_callFacts state.scope lineNo line
  cases LineShape.ofLine line with
  | function name => exact emits_enterFunction state lineNo _ line
  | method receiver name => exact emits_enterFunction state lineNo _ line
  | package name => exact .ofBeside rfl (hasNoEnd_kindFact _ _ lineNo)
  | structType name => exact emits_enterType state rfl _ lineNo line
  | interfaceType name => exact emits_enterType state rfl _ lineNo line
  | namedType name => exact .ofNone (hasNoEnd_kindFact _ _ lineNo)
  | importPath path => exact .ofNone (hasNoEnd_importFact lineNo (some path))
  | importGroup => exact .ofBeside rfl hasNoEnd_nil
  | valueGroup => exact .ofBeside rfl hasNoEnd_nil
  | values text => exact .ofNone ((hasNoEnd_definitionFacts _ lineNo text).append hCalls)
  | assignment targets =>
    exact .ofNone ((hasNoEnd_assignmentFacts _ lineNo targets).append hCalls)
  | other => exact .ofNone hCalls

/-- A line of code emits what its action asks for. Only a closing brace emits the end of a block. -/
theorem emits_scanCode (state : ScanState) (lineNo : Int) (line : List Char) :
    Emits state.scope lineNo (codeAction? state.mode? line) (scanCode state lineNo line).2 := by
  rw [scanCode]
  cases state.mode? with
  | none => exact emits_scanPlain state lineNo line
  | some mode =>
    cases mode with
    | comment => exact emits_scanPlain state lineNo line
    | importGroup =>
      simp only [scanImports, codeAction?]
      split_ifs
      · exact .ofBeside rfl hasNoEnd_nil
      · exact .ofNone (hasNoEnd_importFact lineNo _)
    | structBody =>
      simp only [scanStruct, codeAction?]
      split_ifs
      · exact .typeEnd rfl
      · cases nestedStruct? line with
        | some name => exact .typeBody rfl (nameText name)
        | none =>
          cases fieldNames? line with
          | some names => exact .ofNone (hasNoEnd_definitionFacts _ lineNo names)
          | none => exact .ofNone hasNoEnd_nil
    | interfaceBody =>
      simp only [scanInterface, codeAction?]
      split_ifs
      · exact .typeEnd rfl
      · cases interfaceMethod? line with
        | some name => exact .ofNone (hasNoEnd_kindFact _ _ lineNo)
        | none => exact .ofNone hasNoEnd_nil
    | valueGroup =>
      simp only [scanValues, codeAction?]
      split_ifs
      · exact .ofBeside rfl hasNoEnd_nil
      · cases namesBeforeValue? line with
        | some names =>
          exact .ofNone
            ((hasNoEnd_definitionFacts _ lineNo names).append (hasNoEnd_callFacts _ lineNo line))
        | none => exact .ofNone (hasNoEnd_definitionFacts _ lineNo line)
    | functionBody =>
      simp only [scanFunction, codeAction?]
      split_ifs
      · exact .functionEnd
      · exact emits_scanPlain state lineNo line

/-- What a line outside comments does is done by its code, before a comment that stays open. -/
theorem exists_code (state : ScanState) (lineNo : Int) (line : List Char) :
    ∃ (code : List Char) (isOpened : Bool), scanOutside state lineNo line =
      (if isOpened then (scanCode state lineNo code).1.push .comment
        else (scanCode state lineNo code).1, (scanCode state lineNo code).2) :=
  ⟨_, _, rfl⟩

/-! The open blocks of the scanner and the marks of the history belong together. -/

/-- The marks of the blocks among the open modes. The name of a type is its scope. -/
inductive OpenedBy (packages : List String) : List Layer → List Mark → Prop
  | nil : OpenedBy packages [] []
  | skip {layer : Layer} {below : List Layer} {marks : List Mark}
    (hMode : layer.mode.isBlock = false) (hBelow : OpenedBy packages below marks) :
    OpenedBy packages (layer :: below) marks
  | function {layer : Layer} {below : List Layer} {mark : Mark} {marks : List Mark}
    (hMode : layer.mode = .functionBody) (hTable : mark.fact.table = defsTable)
    (hKind : mark.fact.kind = some "func") (hBelow : OpenedBy packages below marks) :
    OpenedBy packages (layer :: below) (mark :: marks)
  | typeBody {layer : Layer} {below : List Layer} {mark : Mark} {marks : List Mark}
    (hMode : layer.mode.isTypeBody = true) (hTable : mark.fact.table = defsTable)
    (hKind : mark.fact.kind = some "class")
    (hName : mark.fact.name = packages ++ (layer :: below).reverse.filterMap Layer.name)
    (hBelow : OpenedBy packages below marks) :
    OpenedBy packages (layer :: below) (mark :: marks)

namespace OpenedBy

variable {packages : List String} {layer : Layer} {below : List Layer} {marks : List Mark}

/-- Where no type is open, packages may be added. -/
theorem changePackages {layers : List Layer} (hOpened : OpenedBy packages layers marks)
    (hLayers : ∀ layer ∈ layers, layer.mode.isTypeBody = false) (others : List String) :
    OpenedBy others layers marks := by
  induction hOpened with
  | nil => exact .nil
  | skip hMode _ ih =>
    exact .skip hMode (ih fun other hOther => hLayers other (List.mem_cons_of_mem _ hOther))
  | function hMode hTable hKind _ ih =>
    exact .function hMode hTable hKind
      (ih fun other hOther => hLayers other (List.mem_cons_of_mem _ hOther))
  | typeBody hMode _ _ _ _ _ =>
    rw [hLayers _ List.mem_cons_self] at hMode
    cases hMode

/-- A mode that is no block has no mark. -/
theorem of_skip (hOpened : OpenedBy packages (layer :: below) marks)
    (hMode : layer.mode.isBlock = false) : OpenedBy packages below marks := by
  cases hOpened with
  | skip _ hBelow => exact hBelow
  | function hFunction => simp [Mode.isBlock, hFunction] at hMode
  | typeBody hType => simp [Mode.isBlock, hType] at hMode

/-- The innermost function is closed by its end. -/
theorem exists_function (hOpened : OpenedBy packages (layer :: below) marks)
    (hMode : layer.mode = .functionBody) (lineNo : Int) :
    ∃ mark rest, marks = mark :: rest ∧ OpenedBy packages below rest ∧
      Closes mark.fact (endFact ["\x7d"] "func" lineNo) := by
  cases hOpened with
  | skip hSkip => simp [Mode.isBlock, hMode] at hSkip
  | function _ hTable hKind hBelow =>
    exact ⟨_, _, rfl, hBelow, hTable, rfl, .inr ⟨hKind, rfl, rfl⟩⟩
  | typeBody hType => simp [hMode, Mode.isTypeBody] at hType

/-- The innermost type is closed by an end that is named after it. -/
theorem exists_typeBody (hOpened : OpenedBy packages (layer :: below) marks)
    (hMode : layer.mode.isTypeBody = true) (lineNo : Int) :
    ∃ mark rest, marks = mark :: rest ∧ OpenedBy packages below rest ∧
      Closes mark.fact (endFact (packages ++ (layer :: below).reverse.filterMap Layer.name ++
        ["\x7d"]) "class" lineNo) := by
  cases hOpened with
  | skip hSkip => simp [Mode.isBlock, hMode] at hSkip
  | function hFunction => simp [hFunction, Mode.isTypeBody] at hMode
  | typeBody _ hTable hKind hName hBelow =>
    exact ⟨_, _, rfl, hBelow, hTable, rfl, .inl ⟨hKind, rfl, by rw [hName]; rfl⟩⟩

end OpenedBy

/-- The facts of the lines before a number, with a history whose open blocks are those of a nest. -/
def Traced (nest : Nest) (facts : List Fact) (lineNo : Int) : Prop :=
  ∃ blocks marks, History facts lineNo blocks marks ∧ OpenedBy nest.packages nest.layers marks

namespace Traced

variable {nest next : Nest} {facts new : List Fact} {lineNo : Int}

/-- A line that emits no ends of blocks leaves all blocks as they are. -/
theorem pass (hTraced : Traced nest facts lineNo) (hNew : HasNoEnd new) :
    Traced nest (facts ++ new) (lineNo + 1) := by
  obtain ⟨blocks, marks, hPast, hOpened⟩ := hTraced
  exact ⟨blocks, marks, hPast.pass hNew, hOpened⟩

/-- Actions that are not about blocks do not change the marks. -/
theorem changeNest (hTraced : Traced nest facts lineNo) (hSound : nest.IsSound) {action : Action}
    (hFits : action.fits nest.mode? = true) (hAction : action.isAboutBlock = false)
    (hPerform : nest.perform? action = some next) : Traced next facts lineNo := by
  obtain ⟨blocks, marks, hPast, hOpened⟩ := hTraced
  refine ⟨blocks, marks, hPast, ?_⟩
  cases action with
  | enter mode name =>
    obtain rfl := Option.some.inj hPerform
    exact .skip hAction hOpened
  | leave handler =>
    obtain ⟨name, hLayers, hPackages⟩ := Nest.perform?_leave_eq_some_iff.mp hPerform
    rw [hLayers, hPackages] at hOpened
    exact hOpened.of_skip hAction
  | addPackage name =>
    obtain rfl := Option.some.inj hPerform
    have hTop : nest.mode? = none ∨ nest.mode? = some .functionBody := by
      simpa [Action.fits] using hFits
    have hModes := eq_replicate_functionBody hSound.nested (nest.head?_modes ▸ hTop)
    refine hOpened.changePackages (fun layer hLayer => ?_) _
    have hMode : layer.mode ∈ nest.layers.map Layer.mode := List.mem_map_of_mem hLayer
    rw [hModes] at hMode
    rw [List.eq_of_mem_replicate hMode]
    rfl

/-- The facts of a line go with what the line does to the nest. -/
theorem perform (hTraced : Traced nest facts lineNo) (hSound : nest.IsSound) {action : Action}
    (hFits : action.fits nest.mode? = true) (hPerform : nest.perform? action = some next)
    (hEmits : Emits nest.toState.scope lineNo (some action) new) :
    Traced next (facts ++ new) (lineNo + 1) := by
  cases hEmits with
  | other hAction hNew =>
    exact (hTraced.changeNest hSound hFits (hAction action rfl) hPerform).pass hNew
  | @function name new hNew =>
    obtain ⟨blocks, marks, hPast, hOpened⟩ := hTraced
    obtain rfl := Option.some.inj hPerform
    have hFacts := (hasNoEnd_kindFact name "func" lineNo).append hNew
    exact ⟨blocks, _, hPast.opens rfl hFacts, .function rfl rfl rfl hOpened⟩
  | typeBody hMode name =>
    obtain ⟨blocks, marks, hPast, hOpened⟩ := hTraced
    obtain rfl := Option.some.inj hPerform
    refine ⟨blocks, _, hPast.opens rfl (hasNoEnd_kindFact _ "class" lineNo),
      .typeBody hMode rfl rfl ?_ hOpened⟩
    simp [kindFact, Nest.toState]
  | functionEnd =>
    obtain ⟨blocks, marks, hPast, hOpened⟩ := hTraced
    obtain ⟨name, hLayers, hPackages⟩ := Nest.perform?_leave_eq_some_iff.mp hPerform
    rw [hLayers, hPackages] at hOpened
    obtain ⟨mark, rest, rfl, hBelow, hCloses⟩ := hOpened.exists_function rfl lineNo
    exact ⟨_, rest, hPast.closes rfl hCloses, hBelow⟩
  | typeEnd hMode =>
    obtain ⟨blocks, marks, hPast, hOpened⟩ := hTraced
    obtain ⟨name, hLayers, hPackages⟩ := Nest.perform?_leave_eq_some_iff.mp hPerform
    rw [hLayers, hPackages] at hOpened
    obtain ⟨mark, rest, rfl, hBelow, hCloses⟩ := hOpened.exists_typeBody hMode lineNo
    refine ⟨_, rest, hPast.closes rfl ?_, hBelow⟩
    rw [Nest.toState, hLayers, hPackages]
    exact hCloses

/-- A line without comments. -/
theorem scanCode (hTraced : Traced nest facts lineNo) (hSound : nest.IsSound)
    (hTop : nest.mode? ≠ some .comment) (code : List Char) :
    ∃ next : Nest, next.IsSound ∧ next.mode? ≠ some .comment ∧
      next.toState = (Go.scanCode nest.toState lineNo code).1 ∧
      Traced next (facts ++ (Go.scanCode nest.toState lineNo code).2) (lineNo + 1) := by
  have hEmits := emits_scanCode nest.toState lineNo code
  rw [scanCode_fst]
  rw [nest.mode?_toState] at hEmits ⊢
  cases hAction : codeAction? nest.mode? code with
  | none =>
    rw [hAction] at hEmits
    cases hEmits with
    | other _ hNew => exact ⟨nest, hSound, hTop, rfl, hTraced.pass hNew⟩
  | some action =>
    rw [hAction] at hEmits
    obtain ⟨hFits, hEnters⟩ := codeAction?_fits hTop hAction
    obtain ⟨next, hPerform, hNext, hState⟩ := hSound.exists_perform hFits
    exact ⟨next, hNext, hSound.mode?_ne_comment hFits hEnters hPerform, hState,
      hTraced.perform hSound hFits hPerform hEmits⟩

/-- A line outside comments, at the end of which a comment may be open. -/
theorem scanOutside (hTraced : Traced nest facts lineNo) (hSound : nest.IsSound)
    (hTop : nest.mode? ≠ some .comment) (line : List Char) :
    ∃ next : Nest, next.IsSound ∧ next.toState = (Go.scanOutside nest.toState lineNo line).1 ∧
      Traced next (facts ++ (Go.scanOutside nest.toState lineNo line).2) (lineNo + 1) := by
  obtain ⟨code, isOpened, hLine⟩ := exists_code nest.toState lineNo line
  obtain ⟨middle, hMiddle, hOutside, hState, hMiddleTraced⟩ := hTraced.scanCode hSound hTop code
  rw [hLine]
  cases isOpened with
  | false => exact ⟨middle, hMiddle, hState, hMiddleTraced⟩
  | true =>
    have hFits : (Action.enter .comment none).fits middle.mode? = true := by
      simp [Action.fits, Mode.mayStandOn, Mode.isTypeBody, hOutside]
    obtain ⟨next, hPerform, hNext, hNextState⟩ := hMiddle.exists_perform hFits
    exact ⟨next, hNext, hNextState.trans (congrArg (ScanState.push · .comment) hState),
      hMiddleTraced.changeNest hMiddle hFits rfl hPerform⟩

/-- A physical line. -/
theorem scanLine (hTraced : Traced nest facts lineNo) (hSound : nest.IsSound) (line : List Char) :
    ∃ next : Nest, next.IsSound ∧ next.toState = (Go.scanLine nest.toState lineNo line).1 ∧
      Traced next (facts ++ (Go.scanLine nest.toState lineNo line).2) (lineNo + 1) := by
  rw [Go.scanLine, nest.mode?_toState]
  split_ifs with hComment
  · cases pairPosition? '*' '/' line with
    | none => exact ⟨nest, hSound, rfl, hTraced.pass hasNoEnd_nil⟩
    | some position =>
      have hFits : (Action.leave .comment).fits nest.mode? = true := by
        simp [Action.fits, hComment]
      obtain ⟨middle, hPerform, hMiddle, hState⟩ := hSound.exists_perform hFits
      have hState : middle.toState = nest.toState.pop := hState
      rw [← hState]
      exact (hTraced.changeNest hSound hFits rfl hPerform).scanOutside hMiddle
        (hSound.mode?_ne_comment hFits rfl hPerform) (line.drop (position + 2))
  · exact hTraced.scanOutside hSound hComment line

/-- Any lines. -/
theorem scanLines (hTraced : Traced nest facts lineNo) (hSound : nest.IsSound)
    (lines : List (List Char)) :
    ∃ next : Nest, Traced next (facts ++ Go.scanLines nest.toState lineNo lines)
      (lineNo + lines.length) := by
  induction lines generalizing nest facts lineNo with
  | nil => exact ⟨nest, by simpa [Go.scanLines] using hTraced⟩
  | cons line rest ih =>
    obtain ⟨middle, hMiddle, hState, hMiddleTraced⟩ := hTraced.scanLine hSound line
    obtain ⟨next, hNext⟩ := ih hMiddleTraced hMiddle
    refine ⟨next, ?_⟩
    have hNumber : lineNo + 1 + (rest.length : Int) = lineNo + ((line :: rest).length : Int) := by
      simp only [List.length_cons]
      omega
    rw [hState, hNumber, List.append_assoc] at hNext
    exact hNext

end Traced

/-- The ends of blocks in any text are well bracketed. Each of them closes a block of its own: the
end of a type belongs to an earlier definition of a type whose name it carries, the end of a
function to an earlier definition of a function, and both to one on an earlier line. Any two blocks
come one after the other or are one inside the other. -/
theorem blockEnds_bracketed (source : SourceText) :
    ∃ blocks : List Block,
      (∀ block ∈ blocks, block.IsIn (facts source)) ∧
      (∀ place fact, (facts source)[place]? = some fact → fact.table = endTable →
        ∃ block ∈ blocks, block.closing = place) ∧
      blocks.Pairwise Block.AreNested := by
  have hStart : Traced {} [] 1 := ⟨[], [], .start 1, .nil⟩
  obtain ⟨next, blocks, marks, hPast, -⟩ := hStart.scanLines ⟨rfl, nofun⟩ source.lines
  rw [List.nil_append] at hPast
  exact ⟨blocks, hPast.block_isIn, hPast.exists_block, hPast.blocks_areNested⟩

-- A struct in a struct in a function. The last brace closes nothing, and the first function has no
-- body on lines of its own.
example : (facts (.ofText ("func e() \x7b\x7d\nfunc f() \x7b\ntype S struct \x7b\n" ++
    "T struct \x7b\n\x7d\n\x7d\n\x7d\n\x7d\n").toList)).map
      (fun fact => (fact.table, fact.name, fact.lineNo)) =
    [("defs", ["e"], some 1), ("defs", ["f"], some 2), ("defs", ["S"], some 3),
      ("defs", ["S", "T"], some 4), ("end", ["S", "T", "\x7d"], some 5),
      ("end", ["S", "\x7d"], some 6), ("end", ["\x7d"], some 7)] := by
  decide

end CodeIndex.Go
