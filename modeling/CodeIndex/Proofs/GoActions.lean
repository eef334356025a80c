import CodeIndex.Extract.GoScan
import Mathlib.Tactic.Common

/-! What a line of Go does to the two stacks of the scanner is a list of actions, and each of them
fits the mode in which the line is read. -/
namespace CodeIndex.Go

/-- What a line can do to the stacks: enter a mode, which may add a name, leave the innermost mode
as a line of some mode, or add the name of a package. -/
inductive Action where
  | enter (mode : Mode) (name : Option String)
  | leave (handler : Mode)
  | addPackage (name : String)
  deriving DecidableEq, Repr

/-- The name of a package that is added. -/
def Action.package? : Action → Option String
  | .addPackage name => some name
  | _ => none

/-- The state after an action. -/
def ScanState.perform (state : ScanState) : Action → ScanState
  | .enter mode none => state.push mode
  | .enter mode (some name) => state.pushNamed mode name
  | .leave _ => state.pop
  | .addPackage name => { state with scope := state.scope ++ [name] }

/-! The actions of a line, by the mode that it is read in. -/

/-- A function body is entered if the line has one and leaves it open. -/
def functionAction? (line : List Char) : Option Action :=
  match line.dropWhile (· ≠ '\x7b') with
  | [] => none
  | _ => if leavesOpen line then some (.enter .functionBody none) else none

/-- The body of a type is entered if the line leaves it open. -/
def typeAction? (mode : Mode) (name : String) (line : List Char) : Option Action :=
  if leavesOpen line then some (.enter mode (some name)) else none

@[inherit_doc scanPlain]
def plainAction? (line : List Char) : Option Action :=
  match LineShape.ofLine line with
  | .function _ => functionAction? line
  | .method _ _ => functionAction? line
  | .package name => some (.addPackage (nameText name))
  | .structType name => typeAction? .structBody (nameText name) line
  | .interfaceType name => typeAction? .interfaceBody (nameText name) line
  | .importGroup => some (.enter .importGroup none)
  | .valueGroup => some (.enter .valueGroup none)
  | _ => none

@[inherit_doc scanCode]
def codeAction? (top : Option Mode) (line : List Char) : Option Action :=
  match top with
  | some .structBody =>
    if isClosing '\x7d' line then some (.leave .structBody)
    else (nestedStruct? line).map fun name => .enter .structBody (some (nameText name))
  | some .interfaceBody => if isClosing '\x7d' line then some (.leave .interfaceBody) else none
  | some .valueGroup => if isClosing ')' line then some (.leave .valueGroup) else none
  | some .importGroup => if isClosing ')' line then some (.leave .importGroup) else none
  | some .functionBody =>
    if closesFunction line then some (.leave .functionBody) else plainAction? line
  | some .comment | none => plainAction? line

@[inherit_doc scanOutside]
def outsideActions (top : Option Mode) (line : List Char) : List Action :=
  let (code, opened) := dropBlockComments (dropLineComment line)
  let code := if top = some .importGroup || startsImport code then code else blankLiterals code
  (codeAction? top code).toList ++ if opened then [.enter .comment none] else []

@[inherit_doc scanLine]
def lineActions (state : ScanState) (line : List Char) : List Action :=
  if state.mode? = some .comment then
    match pairPosition? '*' '/' line with
    | none => []
    | some position =>
      .leave .comment :: outsideActions state.pop.mode? (line.drop (position + 2))
  else outsideActions state.mode? line

/-- The state after lines that are counted from a number on. -/
def stateAfter : ScanState → (lineNo : Int) → List (List Char) → ScanState
  | state, _, [] => state
  | state, lineNo, line :: rest => stateAfter (scanLine state lineNo line).1 (lineNo + 1) rest

/-- The actions of lines that are counted from a number on. -/
def actionsOf : ScanState → (lineNo : Int) → List (List Char) → List Action
  | _, _, [] => []
  | state, lineNo, line :: rest =>
    lineActions state line ++ actionsOf (scanLine state lineNo line).1 (lineNo + 1) rest

/-- What the scanner finds in the lines after some point depends on its state there alone. -/
theorem scanLines_append (state : ScanState) (lineNo : Int) (first rest : List (List Char)) :
    scanLines state lineNo (first ++ rest) =
      scanLines state lineNo first ++
        scanLines (stateAfter state lineNo first) (lineNo + first.length) rest := by
  induction first generalizing state lineNo with
  | nil => simp [scanLines, stateAfter]
  | cons line first ih =>
    have hNumber : lineNo + 1 + (first.length : Int) = lineNo + ((line :: first).length : Int) := by
      simp only [List.length_cons]
      omega
    simp only [List.cons_append, scanLines, stateAfter, ih, hNumber, List.append_assoc]

/-- The head of a function changes the state by its action. -/
theorem enterFunction_fst (state : ScanState) (lineNo : Int) (line : List Char) :
    (enterFunction state lineNo line).1 =
      ((functionAction? line).map state.perform).getD state := by
  rw [enterFunction, functionAction?]
  cases line.dropWhile (· ≠ '\x7b') with
  | nil => rfl
  | cons brace body =>
    dsimp only
    split_ifs <;> rfl

theorem enterType_fst (state : ScanState) (mode : Mode) (name : String) (lineNo : Int)
    (line : List Char) :
    (enterType state mode name lineNo line).1 =
      ((typeAction? mode name line).map state.perform).getD state := by
  rw [enterType, typeAction?]
  split_ifs <;> rfl

theorem scanPlain_fst (state : ScanState) (lineNo : Int) (line : List Char) :
    (scanPlain state lineNo line).1 = ((plainAction? line).map state.perform).getD state := by
  rw [scanPlain, plainAction?]
  cases LineShape.ofLine line with
  | function name => exact enterFunction_fst state lineNo line
  | method receiver name => exact enterFunction_fst state lineNo line
  | structType name => exact enterType_fst state .structBody (nameText name) lineNo line
  | interfaceType name => exact enterType_fst state .interfaceBody (nameText name) lineNo line
  | _ => rfl

/-- A line of code changes the state by its action. -/
theorem scanCode_fst (state : ScanState) (lineNo : Int) (line : List Char) :
    (scanCode state lineNo line).1 =
      ((codeAction? state.mode? line).map state.perform).getD state := by
  rw [scanCode]
  cases state.mode? with
  | none => exact scanPlain_fst state lineNo line
  | some mode =>
    cases mode with
    | comment => exact scanPlain_fst state lineNo line
    | importGroup =>
      simp only [scanImports, codeAction?]
      split_ifs <;> rfl
    | structBody =>
      simp only [scanStruct, codeAction?]
      split_ifs
      · rfl
      · cases nestedStruct? line with
        | some name => rfl
        | none => cases fieldNames? line <;> rfl
    | interfaceBody =>
      simp only [scanInterface, codeAction?]
      split_ifs
      · rfl
      · cases interfaceMethod? line <;> rfl
    | valueGroup =>
      simp only [scanValues, codeAction?]
      split_ifs
      · rfl
      · cases namesBeforeValue? line <;> rfl
    | functionBody =>
      simp only [scanFunction, codeAction?]
      split_ifs
      · rfl
      · exact scanPlain_fst state lineNo line

/-- A line that starts outside comments changes the state by its actions in turn. -/
theorem scanOutside_fst (state : ScanState) (lineNo : Int) (line : List Char) :
    (scanOutside state lineNo line).1 =
      (outsideActions state.mode? line).foldl ScanState.perform state := by
  simp only [scanOutside, outsideActions, List.foldl_append, scanCode_fst]
  generalize codeAction? state.mode? _ = action
  cases (dropBlockComments (dropLineComment line)).2 <;> cases action <;> rfl

/-- The state after a line is the state after its actions. -/
theorem scanLine_fst (state : ScanState) (lineNo : Int) (line : List Char) :
    (scanLine state lineNo line).1 = (lineActions state line).foldl ScanState.perform state := by
  rw [scanLine, lineActions]
  split_ifs
  · cases pairPosition? '*' '/' line with
    | none => rfl
    | some position => exact scanOutside_fst state.pop lineNo (line.drop (position + 2))
  · exact scanOutside_fst state lineNo line

/-- The state after some lines is reached by the actions of these lines. The induction is on the
lines. -/
theorem stateAfter_eq_foldl (state : ScanState) (lineNo : Int) (lines : List (List Char)) :
    stateAfter state lineNo lines =
      (actionsOf state lineNo lines).foldl ScanState.perform state := by
  induction lines generalizing state lineNo with
  | nil => rfl
  | cons line rest ih =>
    rw [stateAfter, actionsOf, List.foldl_append, ← scanLine_fst state lineNo line, ih]

/-! Which actions fit. -/

/-- Whether a mode belongs to the body of a type, which has a name. -/
def Mode.isTypeBody : Mode → Bool
  | .structBody | .interfaceBody => true
  | _ => false

/-- Whether a mode may be entered in another one. Only structs are nested in structs, and comments
are nowhere in comments; all else is entered at the top level or in a function. -/
def Mode.mayStandOn (mode : Mode) (below : Option Mode) : Bool :=
  match mode with
  | .comment => below ≠ some .comment
  | .structBody => below = none || below = some .functionBody || below = some .structBody
  | _ => below = none || below = some .functionBody

/-- Whether each mode may stand on the one below it. The innermost one comes first. -/
def isNested : List Mode → Bool
  | [] => true
  | mode :: below => mode.mayStandOn below.head? && isNested below

/-- Whether an action fits the innermost mode. -/
def Action.fits (top : Option Mode) : Action → Bool
  | .enter mode name => mode.mayStandOn top && name.isSome == mode.isTypeBody
  | .leave handler => top = some handler
  | .addPackage _ => top = none || top = some .functionBody

/-- Whether an action enters a comment. -/
def Action.entersComment : Action → Bool
  | .enter .comment _ => true
  | _ => false

theorem eq_of_functionAction? {line : List Char} {action : Action}
    (hAction : functionAction? line = some action) : action = .enter .functionBody none := by
  rw [functionAction?] at hAction
  split at hAction
  · cases hAction
  · split_ifs at hAction
    exact (Option.some.inj hAction).symm

theorem eq_of_typeAction? {mode : Mode} {name : String} {line : List Char} {action : Action}
    (hAction : typeAction? mode name line = some action) : action = .enter mode (some name) := by
  rw [typeAction?] at hAction
  split_ifs at hAction
  exact (Option.some.inj hAction).symm

/-- At the top level and in functions everything but a comment may be entered. -/
theorem enter_fits {top : Option Mode} (hTop : top = none ∨ top = some .functionBody) {mode : Mode}
    {name : Option String} (hMode : mode ≠ .comment) (hName : name.isSome = mode.isTypeBody) :
    (Action.enter mode name).fits top = true ∧ (Action.enter mode name).entersComment = false := by
  have hStands : mode.mayStandOn top = true := by
    rcases hTop with rfl | rfl <;> cases mode <;> rfl
  refine ⟨by rw [Action.fits, hStands, hName]; simp, ?_⟩
  cases mode with
  | comment => exact absurd rfl hMode
  | _ => rfl

/-- The actions of lines outside groups are allowed there, and enter no comment. -/
theorem plainAction?_fits {top : Option Mode} (hTop : top = none ∨ top = some .functionBody)
    {line : List Char} {action : Action} (hAction : plainAction? line = some action) :
    action.fits top = true ∧ action.entersComment = false := by
  rw [plainAction?] at hAction
  cases hShape : LineShape.ofLine line with
  | function name =>
    rw [hShape] at hAction
    rw [eq_of_functionAction? hAction]
    exact enter_fits hTop (by decide) rfl
  | method receiver name =>
    rw [hShape] at hAction
    rw [eq_of_functionAction? hAction]
    exact enter_fits hTop (by decide) rfl
  | package name =>
    rw [hShape] at hAction
    obtain rfl := Option.some.inj hAction
    exact ⟨by simpa [Action.fits] using hTop, rfl⟩
  | structType name =>
    rw [hShape] at hAction
    rw [eq_of_typeAction? hAction]
    exact enter_fits hTop (by decide) rfl
  | interfaceType name =>
    rw [hShape] at hAction
    rw [eq_of_typeAction? hAction]
    exact enter_fits hTop (by decide) rfl
  | importGroup =>
    rw [hShape] at hAction
    obtain rfl := Option.some.inj hAction
    exact enter_fits hTop (by decide) rfl
  | valueGroup =>
    rw [hShape] at hAction
    obtain rfl := Option.some.inj hAction
    exact enter_fits hTop (by decide) rfl
  | _ =>
    rw [hShape] at hAction
    cases hAction

/-- A line that only waits for the end of its mode leaves that mode if it does anything. -/
theorem leave_fits {mode : Mode} {isEnd : Bool} {action : Action}
    (hAction : (if isEnd then some (Action.leave mode) else none) = some action) :
    action.fits (some mode) = true ∧ action.entersComment = false := by
  split_ifs at hAction
  obtain rfl := Option.some.inj hAction
  exact ⟨by simp [Action.fits], rfl⟩

/-- The actions of lines of code are allowed in the mode that they come from, and enter no comment.
-/
theorem codeAction?_fits {top : Option Mode} (hTop : top ≠ some .comment) {line : List Char}
    {action : Action} (hAction : codeAction? top line = some action) :
    action.fits top = true ∧ action.entersComment = false := by
  cases top with
  | none => exact plainAction?_fits (.inl rfl) hAction
  | some mode =>
    cases mode with
    | comment => exact absurd rfl hTop
    | importGroup => exact leave_fits hAction
    | interfaceBody => exact leave_fits hAction
    | valueGroup => exact leave_fits hAction
    | structBody =>
      rw [codeAction?] at hAction
      split_ifs at hAction
      · obtain rfl := Option.some.inj hAction
        exact ⟨rfl, rfl⟩
      · obtain ⟨name, -, rfl⟩ := Option.map_eq_some_iff.mp hAction
        exact ⟨rfl, rfl⟩
    | functionBody =>
      rw [codeAction?] at hAction
      split_ifs at hAction
      · obtain rfl := Option.some.inj hAction
        exact ⟨rfl, rfl⟩
      · exact plainAction?_fits (.inr rfl) hAction

end CodeIndex.Go
