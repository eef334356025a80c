import CodeIndex.Proofs.GoActions

/-! The shape of the two stacks of the Go scanner. Actions that fit keep it, so it holds after every
line, and every mode is left by the lines it belongs to, together with the name that was added when
it was entered. -/
namespace CodeIndex.Go

/-- A stack is nested if its top may stand on what is below it, and the rest is nested. -/
theorem isNested_cons_iff {mode : Mode} {below : List Mode} :
    isNested (mode :: below) = true ↔
      mode.mayStandOn below.head? = true ∧ isNested below = true := by
  rw [isNested, Bool.and_eq_true]

/-- Only function bodies stand below a function body. -/
theorem eq_replicate_functionBody {modes : List Mode} (hNested : isNested modes = true)
    (hTop : modes.head? = none ∨ modes.head? = some .functionBody) :
    modes = List.replicate modes.length .functionBody := by
  induction modes with
  | nil => rfl
  | cons mode below ih =>
    rw [isNested_cons_iff] at hNested
    obtain rfl : mode = .functionBody := by simpa using hTop
    have hBelow : below.head? = none ∨ below.head? = some .functionBody := by
      simpa [Mode.mayStandOn] using hNested.1
    rw [List.length_cons, List.replicate_succ, ← ih hNested.2 hBelow]

/-- What can stand on function bodies: nothing, a single group or interface, or structs in each
other. -/
def IsGroup (modes : List Mode) : Prop :=
  modes = [] ∨ modes = [.valueGroup] ∨ modes = [.importGroup] ∨ modes = [.interfaceBody] ∨
    ∃ depth, modes = List.replicate (depth + 1) .structBody

theorem IsGroup.reverse_eq {modes : List Mode} (hGroup : IsGroup modes) :
    modes.reverse = modes := by
  obtain rfl | rfl | rfl | rfl | ⟨depth, rfl⟩ := hGroup
  · rfl
  · rfl
  · rfl
  · rfl
  · exact List.reverse_replicate

/-- A stack with a struct on top is made of structs in structs, which may be in functions. -/
theorem exists_structs {modes : List Mode} (hNested : isNested modes = true)
    (hTop : modes.head? = some .structBody) :
    ∃ depth bodies, modes =
      List.replicate (depth + 1) .structBody ++ List.replicate bodies .functionBody := by
  induction modes with
  | nil => cases hTop
  | cons mode below ih =>
    rw [isNested_cons_iff] at hNested
    obtain rfl : mode = .structBody := by simpa using hTop
    have hBelow : (below.head? = none ∨ below.head? = some .functionBody) ∨
        below.head? = some .structBody := by
      simpa [Mode.mayStandOn] using hNested.1
    rcases hBelow with hBodies | hStruct
    · refine ⟨0, below.length, ?_⟩
      rw [← eq_replicate_functionBody hNested.2 hBodies]
      rfl
    · obtain ⟨depth, bodies, rfl⟩ := ih hNested.2 hStruct
      exact ⟨depth + 1, bodies, rfl⟩

/-- A group or an interface stands on function bodies alone. -/
theorem exists_single {mode : Mode} {below : List Mode} (hNested : isNested (mode :: below) = true)
    (hMode : IsGroup [mode]) (hBelow : below.head? = none ∨ below.head? = some .functionBody) :
    ∃ bodies group, mode :: below = group ++ List.replicate bodies .functionBody ∧
      IsGroup group := by
  refine ⟨below.length, [mode], ?_, hMode⟩
  rw [← eq_replicate_functionBody (isNested_cons_iff.mp hNested).2 hBelow]
  rfl

/-- A stack without a comment on top is made of a group, or none, in functions. -/
theorem exists_group {modes : List Mode} (hNested : isNested modes = true)
    (hTop : modes.head? ≠ some .comment) :
    ∃ bodies group, modes = group ++ List.replicate bodies .functionBody ∧ IsGroup group := by
  cases modes with
  | nil => exact ⟨0, [], rfl, .inl rfl⟩
  | cons mode below =>
    have hStands := (isNested_cons_iff.mp hNested).1
    cases mode with
    | comment => exact absurd rfl hTop
    | functionBody =>
      exact ⟨below.length + 1, [], eq_replicate_functionBody hNested (.inr rfl), .inl rfl⟩
    | structBody =>
      obtain ⟨depth, bodies, hModes⟩ := exists_structs hNested rfl
      exact ⟨bodies, _, hModes, .inr (.inr (.inr (.inr ⟨depth, rfl⟩)))⟩
    | valueGroup =>
      exact exists_single hNested (.inr (.inl rfl)) (by simpa [Mode.mayStandOn] using hStands)
    | importGroup =>
      exact exists_single hNested (.inr (.inr (.inl rfl)))
        (by simpa [Mode.mayStandOn] using hStands)
    | interfaceBody =>
      exact exists_single hNested (.inr (.inr (.inr (.inl rfl))))
        (by simpa [Mode.mayStandOn] using hStands)

/-- Nested modes from the outermost on: function bodies, what can stand on them, and at most one
comment. -/
theorem exists_shape {modes : List Mode} (hNested : isNested modes = true) :
    ∃ bodies group comments,
      modes.reverse = List.replicate bodies .functionBody ++ group ++ comments ∧
      IsGroup group ∧ (comments = [] ∨ comments = [.comment]) := by
  by_cases hTop : modes.head? = some .comment
  · obtain ⟨below, rfl⟩ := List.head?_eq_some_iff.mp hTop
    obtain ⟨hStands, hBelow⟩ := isNested_cons_iff.mp hNested
    obtain ⟨bodies, group, rfl, hGroup⟩ :=
      exists_group hBelow (by simpa [Mode.mayStandOn] using hStands)
    refine ⟨bodies, group, [.comment], ?_, hGroup, .inr rfl⟩
    rw [List.reverse_cons, List.reverse_append, List.reverse_replicate, hGroup.reverse_eq]
  · obtain ⟨bodies, group, rfl, hGroup⟩ := exists_group hNested hTop
    refine ⟨bodies, group, [], ?_, hGroup, .inl rfl⟩
    rw [List.reverse_append, List.reverse_replicate, hGroup.reverse_eq, List.append_nil]

/-! The stacks with the names that belong to the modes. -/

/-- An open mode with the name that it added. -/
structure Layer where
  mode : Mode
  name : Option String
  deriving DecidableEq, Repr

/-- The packages met so far, and the open modes from the innermost on. -/
structure Nest where
  packages : List String := []
  layers : List Layer := []
  deriving DecidableEq, Repr

namespace Nest

/-- The innermost mode. -/
def mode? (nest : Nest) : Option Mode := nest.layers.head?.map Layer.mode

/-- The scope is made of the packages and of the names of the open modes, the outermost one
first. -/
def toState (nest : Nest) : ScanState :=
  ⟨nest.packages ++ nest.layers.reverse.filterMap Layer.name,
    nest.layers.map fun layer => ⟨layer.mode, layer.name.isSome⟩⟩

/-- The nest after an action. A mode can only be left by a line of the same mode. -/
def perform? (nest : Nest) : Action → Option Nest
  | .enter mode name => some { nest with layers := ⟨mode, name⟩ :: nest.layers }
  | .leave handler =>
    match nest.layers with
    | [] => none
    | layer :: rest => if layer.mode = handler then some { nest with layers := rest } else none
  | .addPackage name => some { nest with packages := nest.packages ++ [name] }

/-- Each mode may stand on the one below it, and the bodies of types are those with a name. -/
structure IsSound (nest : Nest) : Prop where
  nested : isNested (nest.layers.map Layer.mode) = true
  named : ∀ layer ∈ nest.layers, layer.name.isSome = layer.mode.isTypeBody

theorem mode?_toState (nest : Nest) : nest.toState.mode? = nest.mode? := by
  obtain ⟨packages, layers⟩ := nest
  cases layers <;> rfl

theorem head?_modes (nest : Nest) : (nest.layers.map Layer.mode).head? = nest.mode? :=
  List.head?_map

/-- At the top level and in functions no mode has added a name. -/
theorem IsSound.names_eq_nil {nest : Nest} (hSound : nest.IsSound)
    (hTop : nest.mode? = none ∨ nest.mode? = some .functionBody) :
    nest.layers.reverse.filterMap Layer.name = [] := by
  rw [← head?_modes] at hTop
  have hModes := eq_replicate_functionBody hSound.nested hTop
  rw [List.filterMap_eq_nil_iff]
  intro layer hLayer
  rw [List.mem_reverse] at hLayer
  have hMode : layer.mode = .functionBody := by
    have hMem : layer.mode ∈ nest.layers.map Layer.mode := List.mem_map_of_mem hLayer
    rw [hModes] at hMem
    exact List.eq_of_mem_replicate hMem
  have hName := hSound.named layer hLayer
  rw [hMode] at hName
  exact Option.not_isSome_iff_eq_none.mp (by simp [hName, Mode.isTypeBody])

/-- An action that fits can be performed, and does to the state what it does to the nest. -/
theorem IsSound.exists_perform {nest : Nest} (hSound : nest.IsSound) {action : Action}
    (hFits : action.fits nest.mode? = true) :
    ∃ next, nest.perform? action = some next ∧ next.IsSound ∧
      next.toState = nest.toState.perform action := by
  cases action with
  | enter mode name =>
    rw [Action.fits, Bool.and_eq_true, beq_iff_eq] at hFits
    refine ⟨_, rfl, ⟨?_, ?_⟩, ?_⟩
    · rw [List.map_cons, isNested_cons_iff, head?_modes]
      exact ⟨hFits.1, hSound.nested⟩
    · intro layer hLayer
      rcases List.mem_cons.mp hLayer with rfl | hLayer
      · exact hFits.2
      · exact hSound.named layer hLayer
    · cases name with
      | none => simp [toState, ScanState.perform, ScanState.push]
      | some name => simp [toState, ScanState.perform, ScanState.pushNamed]
  | leave handler =>
    obtain ⟨packages, layers⟩ := nest
    cases layers with
    | nil => simp [Action.fits, mode?] at hFits
    | cons layer rest =>
      have hMode : layer.mode = handler := by simpa [Action.fits, mode?] using hFits
      have hNested : isNested (rest.map Layer.mode) = true := by
        have hAll := hSound.nested
        rw [List.map_cons, isNested_cons_iff] at hAll
        exact hAll.2
      refine ⟨⟨packages, rest⟩, if_pos hMode,
        ⟨hNested, fun other hOther => hSound.named other (List.mem_cons_of_mem _ hOther)⟩, ?_⟩
      obtain ⟨mode, name⟩ := layer
      cases name with
      | none => simp [toState, ScanState.perform, ScanState.pop]
      | some name =>
        simp [toState, ScanState.perform, ScanState.pop, ← List.append_assoc]
  | addPackage name =>
    have hNames := hSound.names_eq_nil (by simpa [Action.fits] using hFits)
    refine ⟨_, rfl, ⟨hSound.nested, hSound.named⟩, ?_⟩
    simp [toState, ScanState.perform, hNames]

/-- A run of actions that fit, each in its turn. -/
inductive Runs : Nest → List Action → Nest → Prop
  | nil (nest : Nest) : Runs nest [] nest
  | cons {nest middle next : Nest} {action : Action} {actions : List Action}
    (hFits : action.fits nest.mode? = true) (hPerform : nest.perform? action = some middle)
    (hRest : Runs middle actions next) : Runs nest (action :: actions) next

theorem Runs.append {nest middle next : Nest} {first second : List Action}
    (hFirst : nest.Runs first middle) (hSecond : middle.Runs second next) :
    nest.Runs (first ++ second) next := by
  induction hFirst with
  | nil => exact hSecond
  | cons hFits hPerform _ ih => exact .cons hFits hPerform (ih hSecond)

theorem Runs.split {nest next : Nest} {first second : List Action}
    (hRuns : nest.Runs (first ++ second) next) :
    ∃ middle, nest.Runs first middle ∧ middle.Runs second next := by
  induction first generalizing nest with
  | nil => exact ⟨nest, .nil nest, hRuns⟩
  | cons action first ih =>
    cases hRuns with
    | cons hFits hPerform hRest =>
      obtain ⟨middle, hFirst, hSecond⟩ := ih hRest
      exact ⟨middle, .cons hFits hPerform hFirst, hSecond⟩

/-- A run keeps the nest sound and leads to the state that the actions lead to. -/
theorem Runs.isSound_toState {nest next : Nest} {actions : List Action}
    (hRuns : nest.Runs actions next) (hSound : nest.IsSound) :
    next.IsSound ∧ next.toState = actions.foldl ScanState.perform nest.toState := by
  induction hRuns with
  | nil nest => exact ⟨hSound, rfl⟩
  | cons hFits hPerform _ ih =>
    obtain ⟨middle, hMiddle, hMiddleSound, hState⟩ := hSound.exists_perform hFits
    obtain rfl : middle = _ := Option.some.inj (hMiddle.symm.trans hPerform)
    rw [List.foldl_cons, ← hState]
    exact ih hMiddleSound

/-- A mode is left by a line of that mode, together with its name. -/
theorem perform?_leave_eq_some_iff {nest next : Nest} {handler : Mode} :
    nest.perform? (.leave handler) = some next ↔
      ∃ name, nest.layers = ⟨handler, name⟩ :: next.layers ∧ nest.packages = next.packages := by
  obtain ⟨packages, layers⟩ := nest
  obtain ⟨nextPackages, nextLayers⟩ := next
  cases layers with
  | nil => simp [perform?]
  | cons layer rest =>
    obtain ⟨mode, name⟩ := layer
    simp only [perform?, Option.ite_none_right_eq_some, Option.some.injEq, Nest.mk.injEq,
      List.cons.injEq, Layer.mk.injEq]
    constructor
    · rintro ⟨rfl, rfl, rfl⟩
      exact ⟨name, ⟨⟨rfl, rfl⟩, rfl⟩, rfl⟩
    · rintro ⟨other, ⟨⟨rfl, -⟩, rfl⟩, rfl⟩
      exact ⟨rfl, rfl, rfl⟩

/-- The only action that names a package adds it at the end. -/
theorem packages_of_perform? {nest next : Nest} {action : Action}
    (hPerform : nest.perform? action = some next) :
    next.packages = nest.packages ++ action.package?.toList := by
  cases action with
  | enter mode name =>
    obtain rfl := Option.some.inj hPerform
    simp [Action.package?]
  | leave handler =>
    obtain ⟨name, -, hPackages⟩ := perform?_leave_eq_some_iff.mp hPerform
    simp [Action.package?, hPackages]
  | addPackage name =>
    obtain rfl := Option.some.inj hPerform
    rfl

/-- The packages are those named by the actions in turn. -/
theorem Runs.packages_eq {nest next : Nest} {actions : List Action}
    (hRuns : nest.Runs actions next) :
    next.packages = nest.packages ++ actions.filterMap Action.package? := by
  induction hRuns with
  | nil => simp
  | @cons nest middle next action actions _ hPerform _ ih =>
    rw [ih, packages_of_perform? hPerform, List.append_assoc]
    cases hPackage : action.package? <;> simp [hPackage]

/-- After an action that enters no comment the innermost mode is none, since nothing stands on a
comment. -/
theorem IsSound.mode?_ne_comment {nest next : Nest} {action : Action} (hSound : nest.IsSound)
    (hFits : action.fits nest.mode? = true) (hAction : action.entersComment = false)
    (hPerform : nest.perform? action = some next) : next.mode? ≠ some .comment := by
  cases action with
  | enter mode name =>
    obtain rfl := Option.some.inj hPerform
    cases mode <;> simp_all [mode?, Action.entersComment]
  | leave handler =>
    obtain ⟨name, hLayers, -⟩ := perform?_leave_eq_some_iff.mp hPerform
    intro hComment
    have hNested := hSound.nested
    rw [hLayers, List.map_cons, isNested_cons_iff, head?_modes, hComment] at hNested
    cases handler <;> simp [Mode.mayStandOn] at hNested
  | addPackage name =>
    obtain rfl := Option.some.inj hPerform
    rintro hComment
    rw [show nest.mode? = some .comment from hComment] at hFits
    simp [Action.fits] at hFits

theorem exists_runs_comment {nest : Nest} (hTop : nest.mode? ≠ some .comment) (isOpened : Bool) :
    ∃ next, nest.Runs (if isOpened then [.enter .comment none] else []) next := by
  cases isOpened with
  | false => exact ⟨nest, .nil nest⟩
  | true =>
    have hFits : (Action.enter .comment none).fits nest.mode? = true := by
      simp [Action.fits, Mode.mayStandOn, Mode.isTypeBody, hTop]
    exact ⟨_, .cons hFits rfl (.nil _)⟩

/-- All actions of a line that starts outside comments can run, so that the scan never takes from an
empty stack. -/
theorem IsSound.exists_runs_outside {nest : Nest} (hSound : nest.IsSound)
    (hTop : nest.mode? ≠ some .comment) (line : List Char) :
    ∃ next, nest.Runs (outsideActions nest.mode? line) next := by
  simp only [outsideActions]
  cases hAction : codeAction? nest.mode? _ with
  | none => exact exists_runs_comment hTop _
  | some action =>
    obtain ⟨hFits, hEnters⟩ := codeAction?_fits hTop hAction
    obtain ⟨middle, hPerform, -, -⟩ := hSound.exists_perform hFits
    obtain ⟨next, hRuns⟩ := exists_runs_comment
      (hSound.mode?_ne_comment hFits hEnters hPerform) (dropBlockComments (dropLineComment line)).2
    exact ⟨next, .cons hFits hPerform hRuns⟩

/-- The actions of a line fit, whatever the line is. -/
theorem IsSound.exists_runs_line {nest : Nest} (hSound : nest.IsSound) (line : List Char) :
    ∃ next, nest.Runs (lineActions nest.toState line) next := by
  rw [lineActions, mode?_toState]
  split_ifs with hComment
  · cases pairPosition? '*' '/' line with
    | none => exact ⟨nest, .nil nest⟩
    | some position =>
      have hFits : (Action.leave .comment).fits nest.mode? = true := by simp [Action.fits, hComment]
      obtain ⟨middle, hPerform, hMiddle, hState⟩ := hSound.exists_perform hFits
      obtain ⟨next, hRuns⟩ := hMiddle.exists_runs_outside
        (hSound.mode?_ne_comment hFits rfl hPerform) (line.drop (position + 2))
      rw [← mode?_toState, hState] at hRuns
      exact ⟨next, .cons hFits hPerform hRuns⟩
  · exact hSound.exists_runs_outside hComment line

/-- The actions of any lines fit. -/
theorem IsSound.exists_runs_lines {nest : Nest} (hSound : nest.IsSound) (lineNo : Int)
    (lines : List (List Char)) : ∃ next, nest.Runs (actionsOf nest.toState lineNo lines) next := by
  induction lines generalizing nest lineNo with
  | nil => exact ⟨nest, .nil nest⟩
  | cons line rest ih =>
    obtain ⟨middle, hLine⟩ := hSound.exists_runs_line line
    obtain ⟨hMiddle, hState⟩ := hLine.isSound_toState hSound
    obtain ⟨next, hRest⟩ := ih hMiddle (lineNo + 1)
    rw [hState, ← scanLine_fst _ lineNo] at hRest
    exact ⟨next, hLine.append hRest⟩

/-- Where a run leaves a mode, the innermost one is of the kind that is left, and its name is the
last one of the scope. -/
theorem Runs.exists_layer_of_leave {nest next : Nest} {before after : List Action} {handler : Mode}
    (hSound : nest.IsSound) (hRuns : nest.Runs (before ++ .leave handler :: after) next) :
    ∃ packages name rest,
      nest.Runs before ⟨packages, ⟨handler, name⟩ :: rest⟩ ∧
      before.foldl ScanState.perform nest.toState = toState ⟨packages, ⟨handler, name⟩ :: rest⟩ ∧
      (before.foldl ScanState.perform nest.toState).pop = toState ⟨packages, rest⟩ := by
  obtain ⟨⟨packages, layers⟩, hBefore, hAfter⟩ := hRuns.split
  obtain ⟨hMiddle, hState⟩ := hBefore.isSound_toState hSound
  rw [← hState]
  cases hAfter with
  | @cons _ left _ _ _ hFits hPerform _ =>
    obtain ⟨other, hOther, -, hPop⟩ := hMiddle.exists_perform hFits
    obtain rfl : other = left := Option.some.inj (hOther.symm.trans hPerform)
    obtain ⟨name, rfl, rfl⟩ := perform?_leave_eq_some_iff.mp hPerform
    exact ⟨_, name, other.layers, hBefore, rfl, hPop.symm⟩

end Nest

theorem Mode.isTypeBody_iff {mode : Mode} :
    mode.isTypeBody = true ↔ mode = .structBody ∨ mode = .interfaceBody := by
  cases mode <;> simp [isTypeBody]

open Nest in
/-- The stacks of the scanner after any number of lines of any text. From the outermost one on, the
modes are function bodies, then a single group or interface or any number of structs, then at most
one comment. The bodies of structs and interfaces are the ones with a name, and the scope is made
of the packages met so far and of these names. Each mode is left by a line of that mode, and the
name that goes with it is the one that was added when the mode was entered. -/
theorem stacks_shape (source : SourceText) (count : Nat) :
    let lines := source.lines.take count
    let state := stateAfter {} 1 lines
    let actions := actionsOf {} 1 lines
    facts source = scanLines {} 1 lines ++
      scanLines state (1 + lines.length) (source.lines.drop count) ∧
    state = actions.foldl ScanState.perform {} ∧
    (∃ bodies group comments, state.frames.reverse.map Frame.mode =
        List.replicate bodies .functionBody ++ group ++ comments ∧
      IsGroup group ∧ (comments = [] ∨ comments = [.comment])) ∧
    (∀ frame ∈ state.frames,
      frame.named = true ↔ frame.mode = .structBody ∨ frame.mode = .interfaceBody) ∧
    (∃ layers : List Layer,
      Runs {} actions ⟨actions.filterMap Action.package?, layers⟩ ∧
      state.frames = layers.map (fun layer => ⟨layer.mode, layer.name.isSome⟩) ∧
      state.scope = actions.filterMap Action.package? ++ layers.reverse.filterMap Layer.name) ∧
    ∀ before handler after, actions = before ++ .leave handler :: after →
      ∃ packages name rest,
        Runs {} before ⟨packages, ⟨handler, name⟩ :: rest⟩ ∧
        before.foldl ScanState.perform {} = toState ⟨packages, ⟨handler, name⟩ :: rest⟩ ∧
        (before.foldl ScanState.perform {}).pop = toState ⟨packages, rest⟩ := by
  intro lines state actions
  have hEmpty : IsSound {} := ⟨rfl, nofun⟩
  have hState : state = actions.foldl ScanState.perform {} := stateAfter_eq_foldl {} 1 lines
  obtain ⟨next, hRuns⟩ : ∃ next, Runs {} actions next := hEmpty.exists_runs_lines 1 lines
  obtain ⟨hSound, hNext⟩ := hRuns.isSound_toState hEmpty
  have hPackages : next.packages = actions.filterMap Action.package? := hRuns.packages_eq
  have hToState : state = next.toState := hState.trans hNext.symm
  refine ⟨?_, hState, ?_, ?_, ?_, ?_⟩
  · rw [← scanLines_append, List.take_append_drop]
    rfl
  · rw [hToState]
    have hModes : next.toState.frames.map Frame.mode = next.layers.map Layer.mode := by
      simp [toState, Function.comp_def]
    rw [List.map_reverse, hModes]
    exact exists_shape hSound.nested
  · intro frame hFrame
    rw [hToState] at hFrame
    obtain ⟨layer, hLayer, rfl⟩ := List.mem_map.mp hFrame
    rw [hSound.named layer hLayer, Mode.isTypeBody_iff]
  · refine ⟨next.layers, ?_, ?_, ?_⟩
    · rw [← hPackages]
      exact hRuns
    · rw [hToState]
      rfl
    · rw [hToState, ← hPackages]
      rfl
  · intro before handler after hActions
    exact Runs.exists_layer_of_leave hEmpty (hActions ▸ hRuns)

end CodeIndex.Go
