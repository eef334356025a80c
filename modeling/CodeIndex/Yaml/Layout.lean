import CodeIndex.Yaml.ScalarText

/-! From the text of a YAML stream to its tokens. Indentation starts and ends blocks, and a key is
only known as such when the colon after it is met. -/
namespace CodeIndex.Yaml

open Reading

/-- Drops the places where keys may have started if they are too far back: a key is within one line
and has up to 1024 characters. -/
def dropStaleKeys : Reading Unit := do
  let layout ← get
  let isStale (key : PossibleKey) : Bool :=
    key.line ≠ layout.cursor.line || 1024 < layout.cursor.index - key.index
  if layout.possibleKeys.any fun (_, key) => isStale key && key.isRequired then refuse
  set { layout with possibleKeys := layout.possibleKeys.filter fun (_, key) => !isStale key }

/-- The place where a key may have started at the present depth. -/
def possibleKey? : Reading (Option PossibleKey) := do
  let layout ← get
  return layout.possibleKeys.lookup layout.flowLevel

/-- Forgets the place where a key may have started at the present depth. -/
def forgetKey : Reading Unit :=
  modify fun layout => { layout with
    possibleKeys := layout.possibleKeys.filter fun (level, _) => level ≠ layout.flowLevel }

/-- Gives up the place where a key may have started. There must not be one where a key has to be. -/
def dropKey : Reading Unit := do
  if (← possibleKey?).any PossibleKey.isRequired then refuse
  forgetKey

/-- Remembers that a key may start here. -/
def saveKey : Reading Unit := do
  let layout ← get
  let isRequired := layout.flowLevel = 0 && layout.indent = Int.ofNat layout.cursor.column
  if layout.allowsKey then
    dropKey
    let key : PossibleKey := ⟨layout.tokens.length, isRequired, layout.cursor.index,
      layout.cursor.line, layout.cursor.column⟩
    modify fun layout => { layout with
      possibleKeys := (layout.flowLevel, key) :: layout.possibleKeys }

/-- Ends the blocks that are indented more than a column. -/
def closeBlocks (layout : Layout) (column : Int) : List Int → Layout
  | [] => layout
  | outer :: rest =>
    if column < layout.indent then
      closeBlocks { layout with
        indent := outer, indents := rest, tokens := .blockEnd :: layout.tokens } column rest
    else layout

/-- Ends the blocks that are indented more than a column, outside flow collections. -/
def unwind (column : Int) : Reading Unit :=
  modify fun layout =>
    if layout.flowLevel ≠ 0 then layout else closeBlocks layout column layout.indents

/-- Starts a block at a column if that is further in than the present block. -/
def indentTo (column : Nat) : Reading Bool := do
  let layout ← get
  if layout.indent < Int.ofNat column then
    set { layout with indent := Int.ofNat column, indents := layout.indent :: layout.indents }
    return true
  else return false

/-- Adds a token before the one of a number. -/
def insertAt (position : Nat) (token : Token) : Reading Unit :=
  modify fun layout =>
    let later := layout.tokens.length - position
    { layout with tokens := layout.tokens.take later ++ token :: layout.tokens.drop later }

/-- The document markers and the end, which close all blocks. -/
def closeAll : Reading Unit := do
  unwind (-1)
  dropKey
  allowKey false

/-- The name of a directive, an anchor or an alias. -/
def wordText : Reading String := do
  let word ← takeWhile isWordPart
  if word.isEmpty then refuse
  return String.ofList word

/-- A number in decimal digits. -/
def directiveNumber : Reading Nat := do
  let digits ← takeWhile Char.isDigit
  if digits.isEmpty then refuse
  return JsonValue.decimalValue digits

/-- The handle of a tag: an exclamation mark, or a word between two of them. -/
def tagHandle : Reading String := do
  unless (← peek?) = some '!' do refuse
  forward
  if (← peek?) = some ' ' then return "!"
  let word ← takeWhile isWordPart
  unless (← peek?) = some '!' do refuse
  forward
  return String.ofList ('!' :: word ++ ['!'])

/-- Whether a character can stand in a tag as it is. -/
def isTagPart (c : Char) : Bool := c.isAlphanum || "-;/?:@&=+$,_.!~*'()[]".toList.contains c

/-- The bytes written with percent signs and hexadecimal digits. -/
def percentBytes : (fuel : Nat) → Reading (List UInt8)
  | 0 => return []
  | fuel + 1 => do
    if (← peek?) = some '%' then
      forward
      let digits := (← rest).take 2
      unless digits.length = 2 do refuse
      match hexNumber? digits with
      | none => refuse
      | some byte =>
        forward 2
        return UInt8.ofNat byte :: (← percentBytes fuel)
    else return []

/-- The parts of a tag: characters, and those written as bytes. -/
def tagParts : (fuel : Nat) → Reading (List Char)
  | 0 => return []
  | fuel + 1 => do
    let part ← takeWhile isTagPart
    if (← peek?) = some '%' then
      let bytes ← percentBytes ((← rest).length + 1)
      match String.fromUTF8? ⟨bytes.toArray⟩ with
      | none => refuse
      | some text => return part ++ text.toList ++ (← tagParts fuel)
    else return part

/-- The text of a tag, which is not empty. -/
def tagText : Reading String := do
  let start := (← get).cursor.index
  let text ← tagParts ((← rest).length + 1)
  if (← get).cursor.index = start then refuse
  return String.ofList text

/-- A directive. -/
def directive : Reading Token := do
  forward
  let word ← wordText
  unless isSpaceOrEnd (← peek?) do refuse
  let token ← match word with
    | "YAML" => do
      skipWhile (· = ' ')
      let major ← directiveNumber
      unless (← peek?) = some '.' do refuse
      forward
      let _ ← directiveNumber
      unless isSpaceOrEnd (← peek?) do refuse
      pure (Token.version major)
    | "TAG" => do
      skipWhile (· = ' ')
      let handle ← tagHandle
      unless (← peek?) = some ' ' do refuse
      skipWhile (· = ' ')
      let content ← tagText
      unless isSpaceOrEnd (← peek?) do refuse
      pure (Token.tagDirective handle content)
    | _ => do
      skipWhile fun c => !isBreak c
      pure Token.otherDirective
  skipRestOfLine
  return token

/-- The name after the sign of an anchor or an alias. -/
def anchorName : Reading String := do
  forward
  let word ← wordText
  let ends := endOr fun c => c = ' ' || c = '\t' || isBreak c || "?:,]\x7d%@\x60".toList.contains c
  unless ends (← peek?) do refuse
  return word

/-- A tag: in angle brackets, a lone exclamation mark, or a handle with a suffix. -/
def tag : Reading Token := do
  let token ←
    if (← peek? 1) = some '<' then do
      forward 2
      let suffix ← tagText
      unless (← peek?) = some '>' do refuse
      forward
      pure (Token.tag none suffix)
    else if isGap (← peek? 1) then do
      forward
      pure (Token.tag none "!")
    else do
      let word := ((← rest).drop 1).takeWhile fun c => c ≠ ' ' && !isBreak c
      let handle ← if word.contains '!' then tagHandle else do
        forward
        pure "!"
      pure (Token.tag (some handle) (← tagText))
  unless isSpaceOrEnd (← peek?) do refuse
  return token

/-- Passes over spaces, comments and line breaks. Outside flow collections a key may start on a new
line. -/
def skipToToken : (fuel : Nat) → Reading Unit
  | 0 => return
  | fuel + 1 => do
    skipWhile (· = ' ')
    if (← peek?) = some '#' then skipWhile fun c => !isBreak c
    if (← peek?).any isBreak then
      let _ ← takeBreak
      unless ← inFlow do allowKey true
      skipToToken fuel

/-- The start of a flow collection. -/
def openFlow (token : Token) : Reading Unit := do
  saveKey
  modify fun layout => { layout with flowLevel := layout.flowLevel + 1 }
  allowKey true
  forward
  emit token

/-- The end of a flow collection. -/
def closeFlow (token : Token) : Reading Unit := do
  dropKey
  modify fun layout => { layout with flowLevel := layout.flowLevel - 1 }
  allowKey false
  forward
  emit token

/-- An entry of a block sequence, or a key with its question mark. Outside flow collections it may
start a block. -/
def blockItem (start token : Token) (allowsKey : Bool) : Reading Unit := do
  unless ← inFlow do
    unless (← get).allowsKey do refuse
    if ← indentTo (← column) then emit start
  allowKey allowsKey
  dropKey
  forward
  emit token

/-- A colon. If a key may have started before it, the key gets its token now, and a mapping may
start there. -/
def keyValue : Reading Unit := do
  match ← possibleKey? with
  | some key =>
    forgetKey
    insertAt key.position .key
    unless ← inFlow do
      if ← indentTo key.column then insertAt key.position .blockMappingStart
    allowKey false
  | none =>
    unless ← inFlow do
      unless (← get).allowsKey do refuse
      if ← indentTo (← column) then emit .blockMappingStart
    allowKey (!(← inFlow))
    dropKey
  forward
  emit .value

/-- A document marker. -/
def documentMarker (token : Token) : Reading Unit := do
  closeAll
  forward 3
  emit token

/-- A token of one part that may be a key. -/
def keyPart (token : Reading Token) : Reading Unit := do
  saveKey
  allowKey false
  emit (← token)

/-- A text in a block of its own. -/
def blockScalar (isFolded : Bool) : Reading Unit := do
  allowKey true
  dropKey
  emit (.scalar (← blockText isFolded) false)

/-- The tokens that start with a character. -/
def tokenAt (c : Char) : Reading Unit := do
  let after ← peek? 1
  let atLineStart := (← column) = 0
  let inFlow ← inFlow
  if c = '%' && atLineStart then
    closeAll
    emit (← directive)
  else if c = '-' && atLineStart && startsDocumentMarker (← rest) then
    documentMarker .documentStart
  else if c = '.' && atLineStart && startsDocumentMarker (← rest) then
    documentMarker .documentEnd
  else if c = '[' then openFlow .flowSequenceStart
  else if c = '\x7b' then openFlow .flowMappingStart
  else if c = ']' then closeFlow .flowSequenceEnd
  else if c = '\x7d' then closeFlow .flowMappingEnd
  else if c = ',' then
    allowKey true
    dropKey
    forward
    emit .flowEntry
  else if c = '-' && isGap after then blockItem .blockSequenceStart .blockEntry true
  else if c = '?' && (inFlow || isGap after) then blockItem .blockMappingStart .key (!inFlow)
  else if c = ':' && (inFlow || isGap after) then keyValue
  else if c = '*' then keyPart (Token.alias <$> anchorName)
  else if c = '&' then keyPart (Token.anchor <$> anchorName)
  else if c = '!' then keyPart tag
  else if c = '|' && !inFlow then blockScalar false
  else if c = '>' && !inFlow then blockScalar true
  else if c = '\'' then keyPart (return .scalar (← quotedText false) false)
  else if c = '"' then keyPart (return .scalar (← quotedText true) false)
  else if startsPlain inFlow c after then
    keyPart (return .scalar (← plainText) true)
  else refuse

/-- All tokens up to the end of the text. -/
def tokensFrom : (fuel : Nat) → Reading Unit
  | 0 => refuse
  | fuel + 1 => do
    skipToToken ((← rest).length + 1)
    dropStaleKeys
    unwind (Int.ofNat (← column))
    match ← peek? with
    | none =>
      closeAll
      emit .finish
    | some c =>
      tokenAt c
      tokensFrom fuel

/-- The tokens of a text. A byte order mark at its start is passed over. -/
def tokens (text : List Char) : Except Failure (List Token) := do
  unless text.all isAllowed do throw .malformedYaml
  let start := (if text.head? = some '\ufeff' then Cursor.step else id) { rest := text }
  let (_, layout) ← tokensFrom (text.length + 1) { cursor := start }
  return layout.tokens.reverse

end CodeIndex.Yaml
