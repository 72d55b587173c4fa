import Testbench.Yaml.Scanner.Fetch
/-!
Events of a YAML stream.

The parser reads tokens and gives events one at a time: the start and end of the stream and of
each document, scalars, references, and the start and end of sequences and mappings. It is a
machine whose state says what may come next, with a stack of states to return to and a stack
of where the open collections started.

A document is explicit when it starts with `---`, possibly after directives, else implicit; an
empty document holds a null scalar. In a block mapping or sequence a missing key, value or item
is an empty scalar. A sequence may stand at its key's own column in a mapping. Inside brackets
a `key: value` item of a sequence is a mapping of one pair. A node's tag and anchor may come in
either order before it; a tag's handle must be known from a `%TAG` directive or be `!` or `!!`.
-/

namespace Testbench.Yaml

/-- What an event is. -/
inductive EventKind where
  | streamStart
  | streamEnd
  | documentStart
  | documentEnd
  /-- A use of an anchored node. -/
  | reference (name : String)
  /-- A scalar with its anchor and tag (empty if none), text and style. -/
  | scalar (anchor tag text : String) (style : Style)
  | sequenceStart (anchor tag : String) (flow : Bool)
  | sequenceEnd
  | mappingStart (anchor tag : String) (flow : Bool)
  | mappingEnd
  /-- Nothing: the stream is over. -/
  | none
  deriving Inhabited, Repr

/-- An event and where it starts. -/
structure Event where
  kind : EventKind
  start : Mark
  deriving Inhabited, Repr

/-- What the parser expects next. -/
inductive ParseState where
  | streamStart
  | implicitDocumentStart
  | documentStart
  | documentContent
  | documentEnd
  | blockNode
  | blockNodeOrIndentlessSequence
  | flowNode
  | blockSequenceFirstEntry
  | blockSequenceEntry
  | indentlessSequenceEntry
  | blockMappingFirstKey
  | blockMappingKey
  | blockMappingValue
  | flowSequenceFirstEntry
  | flowSequenceEntry
  | flowSequenceEntryMappingKey
  | flowSequenceEntryMappingValue
  | flowSequenceEntryMappingEnd
  | flowMappingFirstKey
  | flowMappingKey
  | flowMappingValue
  | flowMappingEmptyValue
  | finished
  deriving Inhabited, Repr, DecidableEq

/-- The parser's state. -/
structure Parser where
  /-- The scanner it takes tokens from. -/
  scanner : Scanner
  /-- What comes next. -/
  state : ParseState := .streamStart
  /-- The states to return to, innermost first. -/
  states : List ParseState := []
  /-- Where the open collections started, innermost first. -/
  marks : List Mark := []
  /-- The tag handles known in the document and what they stand for. -/
  tagDirectives : List (String × String) := []
  deriving Inhabited

/-- Parsing: the parser's state, or the error that stopped it. -/
abbrev ParseM := StateT Parser (Except SyntaxError)

/-- The first waiting token, making tokens as needed. -/
def peekToken : ParseM Token := do
  if !(← get).scanner.available then
    -- the scanner is taken out of the parser while it runs, so that its queue is updated in place
    let scanner ← modifyGet fun p => (p.scanner, { p with scanner := { chars := #[] } })
    match (fetchMoreTokens (scanner.chars.size + 8)).run scanner with
    | .ok ((), scanner) => modify fun p => { p with scanner }
    | .error failure => throw failure
  let scanner := (← get).scanner
  match scanner.tokens[scanner.head]? with
  | some token => pure token
  | none => throw (SyntaxError.plain "no more tokens")

/-- Takes the first waiting token. -/
def skipToken : ParseM Unit :=
  modify fun p =>
    { p with scanner := { p.scanner with available := false, parsed := p.scanner.parsed + 1, head := p.scanner.head + 1 } }

/-- Fails with a problem of structure at a mark. -/
def parseError {α : Type} (problem : String) (mark : Mark) : ParseM α :=
  throw ⟨false, 0, mark.line, problem⟩

/-- Fails with a problem of structure at a mark, inside a construct started at `context`. -/
def parseErrorIn {α : Type} (context : Mark) (problem : String) (mark : Mark) : ParseM α :=
  throw ⟨false, context.line, mark.line, problem⟩

/-- Returns to the state on top of the stack. -/
def popState : ParseM Unit :=
  modify fun p =>
    match p.states with
    | next :: rest => { p with state := next, states := rest }
    | [] => { p with state := .finished }

/-- Enters a state, to return to `after` later. -/
def pushState (after : ParseState) : ParseM Unit := modify fun p => { p with states := after :: p.states }

/-- Sets the next state. -/
def goTo (next : ParseState) : ParseM Unit := modify fun p => { p with state := next }

/-- The start of the innermost open collection, dropped from the stack. -/
def popMark : ParseM Mark := do
  let p ← get
  match p.marks with
  | mark :: rest => set { p with marks := rest }; pure mark
  | [] => pure ⟨0, 0, 0⟩

/-- Remembers the start of a collection being opened. -/
def pushMark (mark : Mark) : ParseM Unit := modify fun p => { p with marks := mark :: p.marks }

/-- An empty plain scalar at a mark. -/
def emptyScalar (mark : Mark) : Event := ⟨.scalar "" "" "" .plain, mark⟩

/-- Reads the directives before a document and sets the known tag handles: those declared,
then `!` and `!!` unless declared. -/
def processDirectives : Nat → Bool → ParseM Unit
  | 0, _ => pure ()
  | fuel + 1, seenVersion => do
    let token ← peekToken
    match token.kind with
    | .versionDirective major minor =>
      if seenVersion then parseError "found duplicate %YAML directive" token.start
      if major != 1 || minor != 1 then parseError "found incompatible YAML document" token.start
      skipToken
      processDirectives fuel true
    | .tagDirective handle expansion =>
      if (← get).tagDirectives.any (·.1 == handle) then parseError "found duplicate %TAG directive" token.start
      modify fun p => { p with tagDirectives := p.tagDirectives ++ [(handle, expansion)] }
      skipToken
      processDirectives fuel seenVersion
    | _ =>
      for (handle, expansion) in [("!", "!"), ("!!", "tag:yaml.org,2002:")] do
        if !(← get).tagDirectives.any (·.1 == handle) then
          modify fun p => { p with tagDirectives := p.tagDirectives ++ [(handle, expansion)] }

/-- Is the token a directive, a document marker or the end of the stream? -/
def TokenKind.endsContent : TokenKind → Bool
  | .versionDirective .. | .tagDirective .. | .documentStart | .documentEnd | .streamEnd => true
  | _ => false

/-- The start of a document, or the end of the stream. -/
def parseDocumentStart (implicit : Bool) : ParseM Event := do
  let mut token ← peekToken
  if !implicit then
    for _ in List.range ((← get).scanner.chars.size + 2) do
      if token.kind.same .documentEnd then
        skipToken
        token ← peekToken
  match token.kind with
  | .streamEnd =>
    goTo .finished
    skipToken
    return ⟨.streamEnd, token.start⟩
  | .versionDirective .. | .tagDirective .. | .documentStart =>
    let start := token.start
    processDirectives ((← get).scanner.chars.size + 2) false
    let next ← peekToken
    if !next.kind.same .documentStart then parseError "did not find expected <document start>" next.start
    pushState .documentEnd
    goTo .documentContent
    skipToken
    return ⟨.documentStart, start⟩
  | _ =>
    if implicit then
      processDirectives ((← get).scanner.chars.size + 2) false
      pushState .documentEnd
      goTo .blockNode
      return ⟨.documentStart, token.start⟩
    else
      processDirectives ((← get).scanner.chars.size + 2) false
      let next ← peekToken
      parseError "did not find expected <document start>" next.start

/-- The end of a document, taking a `...` if there is one. -/
def parseDocumentEnd : ParseM Event := do
  let token ← peekToken
  if token.kind.same .documentEnd then skipToken
  modify fun p => { p with tagDirectives := [], state := .documentStart }
  return ⟨.documentEnd, token.start⟩

/-- The full tag of a node from its handle and suffix. -/
def expandTag (start : Mark) (handle suffix : String) (tagMark : Mark) : ParseM String := do
  if handle.isEmpty then return suffix
  match (← get).tagDirectives.find? (·.1 == handle) with
  | some (_, expansion) => return expansion ++ suffix
  | none => parseErrorIn start "found undefined tag handle" tagMark

/-- A node: a reference, a scalar, the start of a collection, or an empty scalar after an
anchor or tag. -/
def parseNode (block indentlessSequence : Bool) : ParseM Event := do
  let token ← peekToken
  if let .reference name := token.kind then
    popState
    skipToken
    return ⟨.reference name, token.start⟩
  let start := token.start
  let (anchor, tagParts, token) ← match token.kind with
    | .anchor name => do
      skipToken
      let next ← peekToken
      match next.kind with
      | .tag handle suffix => do
        skipToken
        pure (name, some (handle, suffix, next.start), ← peekToken)
      | _ => pure (name, none, next)
    | .tag handle suffix => do
      skipToken
      let next ← peekToken
      match next.kind with
      | .anchor name => do
        skipToken
        pure (name, some (handle, suffix, token.start), ← peekToken)
      | _ => pure ("", some (handle, suffix, token.start), next)
    | _ => pure ("", none, token)
  let tag ← match tagParts with
    | some (handle, suffix, tagMark) => expandTag start handle suffix tagMark
    | none => pure ""
  match token.kind with
  | .blockEntry =>
    if indentlessSequence then
      goTo .indentlessSequenceEntry
      return ⟨.sequenceStart anchor tag false, start⟩
  | _ => pure ()
  match token.kind with
  | .scalar text style =>
    popState
    skipToken
    return ⟨.scalar anchor tag text style, start⟩
  | .flowSequenceStart =>
    goTo .flowSequenceFirstEntry
    return ⟨.sequenceStart anchor tag true, start⟩
  | .flowMappingStart =>
    goTo .flowMappingFirstKey
    return ⟨.mappingStart anchor tag true, start⟩
  | .blockSequenceStart =>
    if block then
      goTo .blockSequenceFirstEntry
      return ⟨.sequenceStart anchor tag false, start⟩
  | .blockMappingStart =>
    if block then
      goTo .blockMappingFirstKey
      return ⟨.mappingStart anchor tag false, start⟩
  | _ => pure ()
  if !anchor.isEmpty || !tag.isEmpty then
    popState
    return ⟨.scalar anchor tag "" .plain, start⟩
  parseErrorIn start "did not find expected node content" token.start

/-- An entry of a block sequence, or its end. -/
def parseBlockSequenceEntry (first : Bool) : ParseM Event := do
  if first then
    pushMark (← peekToken).start
    skipToken
  let token ← peekToken
  match token.kind with
  | .blockEntry =>
    let mark := token.stop
    skipToken
    let next ← peekToken
    if next.kind.same .blockEntry || next.kind.same .blockEnd then
      goTo .blockSequenceEntry
      return emptyScalar mark
    pushState .blockSequenceEntry
    parseNode true false
  | .blockEnd =>
    popState
    discard popMark
    skipToken
    return ⟨.sequenceEnd, token.start⟩
  | _ =>
    let context ← popMark
    parseErrorIn context "did not find expected '-' indicator" token.start

/-- An entry of a sequence standing at its key's column, or its end. -/
def parseIndentlessSequenceEntry : ParseM Event := do
  let token ← peekToken
  if token.kind.same .blockEntry then
    let mark := token.stop
    skipToken
    let next ← peekToken
    if next.kind.same .blockEntry || next.kind.same .key || next.kind.same .value || next.kind.same .blockEnd then
      goTo .indentlessSequenceEntry
      return emptyScalar mark
    pushState .indentlessSequenceEntry
    return (← parseNode true false)
  popState
  return ⟨.sequenceEnd, token.start⟩

/-- A key of a block mapping, or its end. -/
def parseBlockMappingKey (first : Bool) : ParseM Event := do
  if first then
    pushMark (← peekToken).start
    skipToken
  let token ← peekToken
  match token.kind with
  | .key =>
    let mark := token.stop
    skipToken
    let next ← peekToken
    if next.kind.same .key || next.kind.same .value || next.kind.same .blockEnd then
      goTo .blockMappingValue
      return emptyScalar mark
    pushState .blockMappingValue
    parseNode true true
  | .blockEnd =>
    popState
    discard popMark
    skipToken
    return ⟨.mappingEnd, token.start⟩
  | _ =>
    let context ← popMark
    parseErrorIn context "did not find expected key" token.start

/-- A value of a block mapping; an empty scalar if there is none. -/
def parseBlockMappingValue : ParseM Event := do
  let token ← peekToken
  if token.kind.same .value then
    let mark := token.stop
    skipToken
    let next ← peekToken
    if next.kind.same .key || next.kind.same .value || next.kind.same .blockEnd then
      goTo .blockMappingKey
      return emptyScalar mark
    pushState .blockMappingKey
    return (← parseNode true true)
  goTo .blockMappingKey
  return emptyScalar token.start

/-- An entry of a sequence in brackets, or its end. -/
def parseFlowSequenceEntry (first : Bool) : ParseM Event := do
  if first then
    pushMark (← peekToken).start
    skipToken
  let mut token ← peekToken
  if !token.kind.same .flowSequenceEnd then
    if !first then
      if token.kind.same .flowEntry then
        skipToken
        token ← peekToken
      else
        let context ← popMark
        parseErrorIn context "did not find expected ',' or ']'" token.start
    if token.kind.same .key then
      goTo .flowSequenceEntryMappingKey
      skipToken
      return ⟨.mappingStart "" "" true, token.start⟩
    if !token.kind.same .flowSequenceEnd then
      pushState .flowSequenceEntry
      return (← parseNode false false)
  popState
  discard popMark
  skipToken
  return ⟨.sequenceEnd, token.start⟩

/-- The key of a one-pair mapping inside a sequence in brackets. -/
def parseFlowSequenceEntryMappingKey : ParseM Event := do
  let token ← peekToken
  if !(token.kind.same .value || token.kind.same .flowEntry || token.kind.same .flowSequenceEnd) then
    pushState .flowSequenceEntryMappingValue
    parseNode false false
  else
    let mark := token.stop
    skipToken
    goTo .flowSequenceEntryMappingValue
    return emptyScalar mark

/-- The value of a one-pair mapping inside a sequence in brackets. -/
def parseFlowSequenceEntryMappingValue : ParseM Event := do
  let token ← peekToken
  if token.kind.same .value then
    skipToken
    let next ← peekToken
    if !(next.kind.same .flowEntry || next.kind.same .flowSequenceEnd) then
      pushState .flowSequenceEntryMappingEnd
      return (← parseNode false false)
    goTo .flowSequenceEntryMappingEnd
    return emptyScalar next.start
  goTo .flowSequenceEntryMappingEnd
  return emptyScalar token.start

/-- The end of a one-pair mapping inside a sequence in brackets. -/
def parseFlowSequenceEntryMappingEnd : ParseM Event := do
  let token ← peekToken
  goTo .flowSequenceEntry
  return ⟨.mappingEnd, token.start⟩

/-- A key of a mapping in braces, or its end. -/
def parseFlowMappingKey (first : Bool) : ParseM Event := do
  if first then
    pushMark (← peekToken).start
    skipToken
  let mut token ← peekToken
  if !token.kind.same .flowMappingEnd then
    if !first then
      if token.kind.same .flowEntry then
        skipToken
        token ← peekToken
      else
        let context ← popMark
        parseErrorIn context "did not find expected ',' or '\x7d'" token.start
    if token.kind.same .key then
      skipToken
      let next ← peekToken
      if !(next.kind.same .value || next.kind.same .flowEntry || next.kind.same .flowMappingEnd) then
        pushState .flowMappingValue
        return (← parseNode false false)
      goTo .flowMappingValue
      return emptyScalar next.start
    if !token.kind.same .flowMappingEnd then
      pushState .flowMappingEmptyValue
      return (← parseNode false false)
  popState
  discard popMark
  skipToken
  return ⟨.mappingEnd, token.start⟩

/-- A value of a mapping in braces; an empty scalar if there is none. -/
def parseFlowMappingValue (empty : Bool) : ParseM Event := do
  let token ← peekToken
  if empty then
    goTo .flowMappingKey
    return emptyScalar token.start
  if token.kind.same .value then
    skipToken
    let next ← peekToken
    if !(next.kind.same .flowEntry || next.kind.same .flowMappingEnd) then
      pushState .flowMappingKey
      return (← parseNode false false)
    goTo .flowMappingKey
    return emptyScalar next.start
  goTo .flowMappingKey
  return emptyScalar token.start

/-- The next event. -/
def nextEvent : ParseM Event := do
  match (← get).state with
  | .streamStart =>
    let token ← peekToken
    if !token.kind.same .streamStart then parseError "did not find expected <stream-start>" token.start
    goTo .implicitDocumentStart
    skipToken
    return ⟨.streamStart, token.start⟩
  | .implicitDocumentStart => parseDocumentStart true
  | .documentStart => parseDocumentStart false
  | .documentContent =>
    let token ← peekToken
    if token.kind.endsContent then
      popState
      return emptyScalar token.start
    parseNode true false
  | .documentEnd => parseDocumentEnd
  | .blockNode => parseNode true false
  | .blockNodeOrIndentlessSequence => parseNode true true
  | .flowNode => parseNode false false
  | .blockSequenceFirstEntry => parseBlockSequenceEntry true
  | .blockSequenceEntry => parseBlockSequenceEntry false
  | .indentlessSequenceEntry => parseIndentlessSequenceEntry
  | .blockMappingFirstKey => parseBlockMappingKey true
  | .blockMappingKey => parseBlockMappingKey false
  | .blockMappingValue => parseBlockMappingValue
  | .flowSequenceFirstEntry => parseFlowSequenceEntry true
  | .flowSequenceEntry => parseFlowSequenceEntry false
  | .flowSequenceEntryMappingKey => parseFlowSequenceEntryMappingKey
  | .flowSequenceEntryMappingValue => parseFlowSequenceEntryMappingValue
  | .flowSequenceEntryMappingEnd => parseFlowSequenceEntryMappingEnd
  | .flowMappingFirstKey => parseFlowMappingKey true
  | .flowMappingKey => parseFlowMappingKey false
  | .flowMappingValue => parseFlowMappingValue false
  | .flowMappingEmptyValue => parseFlowMappingValue true
  | .finished => return ⟨.none, ⟨0, 0, 0⟩⟩

end Testbench.Yaml
