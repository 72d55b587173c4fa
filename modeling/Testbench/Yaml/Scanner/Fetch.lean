import Testbench.Yaml.Scanner.Scalar
import Testbench.Yaml.Scanner.Property
/-!
Finding the next token.

Before a token the scanner passes spaces, comments and line breaks. Tabs are passed only inside
brackets or where no simple key may start: a tab at the start of a line, or after `-`, `?` or a
`:` that did not end a simple key, is where a token would start and cannot start one. A comment
runs to the end of its line; comment lines that follow, with blanks and empty lines between
them, are passed with it. After most tokens, blanks and a comment that end the line are passed
too.

The kind of token is decided by its first character: the end of the stream; at the start of a
line a directive or a document marker; a bracket or brace, a comma; `-`, `?` or `:` followed by
a blank (in brackets `?` and `:` always); an anchor, reference or tag; a block scalar (not in
brackets); a quoted scalar; or a plain scalar, which may start with `-`, `?` or `:` only when a
non-blank follows. Any other character is an error.

The parser takes tokens from the queue. Before handing one out the scanner keeps two more
tokens ready, and more while the first waiting token may still turn out to be a key.
-/

namespace Testbench.Yaml

/-- Passes a comment and what precedes it up to `seen`: line breaks before it, then every
character to the end of the comment's line. -/
def passComment (seen : Nat) : Nat → Scanner → Scanner
  | 0, s => s
  | fuel + 1, s =>
    if s.isBreakzAt 0 then
      if s.mark.index ≥ seen then s else passComment seen fuel s.skipLine
    else passComment seen fuel s.skip

/-- The offset of the next comment past blanks and line breaks, looking no further than 512
characters ahead; none when something else comes first. -/
def nextComment (s : Scanner) : Nat → Nat → Option Nat
  | 0, _ => none
  | fuel + 1, offset =>
    if offset ≥ 512 then none
    else match s.charAt offset with
      | none => none
      | some c =>
        if Scanner.blankChar c || Scanner.breakChar c then nextComment s fuel (offset + 1)
        else if c == '#' then some offset
        else none

/-- Passes the comment here and every comment that follows it past blanks and line breaks. -/
def passComments : Nat → Scanner → Scanner
  | 0, s => s
  | fuel + 1, s =>
    let s := passComment s.mark.index s.fuel s
    match nextComment s 513 1 with
    | some offset => passComments fuel (passComment (s.mark.index + offset) s.fuel s)
    | none => s

/-- Passes blanks and a comment that end the line after a token, unless a line break was
passed since the token's last character. -/
def passLineComment (s : Scanner) : Scanner :=
  if s.newlines > 0 then s
  else match (List.range 512).find? (fun offset => !s.isBlankAt offset) with
    | some offset => if s.isChar offset '#' then passComment (s.mark.index + offset) s.fuel s else s
    | none => s

/-- Passes spaces, allowed tabs, comments and line breaks up to the next token. -/
def scanToNextToken : Nat → ScanM Unit
  | 0 => pure ()
  | fuel + 1 => do
    let s ← get
    let s := if s.mark.column == 0 && s.isChar 0 (Char.ofNat 0xFEFF) then s.skip else s
    let s := Scanner.skipWhile
      (fun s => s.isChar 0 ' ' || ((s.flowLevel > 0 || !s.keyAllowed) && s.isChar 0 '\t')) s.fuel s
    let s := if s.isChar 0 '#' then passComments s.fuel s else s
    if s.isBreakAt 0 then
      set { s.skipLine with keyAllowed := if s.flowLevel == 0 then true else s.keyAllowed }
      scanToNextToken fuel
    else set s

/-- Makes the stream start token. -/
def fetchStreamStart : ScanM Unit := do
  modify fun s =>
    { s with indent := -1, keys := s.keys.push {}, keysByToken := [], keyAllowed := true, started := true }
  let mark ← currentMark
  insertToken none ⟨.streamStart, mark, mark⟩

/-- Makes the stream end token, closing every block; the end counts as a new line. -/
def fetchStreamEnd : ScanM Unit := do
  modify fun s =>
    if s.mark.column ≠ 0 then { s with mark := ⟨s.mark.index, s.mark.line + 1, 0⟩ } else s
  unrollIndent (-1) (← currentMark)
  removeSimpleKey
  modify fun s => { s with keyAllowed := false, keysByToken := [] }
  let mark ← currentMark
  insertToken none ⟨.streamEnd, mark, mark⟩

/-- Makes a directive token, closing every block. -/
def fetchDirective : ScanM Unit := do
  unrollIndent (-1) (← currentMark)
  removeSimpleKey
  modify fun s => { s with keyAllowed := false }
  insertToken none (← scanDirective)

/-- Makes a document start or end token, closing every block. -/
def fetchDocumentIndicator (kind : TokenKind) : ScanM Unit := do
  unrollIndent (-1) (← currentMark)
  removeSimpleKey
  modify fun s => { s with keyAllowed := false }
  let start ← currentMark
  modify fun s => s.skip.skip.skip
  insertToken none ⟨kind, start, ← currentMark⟩

/-- Makes a token of one indicator character. -/
def fetchIndicator (kind : TokenKind) : ScanM Unit := do
  let start ← currentMark
  skipChar
  insertToken none ⟨kind, start, ← currentMark⟩

/-- Makes a `[` or `{` token, which may start a simple key. -/
def fetchFlowCollectionStart (kind : TokenKind) : ScanM Unit := do
  saveSimpleKey
  increaseFlowLevel
  modify fun s => { s with keyAllowed := true }
  fetchIndicator kind

/-- Makes a `]` or `}` token. -/
def fetchFlowCollectionEnd (kind : TokenKind) : ScanM Unit := do
  removeSimpleKey
  decreaseFlowLevel
  modify fun s => { s with keyAllowed := false }
  fetchIndicator kind

/-- Makes a `,` token. -/
def fetchFlowEntry : ScanM Unit := do
  removeSimpleKey
  modify fun s => { s with keyAllowed := true }
  fetchIndicator .flowEntry

/-- Makes a `-` token, opening a block sequence at its column outside brackets. -/
def fetchBlockEntry : ScanM Unit := do
  let s ← get
  if s.flowLevel == 0 then
    if !s.keyAllowed then scanError s.mark "block sequence entries are not allowed in this context"
    rollIndent s.mark.column none .blockSequenceStart s.mark
  removeSimpleKey
  modify fun s => { s with keyAllowed := true }
  fetchIndicator .blockEntry

/-- Makes a `?` token, opening a block mapping at its column outside brackets. -/
def fetchKey : ScanM Unit := do
  let s ← get
  if s.flowLevel == 0 then
    if !s.keyAllowed then scanError s.mark "mapping keys are not allowed in this context"
    rollIndent s.mark.column none .blockMappingStart s.mark
  removeSimpleKey
  modify fun s => { s with keyAllowed := s.flowLevel == 0 }
  fetchIndicator .key

/-- Makes a `:` token. If a simple key is waiting, a key token is put before it, and outside
brackets the start of a block mapping at its column if one opens there. -/
def fetchValue : ScanM Unit := do
  let s ← get
  let level := s.keys.size - 1
  let key := s.keys[level]?.getD {}
  let parsed := s.parsed
  if ← simpleKeyValid level then
    insertToken (some (key.tokenNumber - parsed)) ⟨.key, key.mark, key.mark⟩
    rollIndent key.mark.column (some key.tokenNumber) .blockMappingStart key.mark
    modify fun s =>
      { s with
        keys := s.keys.modify level fun key => { key with possible := false }
        keysByToken := forgetKey s.keysByToken key.tokenNumber
        keyAllowed := false }
  else
    let s ← get
    if s.flowLevel == 0 then
      if !s.keyAllowed then scanError s.mark "mapping values are not allowed in this context"
      rollIndent s.mark.column none .blockMappingStart s.mark
    modify fun s => { s with keyAllowed := s.flowLevel == 0 }
  fetchIndicator .value

/-- Makes an anchor or reference token, which may start a simple key. -/
def fetchAnchor (reference : Bool) : ScanM Unit := do
  saveSimpleKey
  modify fun s => { s with keyAllowed := false }
  insertToken none (← scanAnchor reference)

/-- Makes a tag token, which may start a simple key. -/
def fetchTag : ScanM Unit := do
  saveSimpleKey
  modify fun s => { s with keyAllowed := false }
  insertToken none (← scanTag)

/-- Makes a block scalar token. -/
def fetchBlockScalar (literal : Bool) : ScanM Unit := do
  removeSimpleKey
  modify fun s => { s with keyAllowed := true }
  insertToken none (← scanBlockScalar literal)

/-- Makes a quoted scalar token, which may be a simple key. -/
def fetchFlowScalar (single : Bool) : ScanM Unit := do
  saveSimpleKey
  modify fun s => { s with keyAllowed := false }
  insertToken none (← scanFlowScalar single)

/-- Makes a plain scalar token, which may be a simple key. -/
def fetchPlainScalar : ScanM Unit := do
  saveSimpleKey
  modify fun s => { s with keyAllowed := false }
  insertToken none (← scanPlainScalar)

/-- Characters that cannot start a plain scalar (some of them can when a non-blank follows). -/
def indicatorChars : String := "-?:,[]{}#&*!|>'\"%@\x60"

/-- Can a plain scalar start here? -/
def plainStarts (s : Scanner) : Bool :=
  let c := (s.charAt 0).getD ' '
  !(s.isBlankzAt 0 || indicatorChars.contains c) ||
    (c == '-' && !s.isBlankAt 1) ||
    (s.flowLevel == 0 && (c == '?' || c == ':') && !s.isBlankzAt 1)

/-- Makes the token starting at a character that is not the end, a directive or a document
marker. -/
def fetchByIndicator : ScanM Unit := do
  let s ← get
  let c := (s.charAt 0).getD ' '
  let flow := s.flowLevel > 0
  if c == '[' then fetchFlowCollectionStart .flowSequenceStart
  else if c == '{' then fetchFlowCollectionStart .flowMappingStart
  else if c == ']' then fetchFlowCollectionEnd .flowSequenceEnd
  else if c == '}' then fetchFlowCollectionEnd .flowMappingEnd
  else if c == ',' then fetchFlowEntry
  else if c == '-' && s.isBlankzAt 1 then fetchBlockEntry
  else if c == '?' && (flow || s.isBlankzAt 1) then fetchKey
  else if c == ':' && (flow || s.isBlankzAt 1) then fetchValue
  else if c == '*' then fetchAnchor true
  else if c == '&' then fetchAnchor false
  else if c == '!' then fetchTag
  else if c == '|' && !flow then fetchBlockScalar true
  else if c == '>' && !flow then fetchBlockScalar false
  else if c == '\'' then fetchFlowScalar true
  else if c == '"' then fetchFlowScalar false
  else if plainStarts s then fetchPlainScalar
  else scanError s.mark "found character that cannot start any token"

/-- Makes the next token. -/
def fetchNextToken : ScanM Unit := do
  let s ← get
  if !s.started then fetchStreamStart
  else
    let scanMark := s.mark
    scanToNextToken s.fuel
    unrollIndent (← currentMark).column scanMark
    let s ← get
    if s.isEndAt 0 then fetchStreamEnd
    else if s.mark.column == 0 && s.isChar 0 '%' then fetchDirective
    else if s.mark.column == 0 && s.isChar 0 '-' && s.isChar 1 '-' && s.isChar 2 '-' && s.isBlankzAt 3 then
      fetchDocumentIndicator .documentStart
    else if s.mark.column == 0 && s.isChar 0 '.' && s.isChar 1 '.' && s.isChar 2 '.' && s.isBlankzAt 3 then
      fetchDocumentIndicator .documentEnd
    else
      fetchByIndicator
      let s ← get
      if !(s.tokens.back?.any fun token => token.kind.same .blockEntry) then set (passLineComment s)

/-- Makes tokens until the parser may take the first waiting one: two more must wait behind
it, and more while it may still turn out to be a simple key. -/
def fetchMoreTokens : Nat → ScanM Unit
  | 0 => modify fun s => { s with available := true }
  | fuel + 1 => do
    let s ← get
    let needMore ←
      if s.head + 2 < s.tokens.size then
        match s.keysByToken.lookup s.parsed with
        | none => pure false
        | some level => simpleKeyValid level
      else pure true
    if needMore then
      fetchNextToken
      fetchMoreTokens fuel
    else modify fun s => { s with available := true }

end Testbench.Yaml
