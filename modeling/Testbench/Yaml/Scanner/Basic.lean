import Testbench.Yaml.Token
/-!
The state of splitting a YAML stream into tokens, and the steps everything else is built from.

The scanner walks the characters once. Tokens wait in a queue until the parser takes them. A
token may be put in the queue ahead of tokens already waiting: a key is only known to be one
when its `:` is found, and the start of a block mapping only with its first key. A place where
a key without `?` may start is kept as a simple key, one per level of brackets, until the `:`
shows up or it can no longer be a key: it must stay on one line and within 1024 characters. A
simple key at the indentation of its block is required: losing it is an error.

Block structure follows indentation: each deeper column opens a block and pushes the old
indentation; a line less indented closes blocks until it fits, each with a block end token.
Inside brackets indentation means nothing.

Line breaks are line feeds, carriage returns (a carriage return and a line feed together count
once), next line, and the line and paragraph separators.
-/

namespace Testbench.Yaml

/-- A place where a key without `?` may have started, waiting for its `:`. -/
structure SimpleKey where
  /-- Can it still be a key? -/
  possible : Bool := false
  /-- Must it be one? -/
  required : Bool := false
  /-- The number of its first token among all tokens of the stream. -/
  tokenNumber : Nat := 0
  /-- Where it starts. -/
  mark : Mark := ⟨0, 0, 0⟩
  deriving Inhabited

/-- The state of splitting a stream into tokens. -/
structure Scanner where
  /-- The characters of the stream. -/
  chars : Array Char
  /-- The position reached; its index is the next character's. -/
  mark : Mark := ⟨0, 0, 0⟩
  /-- Line breaks passed since the last character that was neither blank nor a break. -/
  newlines : Nat := 0
  /-- Has the stream start token been made? -/
  started : Bool := false
  /-- How many brackets are open. -/
  flowLevel : Nat := 0
  /-- The tokens made; those from `head` on wait for the parser. -/
  tokens : Array Token := #[]
  /-- The first waiting token. -/
  head : Nat := 0
  /-- How many tokens the parser has taken. -/
  parsed : Nat := 0
  /-- Is the first waiting token ready to be taken? -/
  available : Bool := false
  /-- The indentation of the innermost block; -1 outside all blocks. -/
  indent : Int := -1
  /-- The indentations of the enclosing blocks, innermost first. -/
  indents : List Int := []
  /-- May a simple key start here? -/
  keyAllowed : Bool := false
  /-- The simple key of each level of brackets, the outermost first. -/
  keys : Array SimpleKey := #[]
  /-- The level of each possible simple key, by the number of its token. -/
  keysByToken : List (Nat × Nat) := []
  deriving Inhabited

namespace Scanner

/-- The character `offset` places ahead, none past the end. -/
def charAt (s : Scanner) (offset : Nat) : Option Char := s.chars[s.mark.index + offset]?

/-- Is the character `offset` places ahead the given one? -/
def isChar (s : Scanner) (offset : Nat) (c : Char) : Bool := s.charAt offset == some c

/-- Is the character a space or a tab? -/
def blankChar (c : Char) : Bool := c == ' ' || c == '\t'

/-- Is the character a line break? -/
def breakChar (c : Char) : Bool :=
  c == '\r' || c == '\n' || c.toNat == 0x85 || c.toNat == 0x2028 || c.toNat == 0x2029

/-- Is the character `offset` places ahead a space or a tab? -/
def isBlankAt (s : Scanner) (offset : Nat) : Bool := (s.charAt offset).any blankChar

/-- Is the character `offset` places ahead a line break? -/
def isBreakAt (s : Scanner) (offset : Nat) : Bool := (s.charAt offset).any breakChar

/-- Is the position `offset` places ahead past the end? -/
def isEndAt (s : Scanner) (offset : Nat) : Bool := (s.charAt offset).isNone

/-- A line break or the end, `offset` places ahead. -/
def isBreakzAt (s : Scanner) (offset : Nat) : Bool := s.isBreakAt offset || s.isEndAt offset

/-- A blank, a line break or the end, `offset` places ahead. -/
def isBlankzAt (s : Scanner) (offset : Nat) : Bool := s.isBlankAt offset || s.isBreakzAt offset

/-- Is a carriage return and a line feed next? -/
def isCrlf (s : Scanner) : Bool := s.isChar 0 '\r' && s.isChar 1 '\n'

/-- Is the character a letter, a digit, `_` or `-`? -/
def alphaChar (c : Char) : Bool :=
  ('0' ≤ c && c ≤ '9') || ('A' ≤ c && c ≤ 'Z') || ('a' ≤ c && c ≤ 'z') || c == '_' || c == '-'

/-- Is the character `offset` places ahead a letter, a digit, `_` or `-`? -/
def isAlphaAt (s : Scanner) (offset : Nat) : Bool := (s.charAt offset).any alphaChar

/-- The value of a hexadecimal digit. -/
def hexValue (c : Char) : Option Nat :=
  if '0' ≤ c && c ≤ '9' then some (c.toNat - '0'.toNat)
  else if 'a' ≤ c && c ≤ 'f' then some (c.toNat - 'a'.toNat + 10)
  else if 'A' ≤ c && c ≤ 'F' then some (c.toNat - 'A'.toNat + 10)
  else none

/-- Passes one character that is not a line break. -/
def skip (s : Scanner) : Scanner :=
  { s with
    newlines := if s.isBlankAt 0 then s.newlines else 0
    mark := ⟨s.mark.index + 1, s.mark.line, s.mark.column + 1⟩ }

/-- Passes a line break, if one is next. -/
def skipLine (s : Scanner) : Scanner :=
  if s.isCrlf then
    { s with mark := ⟨s.mark.index + 2, s.mark.line + 1, 0⟩, newlines := s.newlines + 1 }
  else if s.isBreakAt 0 then
    { s with mark := ⟨s.mark.index + 1, s.mark.line + 1, 0⟩, newlines := s.newlines + 1 }
  else s

/-- Passes one character that is not a line break, adding it to a text. -/
def read (s : Scanner) (text : String) : Scanner × String :=
  match s.charAt 0 with
  | some c => (s.skip, text.push c)
  | none => (s, text)

/-- Passes a line break, adding it to a text: as a line feed, except that the line and
paragraph separators stay as they are. -/
def readLine (s : Scanner) (text : String) : Scanner × String :=
  let passed (width : Nat) : Scanner :=
    { s with mark := ⟨s.mark.index + width, s.mark.line + 1, 0⟩, newlines := s.newlines + 1 }
  if s.isCrlf then (passed 2, text.push '\n')
  else match s.charAt 0 with
    | some c =>
      if c == '\r' || c == '\n' || c.toNat == 0x85 then (passed 1, text.push '\n')
      else if c.toNat == 0x2028 || c.toNat == 0x2029 then (passed 1, text.push c)
      else (s, text)
    | none => (s, text)

/-- A bound on the steps of any walk over the characters. -/
def fuel (s : Scanner) : Nat := s.chars.size + 2

/-- Skips characters while a test holds, for at most `fuel` characters. -/
def skipWhile (test : Scanner → Bool) : Nat → Scanner → Scanner
  | 0, s => s
  | fuel + 1, s => if test s then skipWhile test fuel s.skip else s

/-- Reads characters while a test holds, for at most `fuel` characters. -/
def readWhile (test : Scanner → Bool) : Nat → Scanner → String → Scanner × String
  | 0, s, text => (s, text)
  | fuel + 1, s, text => if test s then (let (s, text) := s.read text; readWhile test fuel s text) else (s, text)

end Scanner

/-- Splitting a stream: the scanner's state, or the error that stopped it. -/
abbrev ScanM := StateT Scanner (Except SyntaxError)

/-- Fails with a problem found at the current position, while reading a construct that
started at `context`. -/
def scanError {α : Type} (context : Mark) (problem : String) : ScanM α := do
  let s ← get
  throw ⟨true, context.line, s.mark.line, problem⟩

/-- The current position. -/
def currentMark : ScanM Mark := do return (← get).mark

/-- Passes one character. -/
def skipChar : ScanM Unit := modify Scanner.skip

/-- Puts a token in the queue: at the end, or `position` places after the first waiting one. -/
def insertToken (position : Option Nat) (token : Token) : ScanM Unit :=
  modify fun s =>
    match position with
    | none => { s with tokens := s.tokens.push token }
    | some offset => { s with tokens := s.tokens.insertIdxIfInBounds (s.head + offset) token }

/-- The table of simple keys by token number without the entry of a token; each number has at
most one entry. -/
def forgetKey (table : List (Nat × Nat)) (number : Nat) : List (Nat × Nat) :=
  table.eraseP (·.1 == number)

/-- Drops the possible simple key of the current level; an error if it was required. -/
def removeSimpleKey : ScanM Unit := do
  let s ← get
  let level := s.keys.size - 1
  match s.keys[level]? with
  | some key =>
    if key.possible then
      if key.required then scanError key.mark "could not find expected ':'"
      modify fun s => { s with
        keys := s.keys.modify level fun key => { key with possible := false }
        keysByToken := forgetKey s.keysByToken key.tokenNumber }
  | none => pure ()

/-- Keeps the current position as a possible simple key, if one may start here. -/
def saveSimpleKey : ScanM Unit := do
  let s ← get
  if s.keyAllowed then
    let key : SimpleKey :=
      { possible := true
        required := s.flowLevel == 0 && s.indent == (s.mark.column : Int)
        tokenNumber := s.parsed + (s.tokens.size - s.head)
        mark := s.mark }
    removeSimpleKey
    modify fun s =>
      { s with
        keys := s.keys.modify (s.keys.size - 1) fun _ => key
        keysByToken := (key.tokenNumber, s.keys.size - 1) :: forgetKey s.keysByToken key.tokenNumber }

/-- Can the simple key of a level still be a key? One left behind on an earlier line or more
than 1024 characters back cannot, and that is an error if it was required. -/
def simpleKeyValid (level : Nat) : ScanM Bool := do
  let s ← get
  match s.keys[level]? with
  | none => return false
  | some key =>
    if !key.possible then return false
    if key.mark.line < s.mark.line || key.mark.index + 1024 < s.mark.index then
      if key.required then scanError key.mark "could not find expected ':'"
      modify fun s => { s with keys := s.keys.modify level fun key => { key with possible := false } }
      return false
    return true

/-- Opens a level of brackets. -/
def increaseFlowLevel : ScanM Unit := do
  modify fun s => { s with keys := s.keys.push { mark := s.mark }, flowLevel := s.flowLevel + 1 }
  let s ← get
  if s.flowLevel > 10000 then
    scanError ((s.keys.back?.map (·.mark)).getD s.mark) "exceeded max depth of 10000"

/-- Closes a level of brackets. -/
def decreaseFlowLevel : ScanM Unit :=
  modify fun s =>
    if s.flowLevel > 0 then
      let number := (s.keys.back?.map (·.tokenNumber)).getD 0
      { s with
        flowLevel := s.flowLevel - 1
        keysByToken := forgetKey s.keysByToken number
        keys := s.keys.pop }
    else s

/-- Opens a block at a column deeper than the current indentation, putting its start token
in the queue: at the end, or before the token with the given number. -/
def rollIndent (column : Int) (number : Option Nat) (kind : TokenKind) (mark : Mark) : ScanM Unit := do
  let s ← get
  if s.flowLevel > 0 then return
  if s.indent < column then
    set { s with indents := s.indent :: s.indents, indent := column }
    if s.indents.length + 1 > 10000 then
      scanError ((s.keys.back?.map (·.mark)).getD s.mark) "exceeded max depth of 10000"
    insertToken (number.map (· - s.parsed)) ⟨kind, mark, mark⟩

/-- Closes blocks deeper than a column, for at most `fuel` blocks. -/
def unrollBlocks (column : Int) (mark : Mark) : Nat → ScanM Unit
  | 0 => pure ()
  | fuel + 1 => do
    let s ← get
    if s.indent > column then
      insertToken none ⟨.blockEnd, mark, mark⟩
      match s.indents with
      | outer :: rest => modify fun s => { s with indent := outer, indents := rest }
      | [] => modify fun s => { s with indent := -1 }
      unrollBlocks column mark fuel

/-- Closes every block deeper than a column; the block end tokens are marked just before where
the search for the next token began. -/
def unrollIndent (column : Int) (scanMark : Mark) : ScanM Unit := do
  let s ← get
  if s.flowLevel > 0 then return
  unrollBlocks column { scanMark with index := scanMark.index - 1 } (s.indents.length + 1)

end Testbench.Yaml
