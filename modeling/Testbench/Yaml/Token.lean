/-!
Positions in a YAML stream, the tokens a stream is split into, and the errors of reading one.

A mark is a character's index, line and column, all counted from zero. A syntax error keeps
the line of the construct being read and the line where the problem was found. Its text names
one of them, counted from one: the construct's line when that is past the first line, else the
problem's. The line is moved down by one more for errors found while splitting the text into
tokens. No line is named when both are on the first line, or when the stream could not be read
as text at all.
-/

namespace Testbench.Yaml

/-- A position in the stream. -/
structure Mark where
  /-- The index of the character. -/
  index : Nat
  /-- The line, from zero. -/
  line : Nat
  /-- The column, from zero. -/
  column : Nat
  deriving Inhabited, Repr, DecidableEq

/-- How a scalar was written. -/
inductive Style where
  | plain
  | singleQuoted
  | doubleQuoted
  | literal
  | folded
  deriving DecidableEq, Repr, Inhabited

/-- What a token is. -/
inductive TokenKind where
  | streamStart
  | streamEnd
  /-- `%YAML major.minor`. -/
  | versionDirective (major minor : Nat)
  /-- `%TAG handle tag`. -/
  | tagDirective (handle expansion : String)
  | documentStart
  | documentEnd
  | blockSequenceStart
  | blockMappingStart
  | blockEnd
  | flowSequenceStart
  | flowSequenceEnd
  | flowMappingStart
  | flowMappingEnd
  | blockEntry
  | flowEntry
  | key
  | value
  /-- `*name`: a use of an anchored node. -/
  | reference (name : String)
  /-- `&name`: names the node that follows. -/
  | anchor (name : String)
  /-- A tag as written: its handle (empty for a verbatim tag) and suffix. -/
  | tag (handle suffix : String)
  | scalar (text : String) (style : Style)
  deriving Inhabited, Repr

/-- A token and where it starts and stops. -/
structure Token where
  kind : TokenKind
  start : Mark
  stop : Mark
  deriving Inhabited, Repr

/-- Is the token of a kind without data? Compares the kinds that carry none. -/
def TokenKind.same : TokenKind → TokenKind → Bool
  | .streamStart, .streamStart | .streamEnd, .streamEnd | .documentStart, .documentStart
  | .documentEnd, .documentEnd | .blockSequenceStart, .blockSequenceStart
  | .blockMappingStart, .blockMappingStart | .blockEnd, .blockEnd
  | .flowSequenceStart, .flowSequenceStart | .flowSequenceEnd, .flowSequenceEnd
  | .flowMappingStart, .flowMappingStart | .flowMappingEnd, .flowMappingEnd
  | .blockEntry, .blockEntry | .flowEntry, .flowEntry | .key, .key | .value, .value => true
  | _, _ => false

/-- Why a stream could not be read. -/
structure SyntaxError where
  /-- Found while splitting the text into tokens, rather than in the structure. -/
  scanning : Bool
  /-- The line, from zero, where the construct concerned started. -/
  contextLine : Nat
  /-- The line, from zero, where the problem was found. -/
  problemLine : Nat
  /-- What is wrong. -/
  problem : String
  deriving Repr

/-- The text of a syntax error. -/
def SyntaxError.message (failure : SyntaxError) : String :=
  let line := if failure.contextLine ≠ 0 then failure.contextLine else failure.problemLine
  let line := if line ≠ 0 && failure.scanning then line + 1 else line
  if line = 0 then "yaml: " ++ failure.problem else s!"yaml: line {line}: {failure.problem}"

/-- A failure with no line, for a stream that is not text and for documents whose nodes do not
fit together. -/
def SyntaxError.plain (problem : String) : SyntaxError := ⟨false, 0, 0, problem⟩

end Testbench.Yaml
