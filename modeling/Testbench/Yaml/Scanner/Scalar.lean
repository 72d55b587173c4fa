import Testbench.Yaml.Scanner.Basic
/-!
Scanning scalars.

Quoted scalars run to their closing quote. A single-quoted scalar escapes a quote by doubling
it; a double-quoted one has backslash escapes, and a backslash before a line break joins the
lines without a space. In both, a line break between text folds to a space, and each further
empty line stays a line feed; blanks around breaks are dropped. A document marker at the start
of a line, or the end of the stream, inside the quotes is an error.

A plain scalar runs over words separated by blanks and may continue on lines indented deeper
than the enclosing block, folding breaks the same way. It stops before `: ` (and in brackets
before `,`, a bracket or brace, or a `:` followed by one of them or by `?`), before ` #`, at a
document marker, and at a less indented line. A tab in the indentation of a continuation line
is an error.

A block scalar (`|` literal, `>` folded) has a header with optional chomping (`-` strip, `+`
keep) and indentation digit, in either order, then a comment or the line break. Its lines are
those indented at least as far as the first line with text, or as the digit says past the
enclosing block; leading empty lines count towards finding that width. Folding joins two lines
by a space when neither starts with a blank. Clipping keeps one final line break, stripping
none, keeping all.
-/

namespace Testbench.Yaml

namespace Scanner

/-- Is a document marker, `---` or `...` followed by a blank or the end, at the start of the
line here? -/
def atDocumentMarker (s : Scanner) : Bool :=
  s.mark.column == 0 &&
    ((s.isChar 0 '-' && s.isChar 1 '-' && s.isChar 2 '-') ||
     (s.isChar 0 '.' && s.isChar 1 '.' && s.isChar 2 '.')) &&
    s.isBlankzAt 3

end Scanner

/-- The character a one-letter escape stands for, or the number of hexadecimal digits of a
code escape (`x`, `u`, `U`). -/
def escapeOf (c : Char) : Option (Option Char × Nat) :=
  match c with
  | '0' => some (some (Char.ofNat 0), 0)
  | 'a' => some (some (Char.ofNat 7), 0)
  | 'b' => some (some (Char.ofNat 8), 0)
  | 't' | '\t' => some (some '\t', 0)
  | 'n' => some (some '\n', 0)
  | 'v' => some (some (Char.ofNat 11), 0)
  | 'f' => some (some (Char.ofNat 12), 0)
  | 'r' => some (some '\r', 0)
  | 'e' => some (some (Char.ofNat 27), 0)
  | ' ' => some (some ' ', 0)
  | '"' => some (some '"', 0)
  | '\'' => some (some '\'', 0)
  | '/' => some (some '/', 0)
  | '\\' => some (some '\\', 0)
  | 'N' => some (some (Char.ofNat 0x85), 0)
  | '_' => some (some (Char.ofNat 0xA0), 0)
  | 'L' => some (some (Char.ofNat 0x2028), 0)
  | 'P' => some (some (Char.ofNat 0x2029), 0)
  | 'x' => some (none, 2)
  | 'u' => some (none, 4)
  | 'U' => some (none, 8)
  | _ => none

/-- The value of `count` hexadecimal digits from `offset` places ahead. -/
def hexDigitsAt (s : Scanner) (offset count : Nat) : Option Nat :=
  (List.range count).foldlM (fun value k => ((s.charAt (offset + k)).bind Scanner.hexValue).map (value * 16 + ·)) 0

/-- Reads the words of a quoted scalar up to a blank, a break or the closing quote, onto the
text; also tells whether an escaped line break was passed. -/
def quotedWords (start : Mark) (single : Bool) : Nat → String → ScanM (String × Bool)
  | 0, text => pure (text, false)
  | fuel + 1, text => do
    let s ← get
    if s.isBlankzAt 0 then return (text, false)
    if single && s.isChar 0 '\'' && s.isChar 1 '\'' then
      set s.skip.skip
      quotedWords start single fuel (text.push '\'')
    else if single && s.isChar 0 '\'' then return (text, false)
    else if !single && s.isChar 0 '"' then return (text, false)
    else if !single && s.isChar 0 '\\' && s.isBreakAt 1 then
      set s.skip.skipLine
      return (text, true)
    else if !single && s.isChar 0 '\\' then
      match (s.charAt 1).bind escapeOf with
      | none => scanError start "found unknown escape character"
      | some (some c, _) =>
        set s.skip.skip
        quotedWords start single fuel (text.push c)
      | some (none, length) =>
        let s := s.skip.skip
        set s
        match hexDigitsAt s 0 length with
        | none => scanError start "did not find expected hexdecimal number"
        | some value =>
          if (0xD800 ≤ value && value ≤ 0xDFFF) || value > 0x10FFFF then
            scanError start "found invalid Unicode character escape code"
          set (Scanner.skipWhile (fun _ => true) length s)
          quotedWords start single fuel (text.push (Char.ofNat value))
    else
      let (s, text) := s.read text
      set s
      quotedWords start single fuel text

/-- The blanks and breaks between words: the blanks kept while no break was met, the first
break, the further breaks, and whether a break was met. -/
structure Gap where
  whitespaces : String := ""
  leadingBreak : String := ""
  trailingBreaks : String := ""
  leadingBlanks : Bool := false

/-- Reads blanks and breaks between the words of a quoted scalar. -/
def quotedGap : Nat → Gap → ScanM Gap
  | 0, gap => pure gap
  | fuel + 1, gap => do
    let s ← get
    if s.isBlankAt 0 then
      if !gap.leadingBlanks then
        let (s, whitespaces) := s.read gap.whitespaces
        set s
        quotedGap fuel { gap with whitespaces }
      else
        set s.skip
        quotedGap fuel gap
    else if s.isBreakAt 0 then
      if !gap.leadingBlanks then
        let (s, leadingBreak) := s.readLine ""
        set s
        quotedGap fuel { gap with whitespaces := "", leadingBreak, leadingBlanks := true }
      else
        let (s, trailingBreaks) := s.readLine gap.trailingBreaks
        set s
        quotedGap fuel { gap with trailingBreaks }
    else pure gap

/-- Joins a gap into the text: a single line feed folds to a space, further breaks stay, other
breaks stay as they are; blanks without a break stay. -/
def Gap.join (gap : Gap) (text : String) : String :=
  if gap.leadingBlanks then
    if gap.leadingBreak.startsWith "\n" then
      if gap.trailingBreaks.isEmpty then text.push ' ' else text ++ gap.trailingBreaks
    else text ++ gap.leadingBreak ++ gap.trailingBreaks
  else text ++ gap.whitespaces

/-- Reads the body of a quoted scalar up to its closing quote. -/
def quotedBody (start : Mark) (single : Bool) : Nat → String → ScanM String
  | 0, text => pure text
  | fuel + 1, text => do
    let s ← get
    if s.atDocumentMarker then scanError start "found unexpected document indicator"
    if s.isEndAt 0 then scanError start "found unexpected end of stream"
    let (text, escapedBreak) ← quotedWords start single s.fuel text
    let s ← get
    if (single && s.isChar 0 '\'') || (!single && s.isChar 0 '"') then return text
    let gap ← quotedGap s.fuel { leadingBlanks := escapedBreak }
    quotedBody start single fuel (gap.join text)

/-- Scans a quoted scalar whose opening quote is next. -/
def scanFlowScalar (single : Bool) : ScanM Token := do
  let start ← currentMark
  skipChar
  let text ← quotedBody start single (← get).fuel ""
  skipChar
  let stop ← currentMark
  return ⟨.scalar text (if single then .singleQuoted else .doubleQuoted), start, stop⟩

/-- Does a plain scalar end before the character here? -/
def plainStops (s : Scanner) : Bool :=
  (s.isChar 0 ':' && s.isBlankzAt 1) ||
    (s.flowLevel > 0 &&
      (s.isChar 0 ',' || s.isChar 0 '[' || s.isChar 0 ']' || s.isChar 0 '{' || s.isChar 0 '}' ||
       (s.isChar 0 ':' && (s.isChar 1 ',' || s.isChar 1 '?' || s.isChar 1 '[' || s.isChar 1 ']' ||
          s.isChar 1 '{' || s.isChar 1 '}'))))

/-- Reads the characters of one word of a plain scalar, joining the gap before it into the
text; gives the text, what is left of the gap, and where the word ended. -/
def plainWord : Nat → String → Gap → Mark → ScanM (String × Gap × Mark)
  | 0, text, gap, stop => pure (text, gap, stop)
  | fuel + 1, text, gap, stop => do
    let s ← get
    if s.isBlankzAt 0 || plainStops s then return (text, gap, stop)
    let text := if gap.leadingBlanks || !gap.whitespaces.isEmpty then gap.join text else text
    let (s, text) := s.read text
    set s
    plainWord fuel text {} s.mark

/-- Reads blanks and breaks after a word of a plain scalar; a tab in the indentation of a
continuation line less indented than `indent` is an error. -/
def plainGap (start : Mark) (indent : Int) : Nat → Gap → ScanM Gap
  | 0, gap => pure gap
  | fuel + 1, gap => do
    let s ← get
    if s.isBlankAt 0 then
      if gap.leadingBlanks && (s.mark.column : Int) < indent && s.isChar 0 '\t' then
        scanError start "found a tab character that violates indentation"
      if !gap.leadingBlanks then
        let (s, whitespaces) := s.read gap.whitespaces
        set s
        plainGap start indent fuel { gap with whitespaces }
      else
        set s.skip
        plainGap start indent fuel gap
    else if s.isBreakAt 0 then
      if !gap.leadingBlanks then
        let (s, leadingBreak) := s.readLine ""
        set s
        plainGap start indent fuel { gap with whitespaces := "", leadingBreak, leadingBlanks := true }
      else
        let (s, trailingBreaks) := s.readLine gap.trailingBreaks
        set s
        plainGap start indent fuel { gap with trailingBreaks }
    else pure gap

/-- Reads the words of a plain scalar; gives the text, the gap left after the last word, and
where the last word ended. -/
def plainBody (start : Mark) (indent : Int) : Nat → String → Gap → Mark → ScanM (String × Gap × Mark)
  | 0, text, gap, stop => pure (text, gap, stop)
  | fuel + 1, text, gap, stop => do
    let s ← get
    if s.atDocumentMarker || s.isChar 0 '#' then return (text, gap, stop)
    let (text, gap, stop) ← plainWord s.fuel text gap stop
    let s ← get
    if !(s.isBlankAt 0 || s.isBreakAt 0) then return (text, gap, stop)
    let gap ← plainGap start indent s.fuel gap
    let s ← get
    if s.flowLevel == 0 && (s.mark.column : Int) < indent then return (text, gap, stop)
    plainBody start indent fuel text gap stop

/-- Scans a plain scalar starting here. After one that ended past a line break a simple key
may follow. -/
def scanPlainScalar : ScanM Token := do
  let s ← get
  let start := s.mark
  let (text, gap, stop) ← plainBody start (s.indent + 1) s.fuel "" {} start
  if gap.leadingBlanks then modify fun s => { s with keyAllowed := true }
  return ⟨.scalar text .plain, start, stop⟩

/-- Reads the indentation and empty lines before a line of a block scalar: spaces up to the
indentation (all of them while it is unknown), each line break onto `breaks`. Gives the
indentation, found from the deepest line when it was unknown, the breaks, and the position
after the last break. -/
def blockBreaks (start : Mark) (indent : Nat) : Nat → String → Nat → Mark → ScanM (Nat × String × Mark)
  | 0, breaks, _, stop => pure (indent, breaks, stop)
  | fuel + 1, breaks, deepest, stop => do
    let s ← get
    let within (s : Scanner) : Bool := indent == 0 || s.mark.column < indent
    let s := Scanner.skipWhile (fun s => within s && s.isChar 0 ' ') s.fuel s
    set s
    let deepest := max deepest s.mark.column
    if within s && s.isChar 0 '\t' then
      scanError start "found a tab character where an indentation space is expected"
    if !s.isBreakAt 0 then
      if indent ≠ 0 then return (indent, breaks, stop)
      let outer := s.indent + 1
      let found := max (max (deepest : Int) outer) 1
      return (found.toNat, breaks, stop)
    let (s, breaks) := s.readLine breaks
    set s
    blockBreaks start indent fuel breaks deepest s.mark

/-- The chomping and indentation indicators of a block scalar header. -/
def blockHeader (start : Mark) : ScanM (Int × Nat) := do
  let s ← get
  let chompOf (c : Option Char) : Int := if c == some '+' then 1 else -1
  let digitOf (s : Scanner) : Option Nat := (s.charAt 0).bind fun c => if c.isDigit then some (c.toNat - '0'.toNat) else none
  if s.isChar 0 '+' || s.isChar 0 '-' then
    let chomping := chompOf (s.charAt 0)
    let s := s.skip
    set s
    match digitOf s with
    | some 0 => scanError start "found an indentation indicator equal to 0"
    | some digit => set s.skip; return (chomping, digit)
    | none => return (chomping, 0)
  else
    match digitOf s with
    | some 0 => scanError start "found an indentation indicator equal to 0"
    | some digit =>
      let s := s.skip
      if s.isChar 0 '+' || s.isChar 0 '-' then
        set s.skip
        return (chompOf (s.charAt 0), digit)
      set s
      return (0, digit)
    | none => return (0, 0)

/-- Reads the lines of a block scalar. -/
def blockLines (start : Mark) (literal : Bool) (indent : Nat) :
    Nat → String → String → String → Bool → Mark → ScanM (String × String × String × Mark)
  | 0, text, leadingBreak, trailing, _, stop => pure (text, leadingBreak, trailing, stop)
  | fuel + 1, text, leadingBreak, trailing, leadingBlank, stop => do
    let s ← get
    if s.mark.column != indent || s.isEndAt 0 then return (text, leadingBreak, trailing, stop)
    let trailingBlank := s.isBlankAt 0
    let text :=
      if !literal && !leadingBlank && !trailingBlank && leadingBreak.startsWith "\n" then
        (if trailing.isEmpty then text.push ' ' else text)
      else text ++ leadingBreak
    let text := text ++ trailing
    let leadingBlank := s.isBlankAt 0
    let (s, text) := Scanner.readWhile (fun s => !s.isBreakzAt 0) s.fuel s text
    let (s, leadingBreak) := s.readLine ""
    set s
    let (_, trailing, stop) ← blockBreaks start indent s.fuel "" 0 s.mark
    blockLines start literal indent fuel text leadingBreak trailing leadingBlank stop

/-- Scans a block scalar whose indicator is next. -/
def scanBlockScalar (literal : Bool) : ScanM Token := do
  let start ← currentMark
  skipChar
  let (chomping, increment) ← blockHeader start
  let s ← get
  let s := Scanner.skipWhile (fun s => s.isBlankAt 0) s.fuel s
  let s := if s.isChar 0 '#' then Scanner.skipWhile (fun s => !s.isBreakzAt 0) s.fuel s else s
  set s
  if !s.isBreakzAt 0 then scanError start "did not find expected comment or line break"
  let s := s.skipLine
  set s
  let fixed : Nat := if increment > 0 then (if s.indent ≥ 0 then s.indent.toNat + increment else increment) else 0
  let (indent, trailing, stop) ← blockBreaks start fixed s.fuel "" 0 s.mark
  let (text, leadingBreak, trailing, stop) ← blockLines start literal indent (← get).fuel "" "" trailing false stop
  let text := if chomping != -1 then text ++ leadingBreak else text
  let text := if chomping == 1 then text ++ trailing else text
  return ⟨.scalar text (if literal then .literal else .folded), start, stop⟩

end Testbench.Yaml
