import Testbench.Yaml.Scanner.Basic
import Testbench.Bytes.Utf8
/-!
Scanning anchors, references, tags and directives.

An anchor `&name` or a reference `*name` is a run of letters, digits, `_` and `-`, followed by a
blank, the end, or one of `?:,]}%@` and the backquote.

A tag is verbatim, `!<uri>`; or a handle and a suffix, `!!suffix` or `!name!suffix`; or `!suffix`
with the primary handle `!`; or `!` alone, which marks a node as not specific. Tag characters
are letters, digits and `-_;/?:@&=+$,.!~*'()[]`, with `%` escapes of UTF-8 bytes. A tag must be
followed by a blank or the end, or by a comma inside brackets.

A directive stands at the start of a line: `%YAML major.minor` with numbers of at most two
digits, or `%TAG handle prefix`; any other name is an error. It may be followed by a comment.
-/

namespace Testbench.Yaml

/-- Characters that may follow an anchor or reference name besides blanks. -/
def anchorFollowers : String := "?:,]\x7d%@\x60"

/-- Scans an anchor, or a reference when asked, whose indicator is next. -/
def scanAnchor (reference : Bool) : ScanM Token := do
  let start ← currentMark
  skipChar
  let s ← get
  let (s, name) := Scanner.readWhile (fun s => s.isAlphaAt 0) s.fuel s ""
  set s
  let followed := s.isBlankzAt 0 || (s.charAt 0).any (anchorFollowers.contains ·)
  if name.isEmpty || !followed then
    scanError start "did not find expected alphabetic or numeric character"
  return ⟨if reference then .reference name else .anchor name, start, s.mark⟩

/-- Characters a tag may hold besides letters, digits, `_` and `-`. -/
def tagPunctuation : String := ";/?:@&=+$,.!~*'()[]%"

/-- Reads `%` escapes of one UTF-8 sequence as bytes. -/
def uriEscapes (start : Mark) : Nat → Nat → List UInt8 → ScanM (List UInt8)
  | 0, _, bytes => pure bytes
  | fuel + 1, width, bytes => do
    let s ← get
    let octet := match (s.charAt 1).bind Scanner.hexValue, (s.charAt 2).bind Scanner.hexValue with
      | some high, some low => if s.isChar 0 '%' then some (high * 16 + low) else none
      | _, _ => none
    match octet with
    | none => scanError start "did not find URI escaped octet"
    | some octet =>
      let width ← if width = 0 then
          let width :=
            if octet &&& 0x80 == 0 then 1 else if octet &&& 0xE0 == 0xC0 then 2
            else if octet &&& 0xF0 == 0xE0 then 3 else if octet &&& 0xF8 == 0xF0 then 4 else 0
          if width = 0 then scanError start "found an incorrect leading UTF-8 octet"
          pure width
        else if octet &&& 0xC0 != 0x80 then scanError start "found an incorrect trailing UTF-8 octet"
        else pure width
      set s.skip.skip.skip
      let bytes := bytes ++ [octet.toUInt8]
      if bytes.length ≥ width then pure bytes else uriEscapes start fuel width bytes

/-- Reads the characters of a tag onto a text. -/
def tagChars (start : Mark) : Nat → String → Bool → ScanM (String × Bool)
  | 0, text, found => pure (text, found)
  | fuel + 1, text, found => do
    let s ← get
    match s.charAt 0 with
    | some c =>
      if Scanner.alphaChar c || tagPunctuation.contains c then
        if c == '%' then
          let bytes ← uriEscapes start 4 0 []
          tagChars start fuel (text ++ Utf8.decodeLossy bytes) true
        else
          let (s, text) := s.read text
          set s
          tagChars start fuel text true
      else pure (text, found)
    | none => pure (text, found)

/-- Scans the characters of a tag after a head already read (of which the leading `!` is
dropped). A tag without any character is an error. -/
def scanTagUri (head : String) (start : Mark) : ScanM String := do
  let text := if head.length > 1 then String.ofList (head.toList.drop 1) else ""
  let (text, found) ← tagChars start (← get).fuel text (head.length > 0)
  if !found then scanError start "did not find expected tag URI"
  return text

/-- Scans a tag handle: `!`, then letters and digits, then `!` if there is one. In a `%TAG`
directive the handle must end with `!` unless it is `!` alone. -/
def scanTagHandle (directive : Bool) (start : Mark) : ScanM String := do
  let s ← get
  if !s.isChar 0 '!' then scanError start "did not find expected '!'"
  let (s, text) := s.read ""
  let (s, text) := Scanner.readWhile (fun s => s.isAlphaAt 0) s.fuel s text
  set s
  if s.isChar 0 '!' then
    let (s, text) := s.read text
    set s
    return text
  if directive && text != "!" then scanError start "did not find expected '!'"
  return text

/-- Scans a tag whose `!` is next. -/
def scanTag : ScanM Token := do
  let s ← get
  let start := s.mark
  let (handle, suffix) ←
    if s.isChar 1 '<' then do
      set s.skip.skip
      let suffix ← scanTagUri "" start
      if !(← get).isChar 0 '>' then scanError start "did not find the expected '>'"
      skipChar
      pure ("", suffix)
    else do
      let handle ← scanTagHandle false start
      if handle.length > 1 && handle.startsWith "!" && handle.endsWith "!" then
        pure (handle, ← scanTagUri "" start)
      else
        let suffix ← scanTagUri handle start
        if suffix.isEmpty then pure ("", "!") else pure ("!", suffix)
  let s ← get
  if !s.isBlankzAt 0 && (s.flowLevel == 0 || !s.isChar 0 ',') then
    scanError start "did not find expected whitespace or line break"
  return ⟨.tag handle suffix, start, s.mark⟩

/-- Scans a version number of at most two digits. -/
def scanVersionNumber (start : Mark) : ScanM Nat := do
  let s ← get
  let digits := ((List.range 3).map s.charAt).takeWhile fun c => c.any Char.isDigit
  if digits.length > 2 then
    set (Scanner.skipWhile (fun _ => true) 2 s)
    scanError start "found extremely long version number"
  if digits.isEmpty then scanError start "did not find expected version number"
  set (Scanner.skipWhile (fun _ => true) digits.length s)
  return digits.foldl (fun acc c => 10 * acc + ((c.map fun c => c.toNat - '0'.toNat).getD 0)) 0

/-- Scans a directive whose `%` is next, and the rest of its line. -/
def scanDirective : ScanM Token := do
  let start ← currentMark
  skipChar
  let s ← get
  let (s, name) := Scanner.readWhile (fun s => s.isAlphaAt 0) s.fuel s ""
  set s
  if name.isEmpty then scanError start "could not find expected directive name"
  if !s.isBlankzAt 0 then scanError start "found unexpected non-alphabetical character"
  let kind ←
    if name == "YAML" then do
      modify fun s => Scanner.skipWhile (fun s => s.isBlankAt 0) s.fuel s
      let major ← scanVersionNumber start
      if !(← get).isChar 0 '.' then scanError start "did not find expected digit or '.' character"
      skipChar
      let minor ← scanVersionNumber start
      pure (TokenKind.versionDirective major minor)
    else if name == "TAG" then do
      modify fun s => Scanner.skipWhile (fun s => s.isBlankAt 0) s.fuel s
      let handle ← scanTagHandle true start
      if !(← get).isBlankAt 0 then scanError start "did not find expected whitespace"
      modify fun s => Scanner.skipWhile (fun s => s.isBlankAt 0) s.fuel s
      let expansion ← scanTagUri "" start
      if !(← get).isBlankzAt 0 then scanError start "did not find expected whitespace or line break"
      pure (TokenKind.tagDirective handle expansion)
    else scanError start "found unknown directive name"
  let stop ← currentMark
  let s ← get
  let s := Scanner.skipWhile (fun s => s.isBlankAt 0) s.fuel s
  let s := if s.isChar 0 '#' then Scanner.skipWhile (fun s => !s.isBreakzAt 0) s.fuel s else s
  set s
  if !s.isBreakzAt 0 then scanError start "did not find expected comment or line break"
  set s.skipLine
  return ⟨kind, start, stop⟩

end Testbench.Yaml
