import Testbench.Yaml.Node
/-!
Writing YAML: string scalars and mappings of them, in block style.

A string is written plain when it would read back as the same string and nothing in it has a
meaning in YAML; single-quoted when only its plain form is ambiguous; double-quoted with
escapes when it holds tabs or characters that cannot stand as they are, or when read plain it
would stand for something else than a string (a number, a boolean, null). A string with line
feeds is a literal block, indented under its key, unless it holds characters that cannot stand
as they are or has a space before a break or at its end. Mappings are written one key per
line, indented by four, with keys in natural order: letters by code point and runs of digits
by their value. An empty mapping is `{}`.
-/

namespace Testbench.Yaml

/-- Characters that are written as they are: the line feed, printable ASCII and the rest of the
basic multilingual plane but surrogates, the byte order mark and the two non-characters at its
end. The next line character and everything beyond the plane are escaped. -/
def printable (c : Char) : Bool :=
  let n := c.toNat
  n == 0x0A || (0x20 ≤ n && n ≤ 0x7E) || (0xA0 ≤ n && n ≤ 0xD7FF) ||
    (0xE000 ≤ n && n ≤ 0xFFFD && n != 0xFEFF)

/-- Line breaks. -/
def isLineBreak (c : Char) : Bool :=
  c == '\n' || c == '\r' || c.toNat == 0x85 || c.toNat == 0x2028 || c.toNat == 0x2029

/-- Spaces and tabs. -/
def isBlank (c : Char) : Bool := c == ' ' || c == '\t'

/-- Blanks, breaks and the null character, which end a word. -/
def isBlankChar (c : Char) : Bool := isBlank c || isLineBreak c || c.toNat == 0

/-- What a string's characters allow. -/
structure ScalarAnalysis where
  /-- May it be written plain in block context? -/
  plain : Bool
  /-- May it be single-quoted? -/
  singleQuoted : Bool
  /-- May it be a literal block? -/
  block : Bool

/-- Finds what styles a string allows. -/
def analyze (text : String) : ScalarAnalysis :=
  let chars := text.toList
  let count := chars.length
  let documentIndicator := text.startsWith "---" || text.startsWith "..."
  let step := fun (state : Bool × Bool × Bool × Bool × Bool × Bool × Bool × Bool × Bool × Bool × Bool × Bool × Bool)
      ((c, index) : Char × Nat) =>
    let (blockIndicators, special, tabs, breaks, leadingSpace, leadingBreak, trailingSpace,
      trailingBreak, breakSpace, spaceBreak, previousSpace, previousBreak, precededByBlank) := state
    let next := chars[index + 1]?
    let followedByBlank := next.all isBlank
    let first := index = 0
    let last := index + 1 = count
    let indicator :=
      if first then
        "#,[]{}&*!|>'\"%@`".toList.contains c || ((c == '?' || c == ':') && followedByBlank) ||
          (c == '-' && followedByBlank)
      else (c == ':' && followedByBlank) || (c == '#' && precededByBlank)
    let tabs := tabs || c == '\t'
    let special := special || (c != '\t' && !printable c)
    let breaks := breaks || isLineBreak c
    let (leadingSpace, trailingSpace, breakSpace, leadingBreak, trailingBreak, spaceBreak,
        previousSpace, previousBreak) :=
      if c == ' ' then
        (leadingSpace || first, trailingSpace || last, breakSpace || previousBreak, leadingBreak,
          trailingBreak, spaceBreak, true, false)
      else if isLineBreak c then
        (leadingSpace, trailingSpace, breakSpace, leadingBreak || first, trailingBreak || last,
          spaceBreak || previousSpace, false, true)
      else (leadingSpace, trailingSpace, breakSpace, leadingBreak, trailingBreak, spaceBreak, false, false)
    (blockIndicators || indicator, special, tabs, breaks, leadingSpace, leadingBreak, trailingSpace,
      trailingBreak, breakSpace, spaceBreak, previousSpace, previousBreak, isBlankChar c)
  let (blockIndicators, special, tabs, breaks, leadingSpace, leadingBreak, trailingSpace,
      trailingBreak, breakSpace, spaceBreak, _, _, _) :=
    chars.zipIdx.foldl step
      (documentIndicator, false, false, false, false, false, false, false, false, false, false, false, true)
  let plain := !(leadingSpace || leadingBreak || trailingSpace || trailingBreak || breakSpace ||
    spaceBreak || tabs || special || breaks || blockIndicators || count = 0)
  let single := !(breakSpace || spaceBreak || tabs || special)
  let block := !(trailingSpace || spaceBreak || special)
  ⟨plain, single, block⟩

/-- Is the string one of the old spellings of booleans, which older readers take for booleans? -/
def isOldBoolean (text : String) : Bool :=
  ["y", "Y", "yes", "Yes", "YES", "n", "N", "no", "No", "NO", "on", "On", "ON", "off", "Off", "OFF"].contains text

/-- Is the string a number in base sixty, which older readers take for a float? -/
def isSexagesimal (text : String) : Bool :=
  let chars := text.toList
  let body := match chars with | '+' :: rest | '-' :: rest => rest | rest => rest
  match body with
  | first :: _ =>
    '1' ≤ first && first ≤ '9' && body.contains ':' &&
      (body.all fun c => c.isDigit || c == ':' || c == '_' || c == '.') &&
      (((text.splitOn ":").drop 1).all fun part =>
        let digits := part.toList.takeWhile Char.isDigit
        digits.length ≥ 1 && digits.length ≤ 2)
  | [] => false

/-- A string in double quotes, with escapes for what cannot stand as it is. -/
def doubleQuote (text : String) : String :=
  let escapeChar (c : Char) : String :=
    let n := c.toNat
    if c == '"' then "\\\"" else if c == '\\' then "\\\\"
    else if printable c && n != 0xFEFF && !isLineBreak c || c == ' ' then c.toString
    else match n with
      | 0x00 => "\\0" | 0x07 => "\\a" | 0x08 => "\\b" | 0x09 => "\\t" | 0x0A => "\\n"
      | 0x0B => "\\v" | 0x0C => "\\f" | 0x0D => "\\r" | 0x1B => "\\e" | 0x85 => "\\N"
      | 0xA0 => "\\_" | 0x2028 => "\\L" | 0x2029 => "\\P"
      | _ =>
        let hex (width : Nat) := String.ofList ((Nat.toDigits 16 n).map Char.toUpper |> fun ds =>
          List.replicate (width - ds.length) '0' ++ ds)
        if n ≤ 0xFF then "\\x" ++ hex 2 else if n ≤ 0xFFFF then "\\u" ++ hex 4 else "\\U" ++ hex 8
  "\"" ++ String.join (text.toList.map escapeChar) ++ "\""

/-- A string in single quotes at a scalar indentation of `indent`: a quote inside is doubled,
and a character that follows a line break starts its line at the indentation. -/
def singleQuote (text : String) (indent : Nat) : String :=
  let pad := String.ofList (List.replicate indent ' ')
  let step := fun ((out, afterBreak) : String × Bool) (c : Char) =>
    if isLineBreak c then (out.push c, true)
    else ((if afterBreak then out ++ pad else out) ++ (if c == '\'' then "''" else c.toString), false)
  "'" ++ (text.toList.foldl step ("", false)).1 ++ "'"

/-- A literal block of the string, its lines indented by `indent` spaces: the indicator with its
chomping (strip without a final break, keep with more than one), then the characters, each that
follows a line break starting its line at the indentation. -/
def literalBlock (text : String) (indent : Nat) : String :=
  let chars := text.toList
  let hint := match chars.head? with
    | some c => if c == ' ' || isLineBreak c then "4" else ""
    | none => ""
  let chomp :=
    match chars.getLast? with
    | none => "-"
    | some last =>
      if !isLineBreak last then "-"
      else if chars.length = 1 then "+"
      else if chars[chars.length - 2]?.any isLineBreak then "+"
      else ""
  let pad := String.ofList (List.replicate indent ' ')
  let step := fun ((out, afterBreak) : String × Bool) (c : Char) =>
    if isLineBreak c then (out.push c, true)
    else ((if afterBreak then out ++ pad else out).push c, false)
  let body := (chars.foldl step ("", true)).1
  "|" ++ hint ++ chomp ++ "\n" ++ body ++ (if chars.getLast?.any isLineBreak then "" else "\n")

/-- A string as a value at the given block indentation. Ends without a line break unless it is
a literal block, which ends with one. -/
def scalarText (text : String) (indent : Nat) (key : Bool) : String :=
  let analysis := analyze text
  let resolvesToString :=
    (resolveText "" text).1 == "!!str" && !(isSexagesimal text || isOldBoolean text)
  if text.contains '\n' && !key then
    if analysis.block then literalBlock text (indent + 4) else doubleQuote text
  else if !resolvesToString then doubleQuote text
  else if analysis.plain then text
  else if analysis.singleQuoted then singleQuote text (indent + 4)
  else doubleQuote text

/-- Natural order of strings: runs of digits compare by value, letters by code point, and a
letter against another character as the surrounding digits decide. -/
def naturalLess (left right : String) : Bool :=
  let isLetter (c : Char) : Bool :=
    c.isAlpha || (c.toNat ≥ 0xC0 && c.toNat != 0xD7 && c.toNat != 0xF7 &&
      !(0x2000 ≤ c.toNat && c.toNat ≤ 0x2BFF) && !(0x3000 ≤ c.toNat && c.toNat ≤ 0x303F) &&
      !(0xD800 ≤ c.toNat && c.toNat ≤ 0xF8FF) && c.toNat < 0x1F000)
  let a := left.toList.toArray
  let b := right.toList.toArray
  let number (chars : Array Char) (start init : Nat) : Nat × Nat :=
    let digits := (chars.extract start chars.size).toList.takeWhile Char.isDigit
    (digits.foldl (fun acc c => acc * 10 + (c.toNat - '0'.toNat)) init, start + digits.length)
  let rec go : Nat → Bool → Nat → Bool
    | 0, _, _ => a.size < b.size
    | fuel + 1, digits, index =>
      match a[index]?, b[index]? with
      | some x, some y =>
        if x == y then go fuel x.isDigit (index + 1)
        else
          let xl := isLetter x
          let yl := isLetter y
          if xl && yl then x < y
          else if xl || yl then (if digits then xl else yl)
          else
            let leadingNonZero := (List.range index).reverse.takeWhile (fun j => (a[j]?.getD ' ').isDigit)
              |>.any fun j => a[j]?.getD '0' != '0'
            -- inside a number that has a non-zero digit before, leading zeros count
            let init := if (x == '0' || y == '0') && leadingNonZero then 1 else 0
            let (an, ai) := number a index init
            let (bn, bi) := number b index init
            if an != bn then an < bn
            else if ai != bi then ai < bi
            else x < y
      | _, _ => a.size < b.size
  go (max a.size b.size + 1) false 0

/-- Sorts keys in natural order. -/
def naturalSort (keys : List String) : List String :=
  keys.mergeSort fun left right => naturalLess left right || !naturalLess right left

/-- A block mapping of strings at an indentation: one `key: value` line each, keys in
natural order; `{}` on the key's line when empty. -/
def mappingText (entries : List (String × String)) (indent : Nat) : String :=
  if entries.isEmpty then " {}\n"
  else
    let pad := String.ofList (List.replicate indent ' ')
    let keys := naturalSort (entries.map (·.1))
    "\n" ++ String.join (keys.map fun key =>
      let value := ((entries.find? (·.1 == key)).map (·.2)).getD ""
      let shown := scalarText value indent false
      pad ++ scalarText key indent true ++ ":" ++ (if shown.startsWith "|" then " " ++ shown else " " ++ shown ++ "\n"))

end Testbench.Yaml
