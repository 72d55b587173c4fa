/-!
Integers and booleans written on a command line.

An integer is an optional sign and digits in base ten, or in base two, eight or sixteen after
`0b`, `0o` or `0x` (either case); a lone leading `0` also means base eight. Underscores may
stand between digits and after a base prefix. Digits are read from the left; the first digit
that makes the magnitude exceed 64 bits makes the text out of range, whatever follows it. A
value outside the signed range of the given width is out of range too. Booleans are `1`, `t`,
`T`, `TRUE`, `true`, `True` and their opposites with `0` and `f`.
-/

namespace Testbench.Numeral

/-- Why a text is no integer. -/
inductive Problem where
  /-- It is not written as an integer. -/
  | malformed
  /-- It is too large in magnitude. -/
  | range
  deriving DecidableEq, Repr

/-- The text of a problem. -/
def Problem.message : Problem → String
  | .malformed => "parse error"
  | .range => "value out of range"

/-- A character in lower case, for ASCII letters. -/
def lower (char : Char) : Char := char.toLower

/-- The value of a digit or letter as a digit, letters counting from ten. -/
def digitValue? (char : Char) : Option Nat :=
  if '0' ≤ char && char ≤ '9' then some (char.toNat - '0'.toNat)
  else if 'a' ≤ lower char && lower char ≤ 'z' then some ((lower char).toNat - 'a'.toNat + 10)
  else none

/-- The base a text is written in, and its digits after any prefix. -/
def baseOf (chars : List Char) : Nat × List Char :=
  match chars with
  | '0' :: marker :: rest =>
    if rest.isEmpty then (8, marker :: rest)
    else if lower marker == 'b' then (2, rest)
    else if lower marker == 'o' then (8, rest)
    else if lower marker == 'x' then (16, rest)
    else (8, marker :: rest)
  | '0' :: rest => (8, rest)
  | other => (10, other)

/-- Reads digits from the left into a magnitude below `2 ^ 64`. -/
def readDigits (base : Nat) : Nat → List Char → Except Problem Nat
  | value, [] => .ok value
  | value, char :: rest =>
    if char == '_' then readDigits base value rest
    else
      match digitValue? char with
      | none => .error .malformed
      | some digit =>
        if digit ≥ base then .error .malformed
        else
          let next := value * base + digit
          if next ≥ Nat.pow 2 64 then .error .range else readDigits base next rest

/-- Are the underscores of a text (without its sign) each between digits, or between a base
prefix and a digit? -/
def underscoresFit (chars : List Char) : Bool :=
  let (start, hex, rest) : Nat × Bool × List Char :=
    match chars with
    | '0' :: marker :: rest =>
      if lower marker == 'b' || lower marker == 'o' || lower marker == 'x' then
        (1, lower marker == 'x', rest)
      else (0, false, chars)
    | _ => (0, false, chars)
  -- 0: start, 1: after a digit or prefix, 2: after an underscore, 3: after anything else
  let final := rest.foldl (fun (saw : Option Nat) char =>
    match saw with
    | none => none
    | some state =>
      if ('0' ≤ char && char ≤ '9') || (hex && 'a' ≤ lower char && lower char ≤ 'f') then some 1
      else if char == '_' then (if state == 1 then some 2 else none)
      else if state == 2 then none
      else some 3) (some start)
  match final with
  | some state => state != 2
  | none => false

/-- Reads a signed integer that fits in `bits` bits. -/
def parseSigned (bits : Nat) (text : String) : Except Problem Int := do
  let chars := text.toList
  let (negative, unsigned) := match chars with
    | '+' :: rest => (false, rest)
    | '-' :: rest => (true, rest)
    | other => (false, other)
  if unsigned.isEmpty then throw .malformed
  let (base, digits) := baseOf unsigned
  let magnitude ← readDigits base 0 digits
  if unsigned.contains '_' && !underscoresFit unsigned then throw .malformed
  let limit := Nat.pow 2 (bits - 1)
  if negative then
    if magnitude > limit then throw .range else pure (-(magnitude : Int))
  else
    if magnitude ≥ limit then throw .range else pure magnitude

/-- Reads a boolean. -/
def parseBoolean (text : String) : Option Bool :=
  if ["1", "t", "T", "TRUE", "true", "True"].contains text then some true
  else if ["0", "f", "F", "FALSE", "false", "False"].contains text then some false
  else none

example : parseSigned 64 "0x10" = .ok 16 := rfl
example : parseSigned 64 "010" = .ok 8 := rfl
example : parseSigned 64 "1_000" = .ok 1000 := rfl
example : parseSigned 64 "_1" = .error .malformed := rfl
example : parseSigned 64 "9223372036854775808" = .error .range := rfl
example : parseSigned 64 "-9223372036854775808" = .ok (-9223372036854775808) := rfl
example : parseSigned 64 "99999999999999999999x" = .error .range := rfl
example : parseSigned 64 "abc" = .error .malformed := rfl

end Testbench.Numeral
