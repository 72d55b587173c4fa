import Testbench.Yaml.Timestamp
import Testbench.Decimal.Binary
/-!
What a scalar stands for.

A scalar with no tag, or with a tag of the core schema, is resolved by its text. The first
character decides what it may be: a letter among `yYnNtTfFoO` or `~` may only spell one of the
fixed words (booleans, null); a point may start a float or spell infinity or not-a-number; a
digit or a sign may start a timestamp, an integer or a float. Anything else is a string, and so
is any text that fails to be what its first character allows.

Integers are read after dropping underscores, in decimal, or in hexadecimal, octal or binary
after `0x`, `0o` (or a bare leading zero) and `0b`; they must fit 64 bits, signed, or unsigned
without a sign. Floats are decimal, with an optional exponent, rounded to the nearest 64-bit
float; one too large for that is not a float. A scalar tagged with a core tag must resolve to
that tag, except that an integer may stand for a float; any other tag is kept and the text
taken as it is.
-/

namespace Testbench.Yaml

/-- A 64-bit float. -/
inductive FloatValue where
  /-- A finite value: its sign and magnitude. -/
  | finite (negative : Bool) (magnitude : Decimal.Binary)
  /-- An infinity. -/
  | infinite (negative : Bool)
  /-- Not a number. -/
  | nan
  deriving DecidableEq, Repr

/-- What a scalar resolves to. -/
inductive Scalar where
  | null
  | boolean (value : Bool)
  /-- An integer that fits 64 bits signed. -/
  | integer (value : Int)
  /-- An integer above the signed range that fits 64 bits unsigned. -/
  | unsigned (value : Nat)
  | float (value : FloatValue)
  | timestamp
  | text (value : String)
  deriving DecidableEq, Repr

/-- The prefix of the tags of the core schema in full. -/
def coreTagPrefix : String := "tag:yaml.org,2002:"

/-- A tag in short form: a core tag as `!!name`, any other as it is. -/
def shortTag (tag : String) : String :=
  if tag.startsWith coreTagPrefix then "!!" ++ String.ofList (tag.toList.drop coreTagPrefix.length) else tag

/-- The value of a digit in a base, if it is one. -/
def digitIn (base : Nat) (c : Char) : Option Nat :=
  let value :=
    if c.isDigit then some (c.toNat - '0'.toNat)
    else if 'a' ≤ c && c ≤ 'z' then some (c.toNat - 'a'.toNat + 10)
    else if 'A' ≤ c && c ≤ 'Z' then some (c.toNat - 'A'.toNat + 10)
    else none
  value.filter (· < base)

/-- The value of digits in a base; none if one is no digit of the base. -/
def digitsValue (base : Nat) (digits : List Char) : Option Nat :=
  digits.foldlM (fun acc c => (digitIn base c).map (acc * base + ·)) 0

/-- The numbers 64 bits hold, unsigned. -/
def unsignedLimit : Nat := Nat.pow 2 64

/-- The least number 64 bits do not hold, signed. -/
def signedLimit : Nat := Nat.pow 2 63

/-- Reads an unsigned integer in a base; base zero takes the base from a prefix: `0x`, `0o`,
`0b` before at least one more character, else a leading zero for octal, else decimal. -/
def readUnsigned (base : Nat) (chars : List Char) : Option Nat :=
  if chars.isEmpty then none
  else
    let (base, digits) :=
      if base ≠ 0 then (base, chars)
      else match chars with
        | '0' :: b :: rest@(_ :: _) =>
          if b == 'b' || b == 'B' then (2, rest)
          else if b == 'o' || b == 'O' then (8, rest)
          else if b == 'x' || b == 'X' then (16, rest)
          else (8, b :: rest)
        | '0' :: rest => (8, rest)
        | _ => (10, chars)
    (digitsValue base digits).filter (· < unsignedLimit)

/-- Reads a signed integer in a base (zero as for `readUnsigned`), with an optional sign. -/
def readSigned (base : Nat) (chars : List Char) : Option Int :=
  if chars.isEmpty then none
  else
    let (negative, body) := match chars with
      | '+' :: rest => (false, rest)
      | '-' :: rest => (true, rest)
      | rest => (false, rest)
    match readUnsigned base body with
    | none => none
    | some value =>
      if negative then (if value > signedLimit then none else some (-(value : Int)))
      else if value ≥ signedLimit then none else some value

/-- Splits off leading decimal digits. -/
def spanDigits (chars : List Char) : List Char × List Char :=
  (chars.takeWhile Char.isDigit, chars.dropWhile Char.isDigit)

/-- A decimal float: sign, digits with an optional point (at least one digit before it, or a
point and at least one digit), and an optional exponent. Gives the sign, the digits before and
after the point, and the exponent. -/
def decimalParts (chars : List Char) : Option (Bool × List Char × List Char × Int) := do
  let (negative, body) := match chars with
    | '+' :: rest => (false, rest)
    | '-' :: rest => (true, rest)
    | rest => (false, rest)
  let (whole, rest) := spanDigits body
  let (fraction, rest) ← match whole, rest with
    | [], '.' :: more =>
      let (digits, rest) := spanDigits more
      if digits.isEmpty then none else some (digits, rest)
    | [], _ => none
    | _, '.' :: more => some (spanDigits more)
    | _, rest => some ([], rest)
  let exponent ← match rest with
    | [] => some (0 : Int)
    | e :: more =>
      if e == 'e' || e == 'E' then
        let (negativeExponent, digits) := match more with
          | '-' :: ds => (true, ds)
          | '+' :: ds => (false, ds)
          | ds => (false, ds)
        if digits.isEmpty || !digits.all Char.isDigit then none
        else
          let value : Int := (digitsValue 10 digits).getD 0
          some (if negativeExponent then -value else value)
      else none
  pure (negative, whole, fraction, exponent)

/-- The largest exponent of a finite 64-bit float in the form `mantissa * 2 ^ exponent`. -/
def maxBinaryExponent : Int := 971

/-- The 64-bit float nearest to a decimal float; none when it is too large. -/
def readFloat (chars : List Char) : Option FloatValue := do
  let (negative, whole, fraction, exponent) ← decimalParts chars
  let significant := (whole ++ fraction).dropWhile (· == '0')
  let mantissa := (digitsValue 10 significant).getD 0
  let scale : Int := exponent - fraction.length
  if mantissa = 0 then return .finite negative Decimal.Binary.zero
  -- beyond these bounds the value is far above the largest float or far below half the least
  if (significant.length : Int) + scale > 310 then none
  if (significant.length : Int) + scale < -330 then return .finite negative Decimal.Binary.zero
  let value := if scale ≥ 0 then Decimal.Binary.ofRatio (mantissa * Nat.pow 10 scale.toNat) 1
    else Decimal.Binary.ofRatio mantissa (Nat.pow 10 (-scale).toNat)
  if value.exponent > maxBinaryExponent then none
  pure (.finite negative value)

/-- The float an integer converts to. -/
def FloatValue.ofInt (value : Int) : FloatValue :=
  .finite (value < 0) (Decimal.Binary.ofNat value.natAbs)

/-- The integer a float gives a 64-bit integer setting: none for a float above `2 ^ 63` or not
a number; else the float cut towards zero, where a value out of range gives the least
integer. -/
def FloatValue.truncate? : FloatValue → Option Int
  | .nan => none
  | .infinite negative => if negative then some (-(signedLimit : Int)) else none
  | .finite negative magnitude =>
    if !negative && magnitude.numerator > signedLimit * magnitude.denominator then none
    else
      let whole := magnitude.toNat
      if negative then (if whole ≤ signedLimit then some (-(whole : Int)) else some (-(signedLimit : Int)))
      else if whole < signedLimit then some whole else some (-(signedLimit : Int))

/-- Is the text a float as YAML writes it: optional sign, digits with an optional point or a
point and digits, an optional exponent? -/
def yamlStyleFloat (chars : List Char) : Bool := (decimalParts chars).isSome

/-- The fixed words and what they stand for. -/
def fixedWords : List (String × String × Scalar) :=
  (["true", "True", "TRUE"].map fun w => (w, "!!bool", .boolean true)) ++
  (["false", "False", "FALSE"].map fun w => (w, "!!bool", .boolean false)) ++
  (["", "~", "null", "Null", "NULL"].map fun w => (w, "!!null", .null)) ++
  ([".nan", ".NaN", ".NAN"].map fun w => (w, "!!float", .float .nan)) ++
  ([".inf", ".Inf", ".INF", "+.inf", "+.Inf", "+.INF"].map fun w => (w, "!!float", .float (.infinite false))) ++
  (["-.inf", "-.Inf", "-.INF"].map fun w => (w, "!!float", .float (.infinite true)))

/-- What the first character of a text allows it to be: `S` a sign, `D` a digit, `M` a fixed
word, `.` a point, `N` the empty text; none for anything else. -/
def hint (text : String) : Option Char :=
  match text.toList.head? with
  | none => some 'N'
  | some c =>
    if c == '+' || c == '-' then some 'S'
    else if c.isDigit then some 'D'
    else if "yYnNtTfFoO~".contains c then some 'M'
    else if c == '.' then some '.'
    else none

/-- An integer read after a prefix of a base that the general reading refused. -/
def prefixedInteger (plain : List Char) : Option Scalar :=
  let signedIn (base : Nat) (digits : List Char) : Option Scalar :=
    match readSigned base digits with
    | some value => some (.integer value)
    | none => (readUnsigned base digits).map .unsigned
  let binary := match plain with
    | '0' :: 'b' :: rest => signedIn 2 rest
    | '-' :: '0' :: 'b' :: rest => (readSigned 2 ('-' :: rest)).map .integer
    | _ => none
  match binary with
  | some value => some value
  | none =>
    match plain with
    | '0' :: 'o' :: rest => signedIn 8 rest
    | '-' :: '0' :: 'o' :: rest => (readSigned 8 ('-' :: rest)).map .integer
    | _ => none

/-- A text that starts with a digit or a sign: a timestamp (if the tag allows one), an integer
or a float. -/
def resolveNumber (tag text : String) : Option (String × Scalar) :=
  if (tag.isEmpty || tag == "!!timestamp") && Timestamp.isTimestamp text then some ("!!timestamp", .timestamp)
  else
    let plain := text.toList.filter (· != '_')
    match readSigned 0 plain with
    | some value => some ("!!int", .integer value)
    | none =>
      match readUnsigned 0 plain with
      | some value => some ("!!int", .unsigned value)
      | none =>
        let float := if yamlStyleFloat plain then readFloat plain else none
        match float with
        | some value => some ("!!float", .float value)
        | none => (prefixedInteger plain).map fun value => ("!!int", value)

/-- The tag and value a text resolves to, for a tag in short form that is empty or a core
tag. -/
def resolveText (tag text : String) : String × Scalar :=
  match hint text with
  | none => ("!!str", .text text)
  | some kind =>
    if tag == "!!str" || tag == "!!binary" then ("!!str", .text text)
    else
      match fixedWords.find? (·.1 == text) with
      | some (_, found) => found
      | none =>
        let resolved :=
          if kind == '.' then (readFloat text.toList).map fun value => ("!!float", .float value)
          else if kind == 'D' || kind == 'S' then resolveNumber tag text
          else none
        resolved.getD ("!!str", .text text)

/-- Tags whose values are resolved from the text. -/
def resolvableTag (tag : String) : Bool :=
  ["", "!!str", "!!bool", "!!int", "!!float", "!!null", "!!timestamp"].contains tag

/-- Resolves a scalar's text under its tag: the tag it stands for and its value, or the
problem when the text cannot be what a core tag says. -/
def resolve (tag text : String) : Except String (String × Scalar) :=
  let tag := shortTag tag
  if !resolvableTag tag then .ok (tag, .text text)
  else
    let (resolved, value) := resolveText tag text
    if tag.isEmpty || tag == resolved || tag == "!!str" then .ok (resolved, value)
    else
      match tag, resolved, value with
      | "!!float", "!!int", .integer number => .ok ("!!float", .float (FloatValue.ofInt number))
      | _, _, _ => .error s!"cannot decode {resolved} \x60{text}\x60 as a {tag}"

end Testbench.Yaml
