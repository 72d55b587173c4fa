import Testbench.Text.Numeral
import Testbench.Text.Quoted
/-!
Command-line flags.

A command declares flags, each under one or more names (`path` and `p`): text with a default,
a list of texts that grows with every use, a signed integer of a width, or a switch. On the
command line a flag is `-name` or `--name`, with its value after `=` or in the next argument;
a switch takes a value only after `=`. Reading stops at the first argument that is no flag,
or after `--`; what is left are the command's arguments.

Before reading, the arguments of a command are reordered: every argument that names a declared
flag moves to the front, with the argument after it when that one names no flag and the flag
has no `=`; everything after `--` stays at the end, behind `--` itself.

A flag used under two of its names is refused. A flag used under one name counts as set under
all of them.
-/

namespace Testbench.Flags

/-- What kind of value a flag takes. -/
inductive Kind where
  /-- A text, with its default. -/
  | text (default : String)
  /-- Texts, one per use. -/
  | texts
  /-- A signed integer of a width in bits. -/
  | integer (bits : Nat)
  | switch
  deriving DecidableEq, Repr

/-- A flag a command declares. -/
structure Spec where
  /-- Its names, the long one first. -/
  names : List String
  kind : Kind
  /-- What it does, for help. -/
  usage : String := ""
  deriving Repr

/-- The value of a flag. -/
inductive Value where
  | text (value : String)
  /-- Texts in the order given. -/
  | texts (values : List String)
  | integer (value : Int)
  /-- A switch's state. -/
  | switch (on : Bool)
  deriving DecidableEq, Repr

/-- Why a command line cannot be read. -/
inductive UsageError where
  /-- An argument of dashes and `=` that names nothing. -/
  | badSyntax (argument : String)
  /-- A flag the command does not declare. -/
  | notDefined (name : String)
  /-- A flag that takes a value came last. -/
  | needsArgument (name : String)
  /-- A switch with a value that is no boolean. -/
  | invalidSwitch (value name : String)
  /-- An integer flag with a value that is no integer. -/
  | invalidValue (value name : String) (problem : Numeral.Problem)
  /-- One flag under two of its names. -/
  | twoForms (later earlier : String)
  deriving DecidableEq, Repr

/-- The text of a failure. -/
def UsageError.message : UsageError → String
  | .badSyntax argument => "bad flag syntax: " ++ argument
  | .notDefined name => "flag provided but not defined: -" ++ name
  | .needsArgument name => "flag needs an argument: -" ++ name
  | .invalidSwitch value name => "invalid boolean value " ++ Quoted.quote value ++ " for -" ++ name ++ ": parse error"
  | .invalidValue value name problem =>
    "invalid value " ++ Quoted.quote value ++ " for flag -" ++ name ++ ": " ++ problem.message
  | .twoForms later earlier => "Cannot use two forms of the same flag: " ++ later ++ " " ++ earlier

/-- Flags read from a command line: the value under each name used, and the arguments left. -/
structure Reading where
  /-- The names used and their values, in first use. -/
  values : List (String × Value) := []
  /-- The arguments after the flags. -/
  arguments : List String := []
  deriving Repr

/-- The declared flag of a name. -/
def find? (specs : List Spec) (name : String) : Option Spec := specs.find? (·.names.contains name)

/-- Drops the first `count` dashes of a text. -/
def dropDashes : Nat → List Char → List Char
  | 0, chars => chars
  | _, [] => []
  | count + 1, char :: rest =>
    if char == '-' then dropDashes count rest else char :: dropDashes (count + 1) rest

/-- Does an argument name a declared flag, as `-name`, `--name` or either with `=value`? -/
def namesFlag (specs : List Spec) (argument : String) : Bool :=
  if argument == "-" || argument == "--" || !argument.startsWith "-" then false
  else
    let chars := argument.toList
    let chars := if argument.startsWith "--" then dropDashes 2 chars else chars
    let chars := if chars.head? == some '-' then dropDashes 1 chars else chars
    let name := String.ofList (chars.takeWhile (· != '='))
    specs.any (·.names.contains name)

/-- Moves flags and their values in front of the other arguments. -/
def reorderFrom (specs : List Spec) (expectValue : Bool) (flags rest : List String) :
    List String → List String
  | [] => flags ++ rest
  | argument :: later =>
    if expectValue && !namesFlag specs argument then reorderFrom specs false (flags ++ [argument]) rest later
    else if argument == "--" then flags ++ ("--" :: rest ++ later)
    else if namesFlag specs argument then
      reorderFrom specs (!argument.contains '=') (flags ++ [argument]) rest later
    else reorderFrom specs false flags (rest ++ [argument]) later

/-- The arguments with flags and their values first. -/
def reorder (specs : List Spec) (arguments : List String) : List String :=
  reorderFrom specs false [] [] arguments

/-- The reading with a flag set under a name. -/
def Reading.put (reading : Reading) (name : String) (value : Value) : Reading :=
  if reading.values.any (·.1 == name) then
    { reading with values := reading.values.map fun entry => if entry.1 == name then (name, value) else entry }
  else { reading with values := reading.values ++ [(name, value)] }

/-- The value under a name, if it was used. -/
def Reading.used? (reading : Reading) (name : String) : Option Value :=
  (reading.values.find? (·.1 == name)).map (·.2)

/-- Sets a flag that takes a value from its text. -/
def assign (reading : Reading) (spec : Spec) (name value : String) : Except UsageError Reading :=
  match spec.kind with
  | .text _ => .ok (reading.put name (.text value))
  | .texts =>
    let before := match reading.used? name with
      | some (.texts values) => values
      | _ => []
    .ok (reading.put name (.texts (before ++ [value])))
  | .integer bits =>
    match Numeral.parseSigned bits value with
    | .ok number => .ok (reading.put name (.integer number))
    | .error problem => .error (.invalidValue value name problem)
  | .switch =>
    match Numeral.parseBoolean value with
    | some on => .ok (reading.put name (.switch on))
    | none => .error (.invalidSwitch value name)

/-- Reads flags from the front of the arguments until one is no flag. -/
def readFlags (specs : List Spec) (reading : Reading) : List String → Except UsageError Reading
  | [] => .ok reading
  | argument :: later =>
    let chars := argument.toList
    if chars.length < 2 || chars.head? != some '-' then .ok { reading with arguments := argument :: later }
    else if argument == "--" then .ok { reading with arguments := later }
    else
      let body := if chars[1]? == some '-' then chars.drop 2 else chars.drop 1
      if body.isEmpty || body.head? == some '-' || body.head? == some '=' then .error (.badSyntax argument)
      else
        let name := String.ofList (body.takeWhile (· != '='))
        let inline := if body.contains '=' then some (String.ofList ((body.dropWhile (· != '=')).drop 1)) else none
        match find? specs name with
        | none => .error (.notDefined name)
        | some spec =>
          match spec.kind, inline with
          | .switch, none => readFlags specs (reading.put name (.switch true)) later
          | _, some value => do readFlags specs (← assign reading spec name value) later
          | _, none =>
            match later with
            | value :: afterValue => do readFlags specs (← assign reading spec name value) afterValue
            | [] => .error (.needsArgument name)
termination_by arguments => arguments.length

/-- Refuses a flag used under two of its names. -/
def checkForms (specs : List Spec) (reading : Reading) : Except UsageError Unit :=
  specs.forM fun spec =>
    match spec.names.filter (reading.used? · |>.isSome) with
    | earlier :: later :: _ => .error (.twoForms later earlier)
    | _ => .ok ()

/-- Reads a command line, flags first. -/
def parse (specs : List Spec) (arguments : List String) : Except UsageError Reading := do
  let reading ← readFlags specs {} arguments
  checkForms specs reading
  pure reading

/-- The value of a flag, under whichever of its names it was used. -/
def Reading.value? (reading : Reading) (specs : List Spec) (name : String) : Option Value := do
  let spec ← find? specs name
  spec.names.findSome? reading.used?

/-- Was the flag used? -/
def Reading.isSet (reading : Reading) (specs : List Spec) (name : String) : Bool :=
  (reading.value? specs name).isSome

/-- The text of a text flag, or its default. -/
def Reading.text (reading : Reading) (specs : List Spec) (name : String) : String :=
  match reading.value? specs name, (find? specs name).map Spec.kind with
  | some (Value.text value), _ => value
  | _, some (Kind.text fallback) => fallback
  | _, _ => ""

/-- The texts of a list flag. -/
def Reading.texts (reading : Reading) (specs : List Spec) (name : String) : List String :=
  match reading.value? specs name with
  | some (.texts values) => values
  | _ => []

/-- The integer of an integer flag, zero if not used. -/
def Reading.integer (reading : Reading) (specs : List Spec) (name : String) : Int :=
  match reading.value? specs name with
  | some (.integer value) => value
  | _ => 0

/-- Is a switch on? -/
def Reading.switch (reading : Reading) (specs : List Spec) (name : String) : Bool :=
  match reading.value? specs name with
  | some (.switch on) => on
  | _ => false

end Testbench.Flags
