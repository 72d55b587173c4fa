import Testbench.Command.Flags
/-!
Help texts of commands.

A help text is laid out in columns: within a run of consecutive lines that all have a cell
ending in a tab at some position, that cell is padded with spaces to the widest of them plus
two. A flag is described as its names (`--name` for long ones, `-n` for one letter), each
followed by `value` when the flag takes one, then its usage and its default; an empty default
is left out, and a text default is quoted.
-/

namespace Testbench.Help

/-- How many columns a cell's text takes: its characters. -/
def cellWidth (cell : String) : Nat := cell.length

/-- The width of a column at a line: the widest cell of that column, plus two, over the run
of consecutive lines around it that all have a cell ending in a tab there. -/
def columnWidth (lines : Array (List String)) (index column : Nat) : Nat :=
  let hasColumn (line : Nat) : Bool := column + 1 < (lines.getD line []).length
  let above := ((List.range (index + 1)).takeWhile fun step => hasColumn (index - step)).map (index - ·)
  let below := ((List.range (lines.size - index)).takeWhile fun step => hasColumn (index + step)).map (index + ·)
  (above ++ below).foldl (fun most line => max most (cellWidth ((lines.getD line []).getD column "") + 2)) 1

/-- Lays out text in columns at its tabs. -/
def tabulate (text : String) : String :=
  let lines := ((text.splitOn "\n").map (·.splitOn "\t")).toArray
  let rendered := (List.range lines.size).map fun index =>
    let cells := lines.getD index []
    String.join ((List.range cells.length).map fun column =>
      let cell := cells.getD column ""
      if column + 1 < cells.length then
        cell ++ String.ofList (List.replicate (columnWidth lines index column - cellWidth cell) ' ')
      else cell)
  "\n".intercalate rendered

/-- A flag's names as help shows them. -/
def names (spec : Flags.Spec) (placeholder : String) : String :=
  ", ".intercalate (spec.names.map fun name =>
    (if name.length == 1 then "-" else "--") ++ name ++ (if placeholder.isEmpty then "" else " " ++ placeholder))

/-- A flag's line in a help text, names and usage separated by a tab. -/
def flagLine (spec : Flags.Spec) : String :=
  let (placeholder, shownDefault) := match spec.kind with
    | .text fallback => ("value", if fallback.isEmpty then "" else " (default: " ++ Quoted.quote fallback ++ ")")
    | .texts => ("value", "")
    | .integer _ => ("value", " (default: 0)")
    | .switch => ("", "")
  names spec placeholder ++ "\t" ++ (spec.usage ++ shownDefault).trimAscii.toString

/-- A command as help describes it. -/
structure Topic where
  /-- The full name, such as `neounit coverage summary`. -/
  fullName : String
  /-- The names it is called by. -/
  names : List String
  /-- One line on what it does. -/
  usage : String
  /-- How to call it, if spelled out. -/
  usageText : String := ""
  /-- More on what it does. -/
  description : String := ""
  /-- Its flags, as help lists them. -/
  flags : List Flags.Spec := []

/-- The help text of a command. -/
def commandText (topic : Topic) : String :=
  let usage := if topic.usageText.isEmpty then
      topic.fullName ++ (if topic.flags.isEmpty then "" else " [command options]") ++ " [arguments...]"
    else topic.usageText
  let description := if topic.description.isEmpty then "" else "\n\nDESCRIPTION:\n   " ++ topic.description
  let options := if topic.flags.isEmpty then ""
    else "\n\nOPTIONS:\n   " ++ String.join (topic.flags.map fun spec => flagLine spec ++ "\n   ")
  tabulate ("NAME:\n   " ++ topic.fullName ++ " - " ++ topic.usage ++ "\n\nUSAGE:\n   " ++ usage ++
    description ++ options ++ "\n")

/-- The lines listing commands. -/
def commandLines (commands : List Topic) : String :=
  String.join (commands.map fun topic => "\n   " ++ ", ".intercalate topic.names ++ "\t" ++ topic.usage)

/-- The help text of a group of commands. -/
def groupText (group : Topic) (commands : List Topic) (flags : List Flags.Spec) : String :=
  let options := if flags.isEmpty then ""
    else "\n\nOPTIONS:\n   " ++ String.join (flags.map fun spec => flagLine spec ++ "\n   ")
  tabulate ("NAME:\n   " ++ group.fullName ++ " - " ++ group.usage ++ "\n\nUSAGE:\n   " ++ group.fullName ++
    " command" ++ (if flags.isEmpty then "" else " [command options]") ++ " [arguments...]\n\nCOMMANDS:" ++
    commandLines commands ++ options ++ "\n")

/-- The help text of the program. -/
def programText (program : Topic) (commands : List Topic) (flags : List Flags.Spec) : String :=
  let options := if flags.isEmpty then ""
    else "\n\nGLOBAL OPTIONS:\n   " ++ "\n   ".intercalate (flags.map flagLine)
  tabulate ("NAME:\n   " ++ program.fullName ++ " - " ++ program.usage ++ "\n\nUSAGE:\n   " ++ program.fullName ++
    (if flags.isEmpty then "" else " [global options]") ++ " command [command options] [arguments...]\n\nCOMMANDS:" ++
    commandLines commands ++ options ++ "\n")

end Testbench.Help
