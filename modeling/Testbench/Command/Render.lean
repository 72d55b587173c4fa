import Testbench.Testing.Runner
import Testbench.Coverage.Summary
/-!
What the commands print.

Parts of the output (titles, test states, outcomes, gas) pass through a styling step that adds
nothing on a plain output but still shapes the text: a tab becomes four spaces, a carriage
return before a line break is dropped, and the lines of a text of several lines are padded
with spaces to the width of the widest one.

A run prints `Running tests of <package>`, then `[ PASS ]` or `[ FAIL ]`, the test and its gas
for every test; after the failures, each with its outcome and its logged messages; and then
the totals. A listing of tests prints one test per line.
-/

namespace Testbench.Render

/-- How many columns a character takes on a terminal: none for combining marks and controls,
two for wide East Asian characters and emoji, one otherwise. -/
def charWidth (char : Char) : Nat :=
  let code := char.toNat
  if code < 0x20 || (0x7f ≤ code && code < 0xa0) then 0
  else if (0x300 ≤ code && code ≤ 0x36f) || (0x200b ≤ code && code ≤ 0x200f) then 0
  else if (0x1100 ≤ code && code ≤ 0x115f) || (0x2e80 ≤ code && code ≤ 0x303e) ||
      (0x3041 ≤ code && code ≤ 0x33ff) || (0x3400 ≤ code && code ≤ 0x4dbf) ||
      (0x4e00 ≤ code && code ≤ 0x9fff) || (0xa000 ≤ code && code ≤ 0xa4cf) ||
      (0xac00 ≤ code && code ≤ 0xd7a3) || (0xf900 ≤ code && code ≤ 0xfaff) ||
      (0xfe30 ≤ code && code ≤ 0xfe4f) || (0xff00 ≤ code && code ≤ 0xff60) ||
      (0xffe0 ≤ code && code ≤ 0xffe6) || (0x1f300 ≤ code && code ≤ 0x1f64f) ||
      (0x1f900 ≤ code && code ≤ 0x1f9ff) || (0x20000 ≤ code && code ≤ 0x3fffd) then 2
  else 1

/-- How many columns a text takes. -/
def width (text : String) : Nat := text.toList.foldl (fun total char => total + charWidth char) 0

/-- Replaces every occurrence of a text by another. -/
def replaceAll (text pattern replacement : String) : String :=
  replacement.intercalate (text.splitOn pattern)

/-- A text as the styling step leaves it. -/
def styled (text : String) : String :=
  let text := replaceAll (replaceAll text "\t" "    ") "\r\n" "\n"
  let lines := text.splitOn "\n"
  if lines.length ≤ 1 then text
  else
    let widest := lines.foldl (fun most line => max most (width line)) 0
    "\n".intercalate (lines.map fun line =>
      line ++ String.ofList (List.replicate (widest - width line) ' '))

/-- The lines of a listing of tests. -/
def testList (tests : List TestCase) : String :=
  String.join (tests.map (·.text ++ "\n"))

/-- The lines of a run's results. -/
def results (report : Report) : String :=
  if report.noTests then "No tests found in " ++ report.package ++ "\n"
  else
    let heading := styled ("Running tests of " ++ report.package) ++ "\n"
    let states := String.join (report.results.map fun result =>
      "[ " ++ styled (if result.passed then "PASS" else "FAIL") ++ " ] " ++ result.test.text ++ " " ++
        styled s!"(gas {result.gasUsed})" ++ "\n")
    let failed := report.failed
    let failures := if failed.isEmpty then ""
      else "\n" ++ styled "Test failures:" ++ "\n" ++ String.join (failed.map fun result =>
        result.test.text ++ ": " ++ styled result.outcome.text ++ "\n" ++
          String.join (result.logs.map fun message => "    log: " ++ Utf8.decodeLossy message ++ "\n"))
    let verdict := styled (if failed.isEmpty then "OK" else "FAILED")
    heading ++ states ++ failures ++ "\n" ++
      s!"Test result: {verdict}. Total tests: {report.results.length}; passed: {report.results.length - failed.length}; failed: {failed.length}\n"

/-- The lines of a coverage listing; only the modules whose ids contain the filter, and the
total only without a filter. -/
def coverage (summary : Summary) (filter : String) : String :=
  String.join ((summary.listing filter).map (· ++ "\n"))

end Testbench.Render
