/-!
Line differences in unified form.

Two texts are compared line by line. The longest run of lines common to both is matched first,
then the parts before it and after it in the same way; of runs of one length the one that
starts first on the left, then on the right, wins. When the right side has two hundred lines
or more, lines that make up more than one in a hundred of them (plus one) do not start a run,
though they may lengthen one. Matched runs next to each other are joined.

The changes are reported in hunks with `context` unchanged lines around each change; two
changes with at most twice that many unchanged lines between them share a hunk. A hunk starts
with `@@ -start,count +start,count @@`, where a count of one is left out and an empty range
starts at the line before it; its lines are marked ` ` (unchanged), `-` (left only) and `+`
(right only). The hunks follow the headers `--- left` and `+++ right`. Equal texts have no
hunks and no headers.
-/

namespace Testbench.Diff

/-- Lines `left ..< left + size` on the left equal lines `right ..< right + size` on the
right. -/
structure Run where
  /-- The first line on the left. -/
  left : Nat
  /-- The first line on the right. -/
  right : Nat
  /-- How many lines. -/
  size : Nat
  deriving DecidableEq, Repr

/-- How a stretch of the left side becomes a stretch of the right side. -/
inductive Tag where
  /-- Equal lines. -/
  | equal
  /-- Left lines replaced by right lines. -/
  | replace
  /-- Left lines removed. -/
  | delete
  /-- Right lines added. -/
  | insert
  deriving DecidableEq, Repr

/-- Lines `leftStart ..< leftEnd` on the left become `rightStart ..< rightEnd` on the right. -/
structure Change where
  /-- What happens. -/
  tag : Tag
  /-- The first left line. -/
  leftStart : Nat
  /-- After the last left line. -/
  leftEnd : Nat
  /-- The first right line. -/
  rightStart : Nat
  /-- After the last right line. -/
  rightEnd : Nat
  deriving DecidableEq, Repr

/-- The lines of a text, each with its line break; the last line gets one too, so a text that
ends with a break ends with an empty line. -/
def splitLines (text : String) : List String :=
  let rec go : List Char → List Char → List String
    | [], current => [String.ofList (current.reverse ++ ['\n'])]
    | char :: rest, current =>
      if char == '\n' then String.ofList (char :: current).reverse :: go rest []
      else go rest (char :: current)
  go text.toList []

/-- For every line of the right side, where it occurs, ascending; lines too common to start a
run are left out. -/
def positions (right : Array String) : List (String × List Nat) :=
  let all := (List.range right.size).foldl (fun (table : List (String × List Nat)) index =>
    let line := right.getD index ""
    match table.find? (·.1 == line) with
    | some _ => table.map fun entry => if entry.1 == line then (line, entry.2 ++ [index]) else entry
    | none => table ++ [(line, [index])]) []
  if right.size ≥ 200 then
    let most := right.size / 100 + 1
    all.filter fun entry => entry.2.length ≤ most
  else all

/-- The longest runs ending at each right line after reading one more left line. -/
def extendRuns (leftIndex : Nat) (rightLow rightHigh : Nat) (previous : List (Nat × Nat))
    (best : Run) : List Nat → List (Nat × Nat) × Run
  | [] => ([], best)
  | rightIndex :: rest =>
    if rightIndex < rightLow then extendRuns leftIndex rightLow rightHigh previous best rest
    else if rightIndex ≥ rightHigh then ([], best)
    else
      let before := if rightIndex == 0 then 0
        else ((previous.find? (·.1 == rightIndex - 1)).map (·.2)).getD 0
      let size := before + 1
      let best := if size > best.size then ⟨leftIndex + 1 - size, rightIndex + 1 - size, size⟩ else best
      let (later, best) := extendRuns leftIndex rightLow rightHigh previous best rest
      ((rightIndex, size) :: later, best)

/-- Grows a run backwards while the lines before it are equal. -/
def growBack (left right : Array String) (leftLow rightLow : Nat) : Nat → Run → Run
  | 0, run => run
  | fuel + 1, run =>
    if run.left > leftLow && run.right > rightLow &&
        left.getD (run.left - 1) "" == right.getD (run.right - 1) "" then
      growBack left right leftLow rightLow fuel ⟨run.left - 1, run.right - 1, run.size + 1⟩
    else run

/-- Grows a run forwards while the lines after it are equal. -/
def growForward (left right : Array String) (leftHigh rightHigh : Nat) : Nat → Run → Run
  | 0, run => run
  | fuel + 1, run =>
    if run.left + run.size < leftHigh && run.right + run.size < rightHigh &&
        left.getD (run.left + run.size) "" == right.getD (run.right + run.size) "" then
      growForward left right leftHigh rightHigh fuel { run with size := run.size + 1 }
    else run

/-- The longest run within `leftLow ..< leftHigh` and `rightLow ..< rightHigh`. -/
def longestRun (left right : Array String) (table : List (String × List Nat))
    (leftLow leftHigh rightLow rightHigh : Nat) : Run :=
  let (_, best) := (List.range (leftHigh - leftLow)).foldl (fun (state : List (Nat × Nat) × Run) step =>
    let leftIndex := leftLow + step
    let places := ((table.find? (·.1 == left.getD leftIndex "")).map (·.2)).getD []
    extendRuns leftIndex rightLow rightHigh state.1 state.2 places) ([], ⟨leftLow, rightLow, 0⟩)
  let best := growBack left right leftLow rightLow (leftHigh - leftLow) best
  growForward left right leftHigh rightHigh (leftHigh - leftLow) best

/-- The runs within the ranges, in order: those before the longest run, the run, and those
after it. -/
def runsWithin (left right : Array String) (table : List (String × List Nat)) :
    Nat → Nat → Nat → Nat → Nat → List Run
  | 0, _, _, _, _ => []
  | fuel + 1, leftLow, leftHigh, rightLow, rightHigh =>
    let run := longestRun left right table leftLow leftHigh rightLow rightHigh
    if run.size == 0 then []
    else
      let before := if leftLow < run.left && rightLow < run.right then
          runsWithin left right table fuel leftLow run.left rightLow run.right
        else []
      let after := if run.left + run.size < leftHigh && run.right + run.size < rightHigh then
          runsWithin left right table fuel (run.left + run.size) leftHigh (run.right + run.size) rightHigh
        else []
      before ++ run :: after

/-- Joins runs that continue each other. -/
def joinRuns : List Run → List Run
  | first :: second :: rest =>
    if first.left + first.size == second.left && first.right + first.size == second.right then
      joinRuns (⟨first.left, first.right, first.size + second.size⟩ :: rest)
    else first :: joinRuns (second :: rest)
  | short => short
termination_by runs => runs.length

/-- The matched runs of two sides, joined, ending with an empty run at both ends. -/
def matchingRuns (left right : Array String) : List Run :=
  let table := positions right
  let runs := runsWithin left right table (left.size + 1) 0 left.size 0 right.size
  joinRuns (runs.filter (·.size > 0)) ++ [⟨left.size, right.size, 0⟩]

/-- The changes that turn the left side into the right side. -/
def changes (left right : Array String) : List Change :=
  let step (state : Nat × Nat × List Change) (run : Run) : Nat × Nat × List Change :=
    let (i, j, done) := state
    let tag? : Option Tag :=
      if i < run.left && j < run.right then some .replace
      else if i < run.left then some .delete
      else if j < run.right then some .insert
      else none
    let done := match tag? with
      | some tag => done ++ [⟨tag, i, run.left, j, run.right⟩]
      | none => done
    let done := if run.size > 0 then
        done ++ [⟨.equal, run.left, run.left + run.size, run.right, run.right + run.size⟩]
      else done
    (run.left + run.size, run.right + run.size, done)
  ((matchingRuns left right).foldl step (0, 0, [])).2.2

/-- Splits changes into hunks with `context` equal lines around each change. -/
def hunks (context : Nat) (all : List Change) : List (List Change) :=
  let all := if all.isEmpty then [⟨.equal, 0, 1, 0, 1⟩] else all
  let trimFirst : List Change → List Change
    | first :: rest =>
      if first.tag == Tag.equal then
        ⟨.equal, max first.leftStart (first.leftEnd - context), first.leftEnd,
          max first.rightStart (first.rightEnd - context), first.rightEnd⟩ :: rest
      else first :: rest
    | [] => []
  let all := trimFirst all
  let all := match all.getLast? with
    | some last =>
      if last.tag == Tag.equal then
        all.dropLast ++ [(⟨.equal, last.leftStart, min last.leftEnd (last.leftStart + context),
          last.rightStart, min last.rightEnd (last.rightStart + context)⟩ : Change)]
      else all
    | none => all
  let step (state : List (List Change) × List Change) (change : Change) :
      List (List Change) × List Change :=
    let (groups, group) := state
    if change.tag == Tag.equal && change.leftEnd - change.leftStart > 2 * context then
      let closing := group ++ [(⟨.equal, change.leftStart, min change.leftEnd (change.leftStart + context),
        change.rightStart, min change.rightEnd (change.rightStart + context)⟩ : Change)]
      (groups ++ [closing], [(⟨.equal, max change.leftStart (change.leftEnd - context), change.leftEnd,
        max change.rightStart (change.rightEnd - context), change.rightEnd⟩ : Change)])
    else (groups, group ++ [change])
  let (groups, group) := all.foldl step ([], [])
  match group with
  | [] => groups
  | [only] => if only.tag == Tag.equal then groups else groups ++ [group]
  | _ => groups ++ [group]

/-- A range of lines as a hunk header writes it. -/
def rangeText (start stop : Nat) : String :=
  let length := stop - start
  if length == 1 then toString (start + 1)
  else if length == 0 then s!"{start},0"
  else s!"{start + 1},{length}"

/-- The lines of one hunk, header first. -/
def hunkText (left right : Array String) (hunk : List Change) : String :=
  match hunk.head?, hunk.getLast? with
  | some first, some last =>
    let header := "@@ -" ++ rangeText first.leftStart last.leftEnd ++ " +" ++
      rangeText first.rightStart last.rightEnd ++ " @@\n"
    let slice (lines : Array String) (start stop : Nat) : List String :=
      (List.range (stop - start)).map fun offset => lines.getD (start + offset) ""
    header ++ String.join (hunk.flatMap fun change =>
      match change.tag with
      | .equal => (slice left change.leftStart change.leftEnd).map (" " ++ ·)
      | .delete => (slice left change.leftStart change.leftEnd).map ("-" ++ ·)
      | .insert => (slice right change.rightStart change.rightEnd).map ("+" ++ ·)
      | .replace => (slice left change.leftStart change.leftEnd).map ("-" ++ ·) ++
          (slice right change.rightStart change.rightEnd).map ("+" ++ ·))
  | _, _ => ""

/-- The unified difference of two texts with `context` lines around changes; empty when they
are equal. Headers are left out when both names are empty. -/
def unified (leftName rightName : String) (context : Nat) (leftText rightText : String) : String :=
  let left := (splitLines leftText).toArray
  let right := (splitLines rightText).toArray
  match hunks context (changes left right) with
  | [] => ""
  | groups =>
    let headers := if leftName.isEmpty && rightName.isEmpty then ""
      else "--- " ++ leftName ++ "\n+++ " ++ rightName ++ "\n"
    headers ++ String.join (groups.map (hunkText left right))

end Testbench.Diff
