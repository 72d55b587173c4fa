import Testbench.Coverage.Map
import Testbench.Decimal.Shortest
import Testbench.Decimal.Fixed
/-!
Coverage summaries: instructions run against instructions in all, per function, per module
and for the whole map.

The percentage is the binary value nearest to `covered * 100 / total`, computed as one
multiplication and one division of binary values, each rounded to nearest; with no
instructions at all it is 100. It is shown with the fewest digits that read back as it, or
with two places in listings.
-/

namespace Testbench

/-- Instructions run and instructions in all. -/
structure Ratio where
  /-- Instructions run. -/
  covered : Nat := 0
  /-- Instructions in all. -/
  total : Nat := 0
  deriving DecidableEq, Repr, Inhabited

namespace Ratio

/-- Adds two ratios part by part. -/
def add (left right : Ratio) : Ratio := ⟨left.covered + right.covered, left.total + right.total⟩

/-- The percentage of instructions run, as a binary value. -/
def percent (ratio : Ratio) : Decimal.Binary :=
  if ratio.total = 0 then Decimal.Binary.ofNat 100
  else Decimal.Binary.ofRatio (Decimal.Binary.ofNat (ratio.covered * 100)).toNat ratio.total

/-- The percentage in its shortest text. -/
def percentText (ratio : Ratio) : String := ratio.percent.positional

/-- The listing form: `12.34% (c/t)`. -/
def listing (ratio : Ratio) : String :=
  s!"{ratio.percent.fixed 2}% ({ratio.covered}/{ratio.total})"

end Ratio

/-- The summary of one function. -/
structure FunctionSummary where
  name : Name
  ratio : Ratio

/-- The summary of one module. -/
structure ModuleSummary where
  /-- Its id. -/
  module : ModuleId
  /-- Its functions, by name. -/
  functions : List FunctionSummary
  /-- The sum over its functions. -/
  ratio : Ratio

/-- The summary of a map. -/
structure Summary where
  /-- Its modules, by id. -/
  modules : List ModuleSummary
  /-- The sum over all modules. -/
  ratio : Ratio

/-- The summary of one module's functions. -/
def ModuleSummary.ofTable (id : ModuleId) (table : FunctionTable) : ModuleSummary :=
  let functions := table.map fun (name, function) => ⟨name, ⟨function.ratio.1, function.ratio.2⟩⟩
  ⟨id, functions, functions.foldl (fun sum function => sum.add function.ratio) {}⟩

/-- The summary of a map. -/
def CoverageMap.summary (map : CoverageMap) : Summary :=
  let modules := map.modules.map fun (id, table) => ModuleSummary.ofTable id table
  ⟨modules, modules.foldl (fun sum module => sum.add module.ratio) {}⟩

/-- The summary of one module, if the summary has it. -/
def Summary.module? (summary : Summary) (id : ModuleId) : Option ModuleSummary :=
  summary.modules.find? (·.module == id)

/-- The lines of a coverage listing: each module whose id contains the filter with its
functions indented below it, and the total when nothing is filtered. -/
def Summary.listing (summary : Summary) (filter : String) : List String :=
  let modules := summary.modules.filter fun module =>
    filter.isEmpty || (Name.ofString (module.module.address.short ++ "::") ++ module.module.name).contains filter
  let lines := modules.flatMap fun module =>
    s!"{module.module.text} {module.ratio.listing}" ::
      module.functions.map fun function => s!"    {function.name.text} {function.ratio.listing}"
  "Coverage:" :: lines ++ (if filter.isEmpty then [s!"Total {summary.ratio.listing}"] else [])

end Testbench
