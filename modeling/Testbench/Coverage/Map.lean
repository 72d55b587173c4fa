import Testbench.Coverage.BitField
import Testbench.Machine.Basic
/-!
Coverage maps: which instructions of which functions have run.

For every function of every module the map keeps the code size, the offsets where
instructions start and the offsets of those that ran. Modules are kept in order of their ids
and functions in order of their names. Adding a module refreshes the functions whose code
changed; merging takes the union of two maps, widening a function to the larger size.
-/

namespace Testbench

/-- What is known of one function. -/
structure FunctionCoverage where
  /-- The size of its code in bytes. -/
  size : Nat
  /-- Where its instructions start. -/
  instructions : BitField
  /-- The instructions that ran. -/
  covered : BitField
  deriving DecidableEq, Repr, Inhabited

namespace FunctionCoverage

/-- A function of a given size with instructions at the offsets, none run. -/
def ofOffsets (size : Nat) (offsets : List Nat) : FunctionCoverage :=
  ⟨size, offsets.foldl BitField.set (BitField.empty size), BitField.empty size⟩

/-- Instructions run and instructions in all. -/
def ratio (function : FunctionCoverage) : Nat × Nat :=
  (function.covered.count, function.instructions.count)

/-- Widens the function to a larger size; a smaller one leaves it as it is. -/
def grow (function : FunctionCoverage) (size : Nat) : FunctionCoverage :=
  if size ≤ function.size then function
  else
    let words := BitField.wordCount size
    ⟨size, function.instructions.extend words, function.covered.extend words⟩

/-- Adds what another record of the same function knows. -/
def merge (function other : FunctionCoverage) : FunctionCoverage :=
  let grown := function.grow other.size
  { grown with
    instructions := grown.instructions.union other.instructions
    covered := grown.covered.union other.covered }

end FunctionCoverage

/-- Puts a value under a key into a list sorted by key, replacing the value of an equal key. -/
def insertSorted {κ α : Type} (order : κ → κ → Ordering) (key : κ) (value : α) :
    List (κ × α) → List (κ × α)
  | [] => [(key, value)]
  | (other, held) :: rest =>
    match order key other with
    | .lt => (key, value) :: (other, held) :: rest
    | .eq => (key, value) :: rest
    | .gt => (other, held) :: insertSorted order key value rest

/-- The value under a key. -/
def findSorted? {κ α : Type} [BEq κ] (key : κ) (entries : List (κ × α)) : Option α :=
  (entries.find? (·.1 == key)).map (·.2)

/-- The functions of one module, by name. -/
abbrev FunctionTable := List (Name × FunctionCoverage)

/-- A coverage map. -/
structure CoverageMap where
  /-- The modules in order of their ids, each with its functions in order of their names. -/
  modules : List (ModuleId × FunctionTable) := []
  deriving Inhabited

namespace CoverageMap

/-- The functions of a module. -/
def functions? (map : CoverageMap) (id : ModuleId) : Option FunctionTable := findSorted? id map.modules

/-- A function of a module. -/
def function? (map : CoverageMap) (id : ModuleId) (name : Name) : Option FunctionCoverage :=
  (map.functions? id).bind (findSorted? name)

/-- Replaces the functions of a module. -/
def setFunctions (map : CoverageMap) (id : ModuleId) (table : FunctionTable) : CoverageMap :=
  ⟨insertSorted ModuleId.compare id table map.modules⟩

/-- Adds the functions of a linked module. A function already known with the same size and
instructions keeps what ran; any other gets a fresh record. -/
def addModule (map : CoverageMap) (module : LinkedModule) : CoverageMap :=
  let start := (map.functions? module.id).getD []
  let table := module.functions.foldl (fun table function =>
    let fresh := FunctionCoverage.ofOffsets function.function.code.length function.offsets
    match findSorted? function.function.name table with
    | some old =>
      if old.size == fresh.size && old.instructions == fresh.instructions then table
      else insertSorted Name.compare function.function.name fresh table
    | none => insertSorted Name.compare function.function.name fresh table) start
  map.setFunctions module.id table

/-- Marks executed instructions as run; offsets where no instruction starts are ignored. -/
def apply (map : CoverageMap) (events : List Event) : CoverageMap :=
  events.foldl (fun map event =>
    match map.functions? event.module with
    | none => map
    | some table =>
      match findSorted? event.function table with
      | some function =>
        if function.instructions.isSet event.offset then
          map.setFunctions event.module (insertSorted Name.compare event.function
            { function with covered := function.covered.set event.offset } table)
        else map
      | none => map) map

/-- Adds everything another map knows. -/
def merge (map other : CoverageMap) : CoverageMap :=
  other.modules.foldl (fun map (id, functions) =>
    let start := (map.functions? id).getD []
    let table := functions.foldl (fun table (name, function) =>
      match findSorted? name table with
      | some known => insertSorted Name.compare name (known.merge function) table
      | none => insertSorted Name.compare name function table) start
    map.setFunctions id table) map

/-- Instructions run and in all of a function, if the map knows it. -/
def ratio? (map : CoverageMap) (id : ModuleId) (name : Name) : Option (Nat × Nat) :=
  (map.function? id name).map FunctionCoverage.ratio

/-- Instructions run and in all of a module, if the map knows it. -/
def moduleRatio? (map : CoverageMap) (id : ModuleId) : Option (Nat × Nat) :=
  (map.functions? id).map fun table =>
    table.foldl (fun (covered, total) (_, function) =>
      (covered + function.ratio.1, total + function.ratio.2)) (0, 0)

/-- The number of modules. -/
def size (map : CoverageMap) : Nat := map.modules.length

end CoverageMap

/-- The events a worker's machines report, in the order they ran. -/
structure Recorder where
  /-- The events since the last reset. -/
  events : Array Event := #[]

namespace Recorder

/-- Records one event. -/
def record (recorder : Recorder) (event : Event) : Recorder := ⟨recorder.events.push event⟩

/-- The number of events recorded. -/
def length (recorder : Recorder) : Nat := recorder.events.size

/-- Drops every event recorded. -/
def reset (recorder : Recorder) : Recorder := ⟨recorder.events.take 0⟩

end Recorder

end Testbench
