import Mathlib
import Testbench.Proofs.Coverage.Table

/-!
Coverage maps read as finite maps: with rising ids and names each module and function is held once,
and marking runs, adding modules and merging are described by what they do to one function's
record.
-/

namespace Testbench

namespace FunctionCoverage

/-- Marks an offset as run if an instruction starts there. -/
def markAt (function : FunctionCoverage) (offset : Nat) : FunctionCoverage :=
  if function.instructions.isSet offset then { function with covered := function.covered.set offset }
  else function

/-- Marks offsets as run, in turn. -/
def markAll (function : FunctionCoverage) (offsets : List Nat) : FunctionCoverage :=
  offsets.foldl markAt function

@[simp] theorem markAll_nil (function : FunctionCoverage) : function.markAll [] = function := rfl

@[simp] theorem markAll_cons (function : FunctionCoverage) (offset : Nat) (offsets : List Nat) :
    function.markAll (offset :: offsets) = (function.markAt offset).markAll offsets := rfl

theorem markAll_append (function : FunctionCoverage) (first second : List Nat) :
    function.markAll (first ++ second) = (function.markAll first).markAll second :=
  List.foldl_append

theorem markAt_shape (function : FunctionCoverage) (offset : Nat) :
    (function.markAt offset).size = function.size ∧
      (function.markAt offset).instructions = function.instructions ∧
      (function.markAt offset).covered.words.length = function.covered.words.length := by
  unfold markAt
  split <;> simp

theorem markAll_shape (function : FunctionCoverage) (offsets : List Nat) :
    (function.markAll offsets).size = function.size ∧
      (function.markAll offsets).instructions = function.instructions ∧
      (function.markAll offsets).covered.words.length = function.covered.words.length := by
  induction offsets generalizing function with
  | nil => simp
  | cons offset rest ih =>
    obtain ⟨size, instructions, length⟩ := markAt_shape function offset
    obtain ⟨size', instructions', length'⟩ := ih (function.markAt offset)
    rw [markAll_cons]
    exact ⟨size'.trans size, instructions'.trans instructions, length'.trans length⟩

theorem covered_bit_markAt (function : FunctionCoverage) (offset index : Nat) :
    (function.markAt offset).covered.bit index =
      (function.covered.bit index || (decide (index = offset) && function.instructions.bit index &&
        decide (index / 64 < function.covered.words.length))) := by
  unfold markAt
  rw [BitField.isSet_eq_bit]
  split
  · rename_i instruction
    rw [BitField.bit_set]
    by_cases same : index = offset
    · subst same
      simp [instruction]
    · simp [same]
  · rename_i notInstruction
    by_cases same : index = offset
    · subst same
      simp [notInstruction]
    · simp [same]

theorem covered_bit_markAll (function : FunctionCoverage) (offsets : List Nat) (index : Nat) :
    (function.markAll offsets).covered.bit index =
      (function.covered.bit index || (decide (index ∈ offsets) && function.instructions.bit index &&
        decide (index / 64 < function.covered.words.length))) := by
  induction offsets generalizing function with
  | nil => simp
  | cons offset rest ih =>
    obtain ⟨-, instructions, length⟩ := markAt_shape function offset
    rw [markAll_cons, ih, covered_bit_markAt, instructions, length]
    by_cases same : index = offset
    · cases function.covered.bit index <;> cases function.instructions.bit index <;> simp [same]
    · simp [same]

/-- The record a function of a linked module gets when the module is added: its code size, its
instructions, none run. -/
def fresh (function : LinkedFunction) : FunctionCoverage :=
  ofOffsets function.function.code.length function.offsets

/-- What adding a module makes of a function's record: the record held if it has the size and
instructions of the fresh one, the fresh one otherwise. -/
def refresh (held : Option FunctionCoverage) (fresh : FunctionCoverage) : FunctionCoverage :=
  match held with
  | some old => if old.size == fresh.size && old.instructions == fresh.instructions then old else fresh
  | none => fresh

end FunctionCoverage

/-- What merging makes of the records one function has in two maps: both merged, or whichever
there is. -/
def mergeRecords : Option FunctionCoverage → Option FunctionCoverage → Option FunctionCoverage
  | some mine, some theirs => some (mine.merge theirs)
  | some mine, none => some mine
  | none, theirs => theirs

@[simp] theorem mergeRecords_none_right (mine : Option FunctionCoverage) : mergeRecords mine none = mine := by
  cases mine <;> rfl

@[simp] theorem mergeRecords_none_left (theirs : Option FunctionCoverage) :
    mergeRecords none theirs = theirs := rfl

/-- Does an event belong to a function? -/
def Event.isOf (event : Event) (id : ModuleId) (name : Name) : Bool :=
  event.module == id && event.function == name

/-- The offsets the events of a function ran, in order. -/
def runOffsets (events : List Event) (id : ModuleId) (name : Name) : List Nat :=
  (events.filter (·.isOf id name)).map (·.offset)

namespace CoverageMap

/-- A map as the program holds one: module ids strictly rising, and in every module function
names strictly rising, so that no module and no function is held twice. -/
structure Sorted (map : CoverageMap) : Prop where
  modules : SortedKeys ModuleId.compare map.modules
  functions : ∀ entry ∈ map.modules, SortedKeys Name.compare entry.2

theorem sorted_empty : ({} : CoverageMap).Sorted :=
  ⟨List.Pairwise.nil, fun _ member => by cases member⟩

variable {map other : CoverageMap}

theorem function?_eq_findSorted? (map : CoverageMap) (id : ModuleId) (name : Name) :
    map.function? id name = findSorted? name ((map.functions? id).getD []) := by
  unfold function?
  cases map.functions? id <;> rfl

theorem functions?_setFunctions (map : CoverageMap) (id : ModuleId) (table : FunctionTable)
    (other : ModuleId) :
    (map.setFunctions id table).functions? other = if id = other then some table else map.functions? other :=
  findSorted?_insertSorted other id table map.modules

theorem function?_setFunctions (map : CoverageMap) (id : ModuleId) (table : FunctionTable)
    (other : ModuleId) (name : Name) :
    (map.setFunctions id table).function? other name =
      if id = other then findSorted? name table else map.function? other name := by
  unfold function?
  rw [functions?_setFunctions]
  split <;> rfl

theorem Sorted.table (sorted : map.Sorted) {id : ModuleId} {table : FunctionTable}
    (found : map.functions? id = some table) : SortedKeys Name.compare table :=
  sorted.functions _ (mem_of_findSorted? found)

theorem Sorted.start (sorted : map.Sorted) (id : ModuleId) :
    SortedKeys Name.compare ((map.functions? id).getD []) := by
  cases found : map.functions? id with
  | none => exact List.Pairwise.nil
  | some table => exact sorted.table found

theorem Sorted.setFunctions (sorted : map.Sorted) {table : FunctionTable}
    (tableSorted : SortedKeys Name.compare table) (id : ModuleId) : (map.setFunctions id table).Sorted := by
  refine ⟨sorted.modules.insertSorted, fun entry member => ?_⟩
  rcases mem_insertSorted member with rfl | old
  · exact tableSorted
  · exact sorted.functions entry old

theorem Sorted.ext (sorted : map.Sorted) (otherSorted : other.Sorted)
    (modulesSame : ∀ id, (map.functions? id).isSome = (other.functions? id).isSome)
    (functionsSame : ∀ id name, map.function? id name = other.function? id name) : map = other := by
  obtain ⟨modules⟩ := map
  obtain ⟨otherModules⟩ := other
  congr 1
  refine SortedKeys.ext sorted.modules otherSorted.modules fun id => ?_
  have present := modulesSame id
  cases found : findSorted? id modules with
  | none =>
    cases otherFound : findSorted? id otherModules with
    | none => rfl
    | some table => simp [functions?, found, otherFound] at present
  | some table =>
    cases otherFound : findSorted? id otherModules with
    | none => simp [functions?, found, otherFound] at present
    | some otherTable =>
      congr 1
      refine SortedKeys.ext (sorted.table found) (otherSorted.table otherFound) fun name => ?_
      have same := functionsSame id name
      simpa [function?, functions?, found, otherFound] using same

/-! ### Marking runs -/

/-- Marks one executed instruction as run, if the map knows its function and an instruction
starts at its offset. -/
def mark (map : CoverageMap) (event : Event) : CoverageMap :=
  match map.functions? event.module with
  | none => map
  | some table =>
    match findSorted? event.function table with
    | some function =>
      if function.instructions.isSet event.offset then
        map.setFunctions event.module (insertSorted Name.compare event.function
          { function with covered := function.covered.set event.offset } table)
      else map
    | none => map

theorem apply_eq (map : CoverageMap) (events : List Event) : map.apply events = events.foldl mark map :=
  rfl

theorem mark_cases (map : CoverageMap) (event : Event) :
    (map.function? event.module event.function = none ∧ map.mark event = map) ∨
      ∃ table function, map.functions? event.module = some table ∧
        findSorted? event.function table = some function ∧
        (function.markAt event.offset = function ∧ map.mark event = map ∨
          map.mark event = map.setFunctions event.module
            (insertSorted Name.compare event.function (function.markAt event.offset) table)) := by
  cases found : map.functions? event.module with
  | none => exact Or.inl ⟨by rw [function?_eq_findSorted?, found]; rfl, by simp only [mark, found]⟩
  | some table =>
    cases functionFound : findSorted? event.function table with
    | none =>
      exact Or.inl ⟨by rw [function?_eq_findSorted?, found, Option.getD_some, functionFound],
        by simp only [mark, found, functionFound]⟩
    | some function =>
      refine Or.inr ⟨table, function, rfl, functionFound, ?_⟩
      by_cases instruction : function.instructions.isSet event.offset = true
      · exact Or.inr (by simp [mark, found, functionFound, FunctionCoverage.markAt, instruction])
      · exact Or.inl ⟨by simp [FunctionCoverage.markAt, instruction],
          by simp [mark, found, functionFound, instruction]⟩

theorem function?_mark (map : CoverageMap) (event : Event) (id : ModuleId) (name : Name) :
    (map.mark event).function? id name =
      (map.function? id name).map fun function =>
        if event.isOf id name then function.markAt event.offset else function := by
  have unchanged : (∀ record, map.function? event.module event.function = some record →
      record.markAt event.offset = record) → map.mark event = map →
      (map.mark event).function? id name = (map.function? id name).map fun function =>
        if event.isOf id name then function.markAt event.offset else function := by
    intro keeps same
    rw [same]
    cases held : map.function? id name with
    | none => rfl
    | some record =>
      simp only [Option.map_some]
      split
      · rename_i isOf
        simp only [Event.isOf, Bool.and_eq_true, beq_iff_eq] at isOf
        obtain ⟨rfl, rfl⟩ := isOf
        rw [keeps record held]
      · rfl
  rcases mark_cases map event with ⟨unknown, same⟩ |
    ⟨table, function, found, functionFound, ⟨keeps, same⟩ | marked⟩
  · exact unchanged (fun record held => by rw [unknown] at held; cases held) same
  · have held : map.function? event.module event.function = some function := by
      rw [function?_eq_findSorted?, found, Option.getD_some, functionFound]
    exact unchanged (fun record recordHeld => by rw [held] at recordHeld; cases recordHeld; exact keeps)
      same
  · rw [marked, function?_setFunctions]
    by_cases sameModule : event.module = id
    · subst sameModule
      rw [if_pos rfl, findSorted?_insertSorted, function?_eq_findSorted?, found, Option.getD_some]
      by_cases sameName : event.function = name
      · subst sameName
        simp [functionFound, Event.isOf]
      · rw [if_neg sameName]
        cases findSorted? name table <;> simp [Event.isOf, sameName]
    · rw [if_neg sameModule]
      cases map.function? id name <;> simp [Event.isOf, sameModule]

theorem functions?_isSome_mark (map : CoverageMap) (event : Event) (id : ModuleId) :
    ((map.mark event).functions? id).isSome = (map.functions? id).isSome := by
  rcases mark_cases map event with ⟨-, same⟩ | ⟨table, function, found, -, ⟨-, same⟩ | marked⟩
  · rw [same]
  · rw [same]
  · rw [marked, functions?_setFunctions]
    split
    · rename_i sameModule
      subst sameModule
      simp [found]
    · rfl

theorem Sorted.mark (sorted : map.Sorted) (event : Event) : (map.mark event).Sorted := by
  rcases mark_cases map event with ⟨-, same⟩ | ⟨table, function, found, -, ⟨-, same⟩ | marked⟩
  · rw [same]
    exact sorted
  · rw [same]
    exact sorted
  · rw [marked]
    exact sorted.setFunctions (sorted.table found).insertSorted _

theorem function?_apply (map : CoverageMap) (events : List Event) (id : ModuleId) (name : Name) :
    (map.apply events).function? id name =
      (map.function? id name).map (·.markAll (runOffsets events id name)) := by
  rw [apply_eq]
  induction events generalizing map with
  | nil =>
    rw [List.foldl_nil]
    cases map.function? id name <;> rfl
  | cons event rest ih =>
    rw [List.foldl_cons, ih, function?_mark, Option.map_map]
    congr 1
    funext function
    by_cases belongs : event.isOf id name <;> simp [runOffsets, belongs]

theorem functions?_isSome_apply (map : CoverageMap) (events : List Event) (id : ModuleId) :
    ((map.apply events).functions? id).isSome = (map.functions? id).isSome := by
  rw [apply_eq]
  induction events generalizing map with
  | nil => rfl
  | cons event rest ih => rw [List.foldl_cons, ih, functions?_isSome_mark]

theorem Sorted.apply (sorted : map.Sorted) (events : List Event) : (map.apply events).Sorted := by
  rw [apply_eq]
  induction events generalizing map with
  | nil => exact sorted
  | cons event rest ih => exact ih (sorted.mark event)

/-! ### Adding linked modules -/

/-- Adds one function of a linked module to a table, keeping a record of the same shape. -/
def addFunction (table : FunctionTable) (function : LinkedFunction) : FunctionTable :=
  let fresh := FunctionCoverage.ofOffsets function.function.code.length function.offsets
  match findSorted? function.function.name table with
  | some old =>
    if old.size == fresh.size && old.instructions == fresh.instructions then table
    else insertSorted Name.compare function.function.name fresh table
  | none => insertSorted Name.compare function.function.name fresh table

theorem addModule_eq (map : CoverageMap) (module : LinkedModule) :
    map.addModule module =
      map.setFunctions module.id (module.functions.foldl addFunction ((map.functions? module.id).getD [])) :=
  rfl

theorem findSorted?_addFunction (table : FunctionTable) (function : LinkedFunction) (name : Name) :
    findSorted? name (addFunction table function) =
      if function.function.name = name then
        some (FunctionCoverage.refresh (findSorted? name table) (FunctionCoverage.fresh function))
      else findSorted? name table := by
  unfold addFunction
  dsimp only
  split
  · rename_i old found
    split
    · rename_i sameShape
      split
      · rename_i sameName
        subst sameName
        simp [found, FunctionCoverage.refresh, FunctionCoverage.fresh, sameShape]
      · rfl
    · rename_i otherShape
      rw [findSorted?_insertSorted]
      split
      · rename_i sameName
        subst sameName
        simp [found, FunctionCoverage.refresh, FunctionCoverage.fresh, otherShape]
      · rfl
  · rename_i missing
    rw [findSorted?_insertSorted]
    split
    · rename_i sameName
      subst sameName
      simp [missing, FunctionCoverage.refresh, FunctionCoverage.fresh]
    · rfl

theorem findSorted?_foldl_addFunction (name : Name) :
    ∀ {functions : List LinkedFunction}, (functions.map (·.function.name)).Nodup →
      ∀ table : FunctionTable, findSorted? name (functions.foldl addFunction table) =
        match functions.find? (·.function.name == name) with
        | some function =>
          some (FunctionCoverage.refresh (findSorted? name table) (FunctionCoverage.fresh function))
        | none => findSorted? name table
  | [], _, table => rfl
  | function :: rest, unique, table => by
    rw [List.map_cons, List.nodup_cons] at unique
    rw [List.foldl_cons, findSorted?_foldl_addFunction name unique.2, findSorted?_addFunction,
      List.find?_cons]
    by_cases sameName : function.function.name = name
    · have absent : rest.find? (·.function.name == name) = none := by
        rw [List.find?_eq_none]
        intro other member same
        rw [beq_iff_eq, ← sameName] at same
        exact unique.1 (same ▸ List.mem_map_of_mem member)
      simp [absent, sameName]
    · have differs : (function.function.name == name) = false := by simpa using sameName
      simp only [differs, if_neg sameName]

theorem functions?_addModule (map : CoverageMap) (module : LinkedModule) (id : ModuleId) :
    (map.addModule module).functions? id =
      if module.id = id then some (module.functions.foldl addFunction ((map.functions? id).getD []))
      else map.functions? id := by
  rw [addModule_eq, functions?_setFunctions]
  split
  · rename_i same
    subst same
    rfl
  · rfl

theorem function?_addModule (map : CoverageMap) {module : LinkedModule}
    (unique : (module.functions.map (·.function.name)).Nodup) (id : ModuleId) (name : Name) :
    (map.addModule module).function? id name =
      if module.id = id then
        match module.findFunction? name with
        | some function =>
          some (FunctionCoverage.refresh (map.function? id name) (FunctionCoverage.fresh function))
        | none => map.function? id name
      else map.function? id name := by
  rw [addModule_eq, function?_setFunctions]
  split
  · rename_i same
    subst same
    rw [findSorted?_foldl_addFunction name unique, ← function?_eq_findSorted?]
    rfl
  · rfl

theorem Sorted.addModule (sorted : map.Sorted) (module : LinkedModule) : (map.addModule module).Sorted := by
  rw [addModule_eq]
  refine sorted.setFunctions ?_ module.id
  refine List.foldlRecOn (motive := SortedKeys Name.compare) module.functions _ (sorted.start module.id) ?_
  intro table tableSorted function _
  unfold addFunction
  dsimp only
  split
  · split
    · exact tableSorted
    · exact tableSorted.insertSorted
  · exact tableSorted.insertSorted

theorem Sorted.addPackage (sorted : map.Sorted) (package : Package) : (map.addPackage package).Sorted := by
  unfold CoverageMap.addPackage
  refine List.foldlRecOn (motive := CoverageMap.Sorted) package.modules _ sorted ?_
  intro map mapSorted module _
  exact mapSorted.addModule module

/-! ### Merging -/

/-- Adds one record of another map to a table. -/
def mergeInto (table : FunctionTable) : Name × FunctionCoverage → FunctionTable
  | (name, function) =>
    match findSorted? name table with
    | some known => insertSorted Name.compare name (known.merge function) table
    | none => insertSorted Name.compare name function table

/-- Adds one module of another map. -/
def mergeModule (map : CoverageMap) : ModuleId × FunctionTable → CoverageMap
  | (id, functions) => map.setFunctions id (functions.foldl mergeInto ((map.functions? id).getD []))

theorem merge_eq (map other : CoverageMap) : map.merge other = other.modules.foldl mergeModule map := rfl

theorem findSorted?_mergeInto (table : FunctionTable) (name : Name) (function : FunctionCoverage)
    (key : Name) :
    findSorted? key (mergeInto table (name, function)) =
      if name = key then mergeRecords (findSorted? key table) (some function) else findSorted? key table := by
  simp only [mergeInto]
  split
  · rename_i known found
    rw [findSorted?_insertSorted]
    split
    · rename_i same
      subst same
      rw [found]
      rfl
    · rfl
  · rename_i missing
    rw [findSorted?_insertSorted]
    split
    · rename_i same
      subst same
      rw [missing]
      rfl
    · rfl

theorem findSorted?_foldl_mergeInto (key : Name) :
    ∀ {functions : FunctionTable}, SortedKeys Name.compare functions → ∀ table : FunctionTable,
      findSorted? key (functions.foldl mergeInto table) =
        mergeRecords (findSorted? key table) (findSorted? key functions)
  | [], _, table => by simp
  | (name, function) :: rest, sorted, table => by
    obtain ⟨below, restSorted⟩ := SortedKeys.cons_iff.mp sorted
    rw [List.foldl_cons, findSorted?_foldl_mergeInto key restSorted, findSorted?_mergeInto,
      findSorted?_cons]
    by_cases same : name = key
    · subst same
      rw [findSorted?_eq_none_of_below below]
      simp
    · simp [same]

theorem Sorted.mergeModule (sorted : map.Sorted) (entry : ModuleId × FunctionTable) :
    (map.mergeModule entry).Sorted := by
  obtain ⟨id, functions⟩ := entry
  refine sorted.setFunctions ?_ id
  refine List.foldlRecOn (motive := SortedKeys Name.compare) functions _ (sorted.start id) ?_
  rintro table tableSorted ⟨name, function⟩ _
  simp only [mergeInto]
  split
  · exact tableSorted.insertSorted
  · exact tableSorted.insertSorted

theorem Sorted.merge (sorted : map.Sorted) (other : CoverageMap) : (map.merge other).Sorted := by
  rw [merge_eq]
  refine List.foldlRecOn (motive := CoverageMap.Sorted) other.modules _ sorted ?_
  intro map mapSorted entry _
  exact mapSorted.mergeModule entry

theorem function?_mergeModule (map : CoverageMap) {id : ModuleId} {functions : FunctionTable}
    (sorted : SortedKeys Name.compare functions) (other : ModuleId) (name : Name) :
    (map.mergeModule (id, functions)).function? other name =
      if id = other then mergeRecords (map.function? other name) (findSorted? name functions)
      else map.function? other name := by
  unfold mergeModule
  rw [function?_setFunctions]
  split
  · rename_i same
    subst same
    rw [findSorted?_foldl_mergeInto name sorted, function?_eq_findSorted?]
  · rfl

theorem function?_merge (map : CoverageMap) (otherSorted : other.Sorted) (id : ModuleId) (name : Name) :
    (map.merge other).function? id name = mergeRecords (map.function? id name) (other.function? id name) := by
  obtain ⟨modules⟩ := other
  rw [merge_eq]
  obtain ⟨modulesSorted, tablesSorted⟩ := otherSorted
  simp only at modulesSorted tablesSorted ⊢
  induction modules generalizing map with
  | nil => simp [function?, functions?]
  | cons entry rest ih =>
    obtain ⟨other, functions⟩ := entry
    obtain ⟨below, restSorted⟩ := SortedKeys.cons_iff.mp modulesSorted
    rw [List.foldl_cons, ih _ restSorted fun entry member => tablesSorted entry (.tail _ member),
      function?_mergeModule map (tablesSorted _ List.mem_cons_self)]
    unfold function? functions?
    rw [findSorted?_cons]
    by_cases same : other = id
    · subst same
      rw [if_pos rfl, if_pos rfl, findSorted?_eq_none_of_below below]
      simp only [Option.bind_none, Option.bind_some, mergeRecords_none_right]
    · rw [if_neg same, if_neg same]

theorem functions?_isSome_merge (map other : CoverageMap) (id : ModuleId) :
    ((map.merge other).functions? id).isSome = ((map.functions? id).isSome || (other.functions? id).isSome) := by
  obtain ⟨modules⟩ := other
  rw [merge_eq]
  induction modules generalizing map with
  | nil => simp [functions?]
  | cons entry rest ih =>
    obtain ⟨other, functions⟩ := entry
    rw [List.foldl_cons, ih]
    unfold mergeModule
    rw [functions?_setFunctions]
    simp only [functions?, findSorted?_cons]
    by_cases same : other = id <;> simp [same]

end CoverageMap

end Testbench
