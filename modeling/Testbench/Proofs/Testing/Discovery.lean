import Mathlib
import Testbench.Proofs.Coverage.Table
import Testbench.Proofs.Module.Verified
import Testbench.Testing.Case

/-!
Test discovery is exact and ordered: the test functions whose name contains the filter, numbered
densely, ordered by module id and then by declaration.
-/

namespace Testbench

namespace Name

theorem bytesContain_eq_true_iff (part : List UInt8) :
    ∀ whole : List UInt8, bytesContain whole part = true ↔ part <:+: whole
  | [] => by simp [bytesContain, List.infix_nil]
  | byte :: rest => by
    rw [bytesContain, Bool.or_eq_true, List.isPrefixOf_iff_prefix, bytesContain_eq_true_iff part rest,
      List.infix_cons_iff]

theorem contains_eq_true_iff (name : Name) (part : String) :
    name.contains part = true ↔ part.toUTF8.toList <:+: name.bytes :=
  bytesContain_eq_true_iff _ _

theorem isEmpty_or_contains (name : Name) (part : String) :
    (part.isEmpty || name.contains part) = name.contains part := by
  by_cases empty : part.isEmpty = true
  · have contained : name.contains part = true := by
      rw [contains_eq_true_iff, String.isEmpty_iff.mp empty]
      simp
    rw [empty, contained]
    rfl
  · simp [empty]

end Name

/-! ### Numbering -/

theorem numberCases_index :
    ∀ (start : Nat) (tests : List TestCase),
      (numberCases start tests).map (·.index) = List.range' start tests.length
  | _, [] => rfl
  | start, test :: rest => by
    rw [numberCases, List.map_cons, numberCases_index (start + 1) rest, List.length_cons,
      List.range'_succ]

theorem length_numberCases :
    ∀ (start : Nat) (tests : List TestCase), (numberCases start tests).length = tests.length
  | _, [] => rfl
  | start, test :: rest => by rw [numberCases, List.length_cons, length_numberCases, List.length_cons]

theorem forall₂_numberCases {α : Type} {related : α → TestCase → Prop}
    (unindexed : ∀ item test index, related item test → related item { test with index := index }) :
    ∀ {items : List α} {tests : List TestCase} (start : Nat), List.Forall₂ related items tests →
      List.Forall₂ related items (numberCases start tests)
  | _, _, _, .nil => .nil
  | _, _, start, .cons first rest => .cons (unindexed _ _ start first) (forall₂_numberCases unindexed (start + 1) rest)

/-! ### Module order -/

namespace Package

variable {name : String} {resolution : Resolution} {candidates : List (Module ⊕ LinkedModule)}
  {package : Package}

theorem build_sorted (built : build name resolution candidates = .ok package) :
    package.modules.Pairwise fun first second => ModuleId.compare first.id second.id = .lt := by
  have idsOnce := build_ids_nodup built
  simp only [build, Except.bind_eq_ok] at built
  obtain ⟨modules, -, ⟨⟩, -, joined⟩ := built
  cases joined
  have sorted := @List.pairwise_mergeSort _ (fun a b : LinkedModule => ModuleId.compare a.id b.id != .gt)
    ?trans ?total modules
  · refine (sorted.and (List.pairwise_map.mp idsOnce)).imp ?_
    rintro first second ⟨notAfter, distinct⟩
    cases order : ModuleId.compare first.id second.id with
    | lt => rfl
    | eq => exact absurd (Std.LawfulEqCmp.eq_of_compare order) distinct
    | gt => simp [order] at notAfter
  case trans =>
    intro first second third firstSecond secondThird
    simp only [bne_iff_ne, ne_eq, ← Ordering.isLE_iff_ne_gt] at firstSecond secondThird ⊢
    exact Std.TransCmp.isLE_trans firstSecond secondThird
  case total =>
    intro first second
    cases order : ModuleId.compare first.id second.id with
    | gt => simp [Std.OrientedCmp.gt_iff_lt.mp order]
    | _ => simp

/-- Every function of a package with its module and its position in that module: modules in
package order, functions in declaration order. -/
def declarations (package : Package) : List (LinkedModule × LinkedFunction × Nat) :=
  package.modules.flatMap fun module => module.functions.zipIdx.map fun entry => (module, entry.1, entry.2)

theorem mem_declarations {module : LinkedModule} {function : LinkedFunction} {position : Nat} :
    (module, function, position) ∈ package.declarations ↔
      module ∈ package.modules ∧ module.functions[position]? = some function := by
  simp only [declarations, List.mem_flatMap, List.mem_map, Prod.mk.injEq]
  constructor
  · rintro ⟨listed, member, ⟨function', position'⟩, placed, rfl, rfl, rfl⟩
    exact ⟨member, List.mk_mem_zipIdx_iff_getElem?.mp placed⟩
  · rintro ⟨member, found⟩
    exact ⟨module, member, (function, position), List.mk_mem_zipIdx_iff_getElem?.mpr found, rfl, rfl, rfl⟩

end Package

theorem pairwise_zipIdx_position {α : Type} :
    ∀ (items : List α) (start : Nat), (items.zipIdx start).Pairwise fun first second => first.2 < second.2
  | [], _ => List.Pairwise.nil
  | _ :: rest, start => by
    refine List.pairwise_cons.mpr ⟨fun later member => ?_, pairwise_zipIdx_position rest (start + 1)⟩
    have after := List.le_snd_of_mem_zipIdx member
    omega

/-- Before in a package's declarations: a module of smaller id, or a later function of one module. -/
def DeclaredBefore (first second : LinkedModule × Nat) : Prop :=
  ModuleId.compare first.1.id second.1.id = .lt ∨ (first.1.id = second.1.id ∧ first.2 < second.2)

namespace Package

variable {name : String} {resolution : Resolution} {candidates : List (Module ⊕ LinkedModule)}
  {package : Package}

theorem declarations_sorted (built : build name resolution candidates = .ok package) :
    package.declarations.Pairwise fun first second =>
      DeclaredBefore (first.1, first.2.2) (second.1, second.2.2) := by
  unfold declarations
  refine List.pairwise_flatMap.mpr ⟨fun module _ => ?_, (build_sorted built).imp ?_⟩
  · refine List.pairwise_map.mpr ((pairwise_zipIdx_position module.functions 0).imp ?_)
    intro first second rising
    exact Or.inr ⟨rfl, rising⟩
  · intro first second ordered earlier placedFirst later placedSecond
    obtain ⟨_, _, rfl⟩ := List.mem_map.mp placedFirst
    obtain ⟨_, _, rfl⟩ := List.mem_map.mp placedSecond
    exact Or.inl ordered

end Package

theorem discover_eq_declarations (package : Package) (filter : String) :
    discover package filter = numberCases 0
      ((package.declarations.filter fun entry => entry.2.1.function.isTest &&
          (TestCase.ofFunction entry.1 entry.2.1).fullName.contains filter).map
        fun entry => TestCase.ofFunction entry.1 entry.2.1) := by
  simp only [discover, Package.declarations, Name.isEmpty_or_contains, List.filter_flatMap,
    List.map_flatMap, List.filter_map, List.map_map, List.filter_filter]
  congr 1
  refine List.flatMap_congr fun module _ => ?_
  conv_lhs => rw [← List.zipIdx_map_fst 0 module.functions, List.filter_map, List.map_map]
  simp only [Function.comp_def, Bool.and_comm]

section Exact

variable {name : String} {resolution : Resolution} {candidates : List (Module ⊕ LinkedModule)}
  {package : Package}

/-- Test discovery is exact and ordered. For a package that builds and any filter, there is a list
of places, each a module of the package with a position in its functions, holding exactly the
functions flagged as tests whose full name `0x…::module::function` contains the filter's bytes,
ordered by module id and then by position. Discovery gives one test per place, in that order,
numbered by its position in the list, with its function's signer addresses as arguments, a
failure expected when the function expects one or an abort code, and the function's abort code
exactly when it expects one. -/
theorem discover_exact_ordered (built : Package.build name resolution candidates = .ok package)
    (filter : String) :
    ∃ places : List (LinkedModule × Nat),
      (∀ module position, (module, position) ∈ places ↔ module ∈ package.modules ∧
        ∃ function, module.functions[position]? = some function ∧
          function.function.attributes.has Attributes.test = true ∧
          filter.toUTF8.toList <:+: (Name.ofString (module.id.address.short ++ "::") ++ module.id.name ++
            Name.ofString "::" ++ function.function.name).bytes) ∧
      places.Pairwise DeclaredBefore ∧
      List.Forall₂ (fun (place : LinkedModule × Nat) (test : TestCase) =>
        ∃ function, place.1.functions[place.2]? = some function ∧
          test.module = place.1.id ∧ test.function = function.function.name ∧
          test.args = function.signerAddresses ∧
          test.expect.failure = (function.function.attributes.has Attributes.expectedFailure ||
            function.function.attributes.has Attributes.abortCode) ∧
          test.expect.abortCode = if function.function.attributes.has Attributes.abortCode then
            some function.function.abortCode else none)
        places (discover package filter) ∧
      (discover package filter).map (·.index) = List.range (discover package filter).length := by
  let kept := package.declarations.filter fun entry => entry.2.1.function.isTest &&
    (TestCase.ofFunction entry.1 entry.2.1).fullName.contains filter
  refine ⟨kept.map fun entry => (entry.1, entry.2.2), fun module position => ?_, ?_, ?_, ?_⟩
  · simp only [kept, List.mem_map, List.mem_filter, Prod.mk.injEq, Bool.and_eq_true,
      Name.contains_eq_true_iff]
    constructor
    · rintro ⟨⟨module', function, position'⟩, ⟨declared, test, contained⟩, rfl, rfl⟩
      obtain ⟨member, found⟩ := Package.mem_declarations.mp declared
      exact ⟨member, function, found, test, contained⟩
    · rintro ⟨member, function, found, test, contained⟩
      exact ⟨(module, function, position), ⟨Package.mem_declarations.mpr ⟨member, found⟩, test, contained⟩,
        rfl, rfl⟩
  · exact List.pairwise_map.mpr ((Package.declarations_sorted built).filter _)
  · rw [discover_eq_declarations]
    refine forall₂_numberCases (fun place test index related => related) 0 ?_
    rw [List.forall₂_map_left_iff, List.forall₂_map_right_iff, List.forall₂_same]
    rintro ⟨module, function, position⟩ member
    have found := (Package.mem_declarations.mp (List.mem_filter.mp member).1).2
    exact ⟨function, found, rfl, rfl, rfl, rfl, rfl⟩
  · rw [discover_eq_declarations, numberCases_index, length_numberCases, List.range_eq_range']

end Exact

/-- A test of module `a` that expects abort code 3 and takes one signer. -/
def abortingTest : Function := ⟨"ta", 1, 0, 0, ⟨Attributes.test + Attributes.abortCode⟩, 3, ["s"], [0x40]⟩

/-- A test of module `b`, declared after a helper. -/
def plainTest : Function := ⟨"tb", 0, 0, 0, ⟨Attributes.test⟩, 0, [], [0x40]⟩

def helperFunction : Function := ⟨"h", 0, 0, 0, ⟨0⟩, 0, [], [0x40]⟩

/-- Module `a` at the zero address, holding the aborting test. -/
def earlierModule : LinkedModule :=
  ⟨⟨"s", ⟨[0x61]⟩, [], [], 0, [abortingTest]⟩, ⟨Address.zero, ⟨[0x61]⟩⟩, [], [],
    [⟨abortingTest, [Address.zero], [0]⟩]⟩

/-- Module `b` at the zero address, holding the helper and then the plain test. -/
def laterModule : LinkedModule :=
  ⟨⟨"s", ⟨[0x62]⟩, [], [], 0, [helperFunction, plainTest]⟩, ⟨Address.zero, ⟨[0x62]⟩⟩, [], [],
    [⟨helperFunction, [], [0]⟩, ⟨plainTest, [], [0]⟩]⟩

/-- Given `b` before `a`, the package lists `a` first, and discovery with the filter `t` follows. -/
theorem two_modules_discovered_in_order :
    Package.build "p" ⟨[]⟩ [.inr laterModule, .inr earlierModule] =
        .ok ⟨"p", ⟨[]⟩, [earlierModule, laterModule]⟩ ∧
      let package : Package := ⟨"p", ⟨[]⟩, [earlierModule, laterModule]⟩
      ∃ places : List (LinkedModule × Nat),
        (∀ module position, (module, position) ∈ places ↔ module ∈ package.modules ∧
          ∃ function, module.functions[position]? = some function ∧
            function.function.attributes.has Attributes.test = true ∧
            "t".toUTF8.toList <:+: (Name.ofString (module.id.address.short ++ "::") ++ module.id.name ++
              Name.ofString "::" ++ function.function.name).bytes) ∧
        places.Pairwise DeclaredBefore ∧
        List.Forall₂ (fun (place : LinkedModule × Nat) (test : TestCase) =>
          ∃ function, place.1.functions[place.2]? = some function ∧
            test.module = place.1.id ∧ test.function = function.function.name ∧
            test.args = function.signerAddresses ∧
            test.expect.failure = (function.function.attributes.has Attributes.expectedFailure ||
              function.function.attributes.has Attributes.abortCode) ∧
            test.expect.abortCode = if function.function.attributes.has Attributes.abortCode then
              some function.function.abortCode else none)
          places (discover package "t") ∧
        (discover package "t").map (·.index) = List.range (discover package "t").length := by
  have later : ModuleId.compare ⟨Address.zero, ⟨[0x62]⟩⟩ ⟨Address.zero, ⟨[0x61]⟩⟩ = .gt := by decide
  have built : Package.build "p" ⟨[]⟩ [.inr laterModule, .inr earlierModule] =
      .ok ⟨"p", ⟨[]⟩, [earlierModule, laterModule]⟩ := by
    simp [Package.build, Package.collect, Package.checkImports, earlierModule, laterModule, List.mergeSort,
      later]
    rfl
  exact ⟨built, discover_exact_ordered built "t"⟩

end Testbench
