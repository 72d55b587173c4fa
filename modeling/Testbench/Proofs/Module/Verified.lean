import Mathlib.Data.List.Nodup
import Testbench.Module.Package
import Testbench.Proofs.Code.Offsets

/-!
What linking and building a package guarantee: verified offsets decode, jump and index within
range, and a built package holds each id once and finds every import.
-/

namespace Testbench

/-! A successful run of a validator in `Except`, taken apart. -/

@[simp] theorem Except.bind_eq_ok {ε α β : Type} {first : Except ε α} {next : α → Except ε β}
    {value : β} : first >>= next = .ok value ↔ ∃ middle, first = .ok middle ∧ next middle = .ok value := by
  cases first <;> simp [bind, Except.bind]

@[simp] theorem Except.mapError_eq_ok {ε ε' α : Type} {change : ε → ε'} {result : Except ε α}
    {value : α} : result.mapError change = .ok value ↔ result = .ok value := by
  cases result <;> simp [Except.mapError]

theorem Except.length_of_mapM_ok {ε α β : Type} {step : α → Except ε β} :
    ∀ {items : List α} {results : List β}, items.mapM step = .ok results →
      results.length = items.length
  | [], results, mapped => by
      simp only [List.mapM_nil] at mapped
      cases mapped
      rfl
  | item :: rest, results, mapped => by
      simp only [List.mapM_cons, Except.bind_eq_ok] at mapped
      obtain ⟨first, -, others, restMapped, joined⟩ := mapped
      cases joined
      simp [Except.length_of_mapM_ok restMapped]

theorem Except.forM_ok {ε α : Type} {check : α → Except ε Unit} :
    ∀ {items : List α}, items.forM check = .ok () → ∀ item ∈ items, check item = .ok ()
  | [], _, item, member => by cases member
  | first :: rest, checked, item, member => by
      simp only [List.forM_eq_forM, List.forM_cons, Except.bind_eq_ok] at checked
      obtain ⟨⟨⟩, firstOk, restOk⟩ := checked
      rcases List.mem_cons.mp member with rfl | later
      · exact firstOk
      · exact Except.forM_ok restOk item later

/-! Linking. -/

/-- What linking guarantees of a module: its tables keep the lengths of the written ones, and
each function keeps the offsets its verification gave. -/
structure LinkedModule.Verified (module : LinkedModule) : Prop where
  addresses_length : module.addresses.length = module.module.addressRefs.length
  imports_length : module.resolvedImports.length = module.module.imports.length
  functions_length : module.functions.length = module.module.functions.length
  verify_ok : ∀ function ∈ module.functions,
    module.module.verify function.function = .ok function.offsets

namespace Module

theorem linkFunctions_verified (module : Module) (resolution : Resolution) (id : ModuleId) :
    ∀ {seen : List Name} {functions : List Function} {linked : List LinkedFunction},
      module.linkFunctions resolution id seen functions = .ok linked →
      linked.length = functions.length ∧
        ∀ function ∈ linked, module.verify function.function = .ok function.offsets
  | _, [], linked, done => by
      rw [linkFunctions] at done
      cases done
      simp
  | seen, function :: rest, linked, done => by
      rw [linkFunctions] at done
      split at done
      · cases done
      split at done
      · cases done
      simp only [Except.bind_eq_ok] at done
      obtain ⟨signers, -, offsets, verified, others, restDone, joined⟩ := done
      cases joined
      obtain ⟨restLength, restVerified⟩ := linkFunctions_verified module resolution id restDone
      refine ⟨by simp [restLength], ?_⟩
      intro linkedFunction member
      rcases List.mem_cons.mp member with rfl | later
      · exact Except.mapError_eq_ok.mp verified
      · exact restVerified linkedFunction later

theorem linkFunctions_names (module : Module) (resolution : Resolution) (id : ModuleId) :
    ∀ {seen : List Name} {functions : List Function} {linked : List LinkedFunction},
      module.linkFunctions resolution id seen functions = .ok linked →
      (linked.map (·.function.name)).Nodup ∧ ∀ function ∈ linked, function.function.name ∉ seen
  | _, [], linked, done => by
      rw [linkFunctions] at done
      cases done
      simp
  | seen, function :: rest, linked, done => by
      rw [linkFunctions] at done
      split at done
      · cases done
      rename_i fresh
      split at done
      · cases done
      simp only [Except.bind_eq_ok] at done
      obtain ⟨signers, -, offsets, -, others, restDone, joined⟩ := done
      cases joined
      obtain ⟨restNodup, restFresh⟩ := linkFunctions_names module resolution id restDone
      have unseen : function.name ∉ seen := by simpa using fresh
      refine ⟨?_, ?_⟩
      · rw [List.map_cons, List.nodup_cons]
        refine ⟨fun listed => ?_, restNodup⟩
        obtain ⟨other, member, same⟩ := List.mem_map.mp listed
        exact restFresh other member (same ▸ List.mem_cons_self)
      · intro linkedFunction member
        rcases List.mem_cons.mp member with rfl | later
        · exact unseen
        · exact fun inSeen => restFresh linkedFunction later (List.mem_cons_of_mem _ inSeen)

theorem link_names_nodup {module : Module} {resolution : Resolution} {linked : LinkedModule}
    (done : module.link resolution = .ok linked) : (linked.functions.map (·.function.name)).Nodup := by
  simp only [link, Except.bind_eq_ok] at done
  obtain ⟨address, -, addresses, -, imports, -, functions, functionsOk, joined⟩ := done
  cases joined
  exact (linkFunctions_names module resolution _ functionsOk).1

theorem link_verified {module : Module} {resolution : Resolution} {linked : LinkedModule}
    (done : module.link resolution = .ok linked) : linked.Verified := by
  simp only [link, Except.bind_eq_ok] at done
  obtain ⟨address, -, addresses, addressesOk, imports, importsOk, functions, functionsOk, joined⟩ :=
    done
  cases joined
  obtain ⟨functionsLength, functionsVerified⟩ :=
    linkFunctions_verified module resolution _ functionsOk
  exact ⟨Except.length_of_mapM_ok addressesOk, Except.length_of_mapM_ok importsOk,
    functionsLength, functionsVerified⟩

/-- An instruction of a function as its verification saw it: it decodes, the next instruction
or the end of the code follows it, it jumps onto an instruction, and its operand indexes within
its table. -/
structure CheckedAt (module : Module) (function : Function) (offsets : List Nat) (start : Nat)
    (decoded : Code.Decoded) : Prop where
  decode_ok : Code.decode function.code start = .ok decoded
  next_boundary : decoded.next ∈ offsets ∨ decoded.next = function.code.length
  jump_lands : decoded.opcode.isJump → decoded.argument ∈ offsets
  operand_lt : ∀ limit, module.operandLimit function decoded.opcode = some limit →
    decoded.argument < limit

theorem verify_offsets {module : Module} {function : Function} {offsets : List Nat}
    (verified : module.verify function = .ok offsets) :
    Code.offsets function.code = .ok offsets ∧
      ∀ start ∈ offsets, module.checkOperand function start = .ok () := by
  unfold verify at verified
  split at verified
  · cases verified
  simp only [Except.bind_eq_ok] at verified
  obtain ⟨found, foundOk, ⟨⟩, checked, joined⟩ := verified
  cases joined
  exact ⟨Except.mapError_eq_ok.mp foundOk, Except.forM_ok checked⟩

theorem verify_checkedAt {module : Module} {function : Function} {offsets : List Nat}
    (verified : module.verify function = .ok offsets) :
    ∀ start ∈ offsets, ∃ decoded, module.CheckedAt function offsets start decoded := by
  obtain ⟨found, checked⟩ := verify_offsets verified
  intro start member
  obtain ⟨decoded, decodedOk, next, jump⟩ := Code.offsets_decode found start member
  refine ⟨decoded, decodedOk, next, jump, fun limit limitOf => ?_⟩
  have operandOk := checked start member
  rw [checkOperand, decodedOk] at operandOk
  simp only [limitOf] at operandOk
  split at operandOk
  · assumption
  · cases operandOk

theorem verify_entry {module : Module} {function : Function} {offsets : List Nat}
    (verified : module.verify function = .ok offsets) :
    0 ∈ offsets ∨ 0 = function.code.length :=
  Code.offsets_entry (verify_offsets verified).1

end Module

/-! Packages. -/

/-- A package of linked modules as building it guarantees: every module verified, no id twice,
and every import's module and function present. -/
structure Package.WellLinked (package : Package) : Prop where
  verified : ∀ module ∈ package.modules, module.Verified
  ids_unique : ∀ first ∈ package.modules, ∀ second ∈ package.modules,
    first.id = second.id → first = second
  imports_found : ∀ module ∈ package.modules, ∀ entry ∈ module.resolvedImports,
    ∃ target function, package.module? entry.module = some target ∧
      target.findFunction? entry.function = some function

namespace Package

theorem collect_spec :
    ∀ {seen : List ModuleId} {candidates : List (Module ⊕ LinkedModule)} {modules : List LinkedModule},
      collect seen candidates = .ok modules →
      (∀ module ∈ modules, .inr module ∈ candidates) ∧ (∀ module ∈ modules, module.id ∉ seen) ∧
        (modules.map (·.id)).Nodup
  | _, [], modules, collected => by
      rw [collect] at collected
      cases collected
      simp
  | _, .inl written :: _, modules, collected => by
      rw [collect] at collected
      cases collected
  | seen, .inr module :: rest, modules, collected => by
      rw [collect] at collected
      split at collected
      · cases collected
      · rename_i fresh
        simp only [Except.bind_eq_ok] at collected
        obtain ⟨others, othersOk, joined⟩ := collected
        cases joined
        obtain ⟨othersFrom, othersUnseen, othersNodup⟩ := collect_spec othersOk
        refine ⟨?_, ?_, ?_⟩
        · intro found member
          rcases List.mem_cons.mp member with rfl | later
          · exact List.mem_cons_self
          · exact List.mem_cons_of_mem _ (othersFrom found later)
        · intro found member
          rcases List.mem_cons.mp member with rfl | later
          · simpa using fresh
          · exact fun inSeen => othersUnseen found later (List.mem_cons_of_mem _ inSeen)
        · rw [List.map_cons, List.nodup_cons]
          refine ⟨fun inOthers => ?_, othersNodup⟩
          obtain ⟨other, otherMember, sameId⟩ := List.mem_map.mp inOthers
          exact othersUnseen other otherMember (sameId ▸ List.mem_cons_self)

theorem checkImports_found {modules : List LinkedModule} {module : LinkedModule}
    (checked : checkImports modules module = .ok ()) :
    ∀ entry ∈ module.resolvedImports, ∃ target function,
      modules.find? (·.id == entry.module) = some target ∧
        target.findFunction? entry.function = some function := by
  intro entry member
  have entryOk := Except.forM_ok checked entry member
  split at entryOk
  · cases entryOk
  · rename_i target targetFound
    split at entryOk
    · rename_i present
      obtain ⟨function, functionFound⟩ := Option.isSome_iff_exists.mp present
      exact ⟨target, function, targetFound, functionFound⟩
    · cases entryOk

/-- A package built from modules that linking produced is well linked. -/
theorem build_wellLinked {name : String} {resolution : Resolution}
    {candidates : List (Module ⊕ LinkedModule)} {package : Package}
    (built : build name resolution candidates = .ok package)
    (produced : ∀ module, .inr module ∈ candidates →
      ∃ (written : Module) (linkedWith : Resolution), written.link linkedWith = .ok module) :
    package.WellLinked := by
  simp only [build, Except.bind_eq_ok] at built
  obtain ⟨modules, collected, ⟨⟩, importsChecked, joined⟩ := built
  cases joined
  obtain ⟨fromCandidates, -, idsNodup⟩ := collect_spec collected
  have sortedMember : ∀ {module}, module ∈ modules.mergeSort
      (fun a b => ModuleId.compare a.id b.id != .gt) → module ∈ modules := List.mem_mergeSort.mp
  refine ⟨?_, ?_, ?_⟩
  · intro module member
    obtain ⟨written, linkedWith, linkedOk⟩ := produced module (fromCandidates module (sortedMember member))
    exact Module.link_verified linkedOk
  · intro first firstMember second secondMember sameId
    exact List.inj_on_of_nodup_map idsNodup (sortedMember firstMember) (sortedMember secondMember) sameId
  · intro module member
    exact checkImports_found (Except.forM_ok importsChecked module member)

section Built

variable {name : String} {resolution : Resolution} {candidates : List (Module ⊕ LinkedModule)}
  {package : Package}

theorem build_modules (built : build name resolution candidates = .ok package) :
    ∃ modules, collect [] candidates = .ok modules ∧ package.modules.Perm modules := by
  simp only [build, Except.bind_eq_ok] at built
  obtain ⟨modules, collected, ⟨⟩, -, joined⟩ := built
  cases joined
  exact ⟨modules, collected, List.mergeSort_perm modules _⟩

theorem build_ids_nodup (built : build name resolution candidates = .ok package) :
    (package.modules.map (·.id)).Nodup := by
  obtain ⟨modules, collected, reordered⟩ := build_modules built
  exact (reordered.map _).nodup_iff.mpr (collect_spec collected).2.2

theorem build_names_nodup (built : build name resolution candidates = .ok package)
    (produced : ∀ module, .inr module ∈ candidates →
      ∃ (written : Module) (linkedWith : Resolution), written.link linkedWith = .ok module) :
    ∀ module ∈ package.modules, (module.functions.map (·.function.name)).Nodup := by
  obtain ⟨modules, collected, reordered⟩ := build_modules built
  intro module member
  obtain ⟨written, linkedWith, linkedOk⟩ :=
    produced module ((collect_spec collected).1 module (reordered.subset member))
  exact Module.link_names_nodup linkedOk

end Built

end Package

/-! ### A module with a call and a jump -/

/-- A resolution binding `a` to the zero address. -/
def zeroResolution : Resolution := ⟨[⟨"a", Address.zero⟩]⟩

/-- The function `f`: a call of function 1, a jump to offset 6, a return. -/
def callerFunction : Function := ⟨"f", 0, 0, 0, ⟨0⟩, 0, [], [0x34, 1, 0, 0x22, 6, 0, 0x40]⟩

/-- The function `g`: a return. -/
def calleeFunction : Function := ⟨"g", 0, 0, 0, ⟨0⟩, 0, [], [0x40]⟩

/-- A module published at `a` with `f` and `g`. -/
def callerModule : Module := ⟨"a", "m", [], [], 0, [callerFunction, calleeFunction]⟩

def callerLinked : LinkedModule :=
  ⟨callerModule, ⟨Address.zero, "m"⟩, [], [], [⟨callerFunction, [], [0, 3, 6]⟩, ⟨calleeFunction, [], [0]⟩]⟩

def callerPackage : Package := ⟨"p", zeroResolution, [callerLinked]⟩

theorem caller_walk : Code.walk [0x34, 1, 0, 0x22, 6, 0, 0x40] 0 = .ok ([0, 3, 6], [6]) := by
  rw [Code.walk_cons_of_decodeHead rfl (Code.walk_cons_of_decodeHead rfl
    (Code.walk_cons_of_decodeHead rfl (Code.walk_nil 7)))]
  rfl

theorem caller_verify : callerModule.verify callerFunction = .ok [0, 3, 6] := by
  have landed : Code.containsSorted [0, 3, 6] 6 = true :=
    (Code.containsSorted_iff (by decide)).mpr (by decide)
  have offsets : Code.offsets [0x34, 1, 0, 0x22, 6, 0, 0x40] = .ok [0, 3, 6] := by
    rw [Code.offsets, caller_walk]
    simp [landed]
    rfl
  unfold Module.verify
  rw [show callerFunction.code = [0x34, 1, 0, 0x22, 6, 0, 0x40] from rfl, offsets]
  rfl

theorem callee_verify : callerModule.verify calleeFunction = .ok [0] := by
  have walked : Code.walk [0x40] 0 = .ok ([0], []) := by
    rw [Code.walk_cons_of_decodeHead rfl (Code.walk_nil 1)]
    rfl
  unfold Module.verify Code.offsets
  rw [show calleeFunction.code = [0x40] from rfl, walked]
  rfl

theorem caller_link : callerModule.link zeroResolution = .ok callerLinked := by
  have parts : callerModule.addressName = "a" ∧ callerModule.addressRefs = [] ∧ callerModule.imports = [] ∧
      callerModule.functions = [callerFunction, calleeFunction] := ⟨rfl, rfl, rfl, rfl⟩
  have untested : callerFunction.isTest = false ∧ calleeFunction.isTest = false := ⟨rfl, rfl⟩
  have signers : callerFunction.signers = [] ∧ calleeFunction.signers = [] := ⟨rfl, rfl⟩
  have distinct : calleeFunction.name ≠ callerFunction.name := by decide +kernel
  simp [Module.link, Module.lookupName, Resolution.lookupName, parts, zeroResolution,
    Module.linkFunctions, caller_verify, callee_verify, untested, signers, distinct]
  rfl

theorem caller_build : Package.build "p" zeroResolution [.inr callerLinked] = .ok callerPackage := by
  simp [Package.build, Package.collect, Package.checkImports, callerLinked]
  rfl

end Testbench
