import Mathlib
import Testbench.Proofs.Module.Verified

/-!
Which modules link: exactly those whose names are bound, whose function names are distinct and
frames small, and whose code is well formed, with jumps and indexes in range.
-/

namespace Testbench

/-! ### Runs of validators in `Except` -/

theorem Except.forM_ok_of_forall {ε α : Type} {check : α → Except ε Unit} :
    ∀ {items : List α}, (∀ item ∈ items, check item = .ok ()) → items.forM check = .ok ()
  | [], _ => rfl
  | first :: rest, checked => by
    simp only [List.forM_eq_forM, List.forM_cons, Except.bind_eq_ok]
    exact ⟨(), checked first List.mem_cons_self,
      Except.forM_ok_of_forall fun item member => checked item (List.mem_cons_of_mem _ member)⟩

theorem Except.mapM_eq_ok_iff {ε α β : Type} {step : α → Except ε β} {items : List α} {results : List β} :
    items.mapM step = .ok results ↔ List.Forall₂ (fun item result => step item = .ok result) items results := by
  induction items generalizing results with
  | nil => cases results <;> simp [pure, Except.pure]
  | cons item rest ih =>
    simp only [List.mapM_cons, Except.bind_eq_ok]
    cases results with
    | nil => simp [pure, Except.pure]
    | cons result others =>
      rw [List.forall₂_cons, ← ih]
      constructor
      · rintro ⟨first, firstOk, mapped, restOk, joined⟩
        cases joined
        exact ⟨firstOk, restOk⟩
      · rintro ⟨firstOk, restOk⟩
        exact ⟨result, firstOk, others, restOk, rfl⟩

theorem exists_of_forall₂ {α β : Type} {related : α → β → Prop} {items : List α} {results : List β}
    (pairs : List.Forall₂ related items results) : ∀ item ∈ items, ∃ result, related item result := by
  induction pairs with
  | nil => intro item member; cases member
  | cons first _ ih =>
    intro item member
    rcases List.mem_cons.mp member with rfl | later
    · exact ⟨_, first⟩
    · exact ih item later

theorem forall₂_of_exists {α β : Type} {related : α → β → Prop} {items : List α}
    (each : ∀ item ∈ items, ∃ result, related item result) : ∃ results, List.Forall₂ related items results := by
  induction items with
  | nil => exact ⟨[], .nil⟩
  | cons item rest ih =>
    obtain ⟨result, first⟩ := each item List.mem_cons_self
    obtain ⟨others, restRelated⟩ := ih fun other member => each other (List.mem_cons_of_mem _ member)
    exact ⟨result :: others, .cons first restRelated⟩

theorem Except.mapM_ok_iff_forall {ε α β : Type} {step : α → Except ε β} {items : List α} :
    (∃ results, items.mapM step = .ok results) ↔ ∀ item ∈ items, ∃ result, step item = .ok result := by
  constructor
  · rintro ⟨results, mapped⟩
    exact exists_of_forall₂ (Except.mapM_eq_ok_iff.mp mapped)
  · intro each
    obtain ⟨results, related⟩ := forall₂_of_exists each
    exact ⟨results, Except.mapM_eq_ok_iff.mpr related⟩

namespace Module

/-- An operand that indexes a table stays within it: the functions for `CALL`, the imports for
`CALLT`, the address references for `PUSHADDR`, the statics for `LDSFLD` and `STSFLD`, and the
parameters and locals for `LDLOC` and `STLOC`. -/
def IndexesWithin (module : Module) (function : Function) (instruction : Code.Written) : Prop :=
  match instruction.opcode with
  | .call => instruction.argument < module.functions.length
  | .callImport => instruction.argument < module.imports.length
  | .pushAddress => instruction.argument < module.addressRefs.length
  | .loadStatic | .storeStatic => instruction.argument < module.statics
  | .loadLocal | .storeLocal => instruction.argument < function.params + function.locals
  | _ => True

theorem indexesWithin_iff (module : Module) (function : Function) (instruction : Code.Written) :
    module.IndexesWithin function instruction ↔
      ∀ limit, module.operandLimit function instruction.opcode = some limit → instruction.argument < limit := by
  unfold IndexesWithin operandLimit
  cases instruction.opcode <;> simp

/-- What verification asks of a function: a frame of at most 255 slots, and code written as a
sequence of well-formed instructions whose jumps land on their starts and whose indexes stay
within their tables. -/
structure Verifies (module : Module) (function : Function) (instructions : List Code.Written) : Prop where
  slots_le : function.params + function.locals ≤ 255
  layout : Code.Layout function.code instructions
  jumps_land : Code.JumpsLand instructions
  indexes_within : ∀ instruction ∈ instructions, module.IndexesWithin function instruction

theorem checkOperand_placed {module : Module} {function : Function} {instructions : List Code.Written}
    (laid : Code.Layout function.code instructions) {entry : Nat × Code.Written}
    (member : entry ∈ Code.placed 0 instructions) :
    module.checkOperand function entry.1 = .ok () ↔ module.IndexesWithin function entry.2 := by
  have decoded : Code.decode ([] ++ instructions.flatMap Code.Written.bytes) entry.1 =
      .ok ⟨entry.2.opcode, entry.2.operand, entry.1 + entry.2.bytes.length⟩ :=
    Code.decode_placed laid.wellFormed member
  rw [List.nil_append, ← laid.concatenates] at decoded
  rw [indexesWithin_iff, checkOperand, decoded]
  dsimp only
  cases module.operandLimit function entry.2.opcode with
  | none => simp
  | some limit =>
    simp only [Code.Decoded.argument, Code.Written.argument, Option.some.injEq, forall_eq']
    by_cases below : Word.ofLittleEndian entry.2.operand < limit <;> simp [below]

theorem verify_eq_ok_iff {module : Module} {function : Function} {found : List Nat} :
    module.verify function = .ok found ↔
      ∃ instructions, module.Verifies function instructions ∧ found = Code.starts 0 instructions := by
  constructor
  · intro verified
    have slots : function.params + function.locals ≤ 255 := by
      unfold verify at verified
      split at verified
      · cases verified
      · rename_i fits
        unfold verify.maxSlotCount at fits
        omega
    obtain ⟨offsetsOk, checked⟩ := verify_offsets verified
    obtain ⟨instructions, laid, landed, rfl⟩ := Code.offsets_eq_ok_iff.mp offsetsOk
    refine ⟨instructions, ⟨slots, laid, landed, fun instruction member => ?_⟩, rfl⟩
    obtain ⟨start, placedAt⟩ : ∃ start, (start, instruction) ∈ Code.placed 0 instructions :=
      Code.exists_mem_placed member
    exact (checkOperand_placed laid placedAt).mp (checked start (List.mem_map.mpr ⟨_, placedAt, rfl⟩))
  · rintro ⟨instructions, ⟨slots, laid, landed, within⟩, rfl⟩
    unfold verify
    rw [if_neg (by unfold verify.maxSlotCount; omega)]
    simp only [Except.bind_eq_ok, Except.mapError_eq_ok]
    refine ⟨Code.starts 0 instructions, Code.offsets_eq_ok_iff.mpr ⟨instructions, laid, landed, rfl⟩,
      (), Except.forM_ok_of_forall fun start member => ?_, rfl⟩
    obtain ⟨entry, placedAt, rfl⟩ := List.mem_map.mp member
    exact (checkOperand_placed laid placedAt).mpr (within entry.2 (Code.mem_of_mem_placed placedAt))

theorem lookupName_eq_ok {module : Module} {resolution : Resolution} {use : NameUse} {name : Name}
    {address : Address} :
    module.lookupName resolution use name = .ok address ↔ resolution.lookupName name = some address := by
  unfold lookupName
  cases resolution.lookupName name <;> simp

theorem lookupNames_ok_iff {module : Module} {resolution : Resolution} {use : NameUse} {names : List Name} :
    (∃ addresses, names.mapM (module.lookupName resolution use) = .ok addresses) ↔
      ∀ name ∈ names, (resolution.lookupName name).isSome := by
  rw [Except.mapM_ok_iff_forall]
  simp only [lookupName_eq_ok, Option.isSome_iff_exists]

/-- What linking asks of one function, its name apart: its signers are bound, a test takes one
parameter per signer, and its code verifies. -/
structure LinksFunction (module : Module) (resolution : Resolution) (function : Function) : Prop where
  signers_bound : ∀ name ∈ function.signers, (resolution.lookupName name).isSome
  test_signed : function.isTest = true → function.params = function.signers.length
  verifies : ∃ instructions, module.Verifies function instructions

theorem signed_iff {function : Function} :
    ¬ (function.isTest && function.params != function.signers.length) = true ↔
      (function.isTest = true → function.params = function.signers.length) := by
  cases function.isTest <;> simp

theorem names_fresh_cons {function : Function} {rest : List Function} {seen : List Name} :
    (((function :: rest).map (·.name)).Nodup ∧ ∀ other ∈ function :: rest, other.name ∉ seen) ↔
      function.name ∉ seen ∧ (rest.map (·.name)).Nodup ∧ ∀ other ∈ rest, other.name ∉ function.name :: seen := by
  rw [List.forall_mem_cons, List.map_cons, List.nodup_cons]
  simp only [List.mem_map, List.mem_cons, not_or]
  constructor
  · rintro ⟨⟨repeated, nodup⟩, unseen, restUnseen⟩
    exact ⟨unseen, nodup, fun other member => ⟨fun same => repeated ⟨other, member, same⟩, restUnseen other member⟩⟩
  · rintro ⟨unseen, nodup, restFresh⟩
    refine ⟨⟨?_, nodup⟩, unseen, fun other member => (restFresh other member).2⟩
    rintro ⟨other, member, same⟩
    exact (restFresh other member).1 same

theorem linkFunctions_ok_iff {module : Module} {resolution : Resolution} {id : ModuleId} {seen : List Name}
    {functions : List Function} :
    (∃ linked, module.linkFunctions resolution id seen functions = .ok linked) ↔
      (functions.map (·.name)).Nodup ∧ (∀ function ∈ functions, function.name ∉ seen) ∧
        ∀ function ∈ functions, module.LinksFunction resolution function := by
  induction functions generalizing seen with
  | nil => simp [linkFunctions]
  | cons function rest ih =>
    simp only [linkFunctions]
    constructor
    · rintro ⟨linked, done⟩
      split at done
      · cases done
      rename_i fresh
      split at done
      · cases done
      rename_i signed
      simp only [Except.bind_eq_ok, Except.mapError_eq_ok] at done
      obtain ⟨signers, signersOk, offsets, verified, others, restDone, -⟩ := done
      obtain ⟨restNodup, restFresh, restLinks⟩ := ih.mp ⟨others, restDone⟩
      obtain ⟨nodup, unseen⟩ := names_fresh_cons.mpr ⟨by simpa using fresh, restNodup, restFresh⟩
      refine ⟨nodup, unseen, fun other member => ?_⟩
      rcases List.mem_cons.mp member with rfl | later
      · obtain ⟨instructions, verifies, -⟩ := verify_eq_ok_iff.mp verified
        exact ⟨lookupNames_ok_iff.mp ⟨signers, signersOk⟩, signed_iff.mp signed, instructions, verifies⟩
      · exact restLinks other later
    · rintro ⟨nodup, fresh, links⟩
      obtain ⟨unseen, restNodup, restFresh⟩ := names_fresh_cons.mp ⟨nodup, fresh⟩
      have notContained : ¬ seen.contains function.name = true := by simpa using unseen
      have first := links function List.mem_cons_self
      obtain ⟨others, restOk⟩ :=
        ih.mpr ⟨restNodup, restFresh, fun other member => links other (List.mem_cons_of_mem _ member)⟩
      obtain ⟨signers, signersOk⟩ := lookupNames_ok_iff.mpr first.signers_bound
      obtain ⟨instructions, verifies⟩ := first.verifies
      rw [if_neg notContained, if_neg (signed_iff.mpr first.test_signed)]
      simp only [Except.bind_eq_ok, Except.mapError_eq_ok]
      exact ⟨_, signers, signersOk, _, verify_eq_ok_iff.mpr ⟨instructions, verifies, rfl⟩, others, restOk, rfl⟩

theorem verify_starts {module : Module} {function : Function} {found : List Nat}
    (verified : module.verify function = .ok found) :
    found.Pairwise (· < ·) ∧
      ∀ instructions, Code.Layout function.code instructions → found = Code.starts 0 instructions := by
  obtain ⟨offsetsOk, -⟩ := verify_offsets verified
  obtain ⟨targets, walked, -⟩ := Code.offsets_walk offsetsOk
  obtain ⟨written, verifies, rfl⟩ := verify_eq_ok_iff.mp verified
  exact ⟨(Code.walk_ascending function.code 0 walked).1,
    fun instructions laid => Code.starts_unique verifies.layout laid⟩

theorem linkFunctions_forall₂ (module : Module) (resolution : Resolution) (id : ModuleId) :
    ∀ {seen : List Name} {functions : List Function} {linked : List LinkedFunction},
      module.linkFunctions resolution id seen functions = .ok linked →
      List.Forall₂ (fun function linkedFunction => linkedFunction.function = function ∧
        List.Forall₂ (fun name address => resolution.lookupName name = some address) function.signers
          linkedFunction.signerAddresses ∧
        module.verify function = .ok linkedFunction.offsets) functions linked
  | _, [], linked, done => by
      rw [linkFunctions] at done
      cases done
      exact .nil
  | seen, function :: rest, linked, done => by
      rw [linkFunctions] at done
      split at done
      · cases done
      split at done
      · cases done
      simp only [Except.bind_eq_ok, Except.mapError_eq_ok] at done
      obtain ⟨signers, signersOk, offsets, verified, others, restDone, joined⟩ := done
      cases joined
      refine .cons ⟨rfl, ?_, verified⟩ (linkFunctions_forall₂ module resolution id restDone)
      exact (Except.mapM_eq_ok_iff.mp signersOk).imp fun _ _ => lookupName_eq_ok.mp

/-- A module that links under a resolution, said without running the linker: its address name,
its address references, the address names of its imports and the signers of its functions are
bound, its function names are distinct, and each function links. -/
structure Linkable (module : Module) (resolution : Resolution) : Prop where
  address_bound : (resolution.lookupName module.addressName).isSome
  references_bound : ∀ name ∈ module.addressRefs, (resolution.lookupName name).isSome
  imports_bound : ∀ entry ∈ module.imports, (resolution.lookupName entry.addressName).isSome
  names_nodup : (module.functions.map (·.name)).Nodup
  functions : ∀ function ∈ module.functions, module.LinksFunction resolution function

theorem resolveImport_eq_ok {module : Module} {resolution : Resolution} {entry : Import}
    {resolved : ResolvedImport} :
    (do
      let target ← module.lookupName resolution (.import entry) entry.addressName
      pure (⟨⟨target, entry.module⟩, entry.function⟩ : ResolvedImport) : Except LinkError ResolvedImport) =
        .ok resolved ↔
      ∃ address, resolution.lookupName entry.addressName = some address ∧
        resolved = ⟨⟨address, entry.module⟩, entry.function⟩ := by
  simp only [Except.bind_eq_ok, lookupName_eq_ok]
  constructor
  · rintro ⟨address, found, joined⟩
    cases joined
    exact ⟨address, found, rfl⟩
  · rintro ⟨address, found, rfl⟩
    exact ⟨address, found, rfl⟩

theorem link_ok_iff {module : Module} {resolution : Resolution} :
    (∃ linked, module.link resolution = .ok linked) ↔ module.Linkable resolution := by
  simp only [link, Except.bind_eq_ok]
  constructor
  · rintro ⟨linked, address, addressOk, addresses, addressesOk, imports, importsOk, functions, functionsOk, -⟩
    obtain ⟨nodup, -, links⟩ := linkFunctions_ok_iff.mp ⟨functions, functionsOk⟩
    refine ⟨Option.isSome_iff_exists.mpr ⟨address, lookupName_eq_ok.mp addressOk⟩,
      lookupNames_ok_iff.mp ⟨addresses, addressesOk⟩, fun entry member => ?_, nodup, links⟩
    obtain ⟨resolved, resolvedOk⟩ := Except.mapM_ok_iff_forall.mp ⟨imports, importsOk⟩ entry member
    obtain ⟨target, found, -⟩ := resolveImport_eq_ok.mp resolvedOk
    exact Option.isSome_iff_exists.mpr ⟨target, found⟩
  · intro linkable
    obtain ⟨address, found⟩ := Option.isSome_iff_exists.mp linkable.address_bound
    obtain ⟨addresses, addressesOk⟩ :
        ∃ addresses, module.addressRefs.mapM (module.lookupName resolution .module) = .ok addresses :=
      lookupNames_ok_iff.mpr linkable.references_bound
    obtain ⟨imports, importsOk⟩ : ∃ imports, module.imports.mapM (fun entry => do
        let target ← module.lookupName resolution (.import entry) entry.addressName
        pure (⟨⟨target, entry.module⟩, entry.function⟩ : ResolvedImport)) = .ok imports :=
      Except.mapM_ok_iff_forall.mpr fun entry member => by
        obtain ⟨target, targetFound⟩ := Option.isSome_iff_exists.mp (linkable.imports_bound entry member)
        exact ⟨_, resolveImport_eq_ok.mpr ⟨target, targetFound, rfl⟩⟩
    obtain ⟨functions, functionsOk⟩ :=
      linkFunctions_ok_iff.mpr ⟨linkable.names_nodup, fun _ _ => List.not_mem_nil, linkable.functions⟩
    exact ⟨_, address, lookupName_eq_ok.mpr found, addresses, addressesOk, imports, importsOk, functions,
      functionsOk, rfl⟩

end Module

/-- The module linking gives: the module as written, at the address its name is bound to, with
each address reference, import and signer bound to the address the resolution gives, and each
function with the starts of its instructions, ascending, as its offsets. -/
structure LinkedModule.Describes (linked : LinkedModule) (module : Module) (resolution : Resolution) : Prop where
  module_eq : linked.module = module
  id_eq : resolution.lookupName module.addressName = some linked.id.address ∧ linked.id.name = module.name
  addresses : List.Forall₂ (fun name address => resolution.lookupName name = some address) module.addressRefs
    linked.addresses
  imports : List.Forall₂ (fun entry resolved => resolution.lookupName entry.addressName = some resolved.module.address ∧
    resolved.module.name = entry.module ∧ resolved.function = entry.function) module.imports linked.resolvedImports
  functions : List.Forall₂ (fun function linkedFunction => linkedFunction.function = function ∧
      List.Forall₂ (fun name address => resolution.lookupName name = some address) function.signers
        linkedFunction.signerAddresses ∧
      linkedFunction.offsets.Pairwise (· < ·) ∧
      ∀ instructions, Code.Layout function.code instructions → linkedFunction.offsets = Code.starts 0 instructions)
    module.functions linked.functions

theorem Module.link_describes {module : Module} {resolution : Resolution} {linked : LinkedModule}
    (done : module.link resolution = .ok linked) : linked.Describes module resolution := by
  simp only [Module.link, Except.bind_eq_ok] at done
  obtain ⟨address, addressOk, addresses, addressesOk, imports, importsOk, functions, functionsOk, joined⟩ := done
  cases joined
  refine ⟨rfl, ⟨Module.lookupName_eq_ok.mp addressOk, rfl⟩, ?_, ?_, ?_⟩
  · exact (Except.mapM_eq_ok_iff.mp addressesOk).imp fun _ _ => Module.lookupName_eq_ok.mp
  · refine (Except.mapM_eq_ok_iff.mp importsOk).imp fun entry resolved resolvedOk => ?_
    obtain ⟨target, found, rfl⟩ := Module.resolveImport_eq_ok.mp resolvedOk
    exact ⟨found, rfl, rfl⟩
  · refine (Module.linkFunctions_forall₂ module resolution _ functionsOk).imp fun function linkedFunction related => ?_
    obtain ⟨same, signers, verified⟩ := related
    obtain ⟨ascending, unique⟩ := Module.verify_starts verified
    exact ⟨same, signers, ascending, unique⟩

/-- Linking accepts exactly the modules that link: those whose names are all bound, whose function
names are distinct, whose tests take one parameter per signer, whose frames have at most 255 slots,
and whose code is a sequence of well-formed instructions with jumps onto instruction starts and
indexes within their tables. The module it gives binds every name to the address the resolution
gives and keeps each function's instruction starts, ascending, as its offsets. -/
theorem link_accepts_exactly_linkable (module : Module) (resolution : Resolution) :
    ((∃ linked, module.link resolution = .ok linked) ↔ module.Linkable resolution) ∧
      ∀ linked, module.link resolution = .ok linked → linked.Describes module resolution :=
  ⟨Module.link_ok_iff, fun _ done => Module.link_describes done⟩

end Testbench
