import Mathlib
import Testbench.Proofs.Codec.Reads
import Testbench.Module.Binary

/-!
Module files read back what was written, and each module within the format's limits has exactly
one file.
-/

namespace Testbench

open Codec Codec.Decoder

/-- A function within the limits of the module format: names of at most `maxNameLength` bytes, at
most `maxSlots` signers, code of at most `maxCodeSize` bytes, the frame sizes in one byte each, no
flag beyond the four defined ones, and an abort code of 64 bits that is zero unless the abort code
flag is set. -/
structure Function.Fits (function : Function) : Prop where
  name_le : function.name.bytes.length ≤ Module.maxNameLength
  params_lt : function.params < 256
  locals_lt : function.locals < 256
  returns_lt : function.returns < 256
  attributes_le : function.attributes.bits ≤ Attributes.mask
  abortCode_lt : function.abortCode < 2 ^ 64
  abortCode_eq : function.attributes.has Attributes.abortCode = false → function.abortCode = 0
  signers_le : function.signers.length ≤ Module.maxSlots
  signer_le : ∀ signer ∈ function.signers, signer.bytes.length ≤ Module.maxNameLength
  code_le : function.code.length ≤ Module.maxCodeSize

/-- An import within the limits of the module format: names of at most `maxNameLength` bytes. -/
structure Import.Fits (entry : Import) : Prop where
  addressName_le : entry.addressName.bytes.length ≤ Module.maxNameLength
  module_le : entry.module.bytes.length ≤ Module.maxNameLength
  function_le : entry.function.bytes.length ≤ Module.maxNameLength

/-- A module within the limits of its format: a name and an address name, none of its names
longer than `maxNameLength` bytes, at most `maxSlots` address references, at most
`maxFunctions` imports and functions, each within its limits, and the number of statics in one
byte. -/
structure Module.Fits (module : Module) : Prop where
  addressName_ne : module.addressName.bytes ≠ []
  name_ne : module.name.bytes ≠ []
  addressName_le : module.addressName.bytes.length ≤ Module.maxNameLength
  name_le : module.name.bytes.length ≤ Module.maxNameLength
  addressRefs_le : module.addressRefs.length ≤ Module.maxSlots
  addressRef_le : ∀ name ∈ module.addressRefs, name.bytes.length ≤ Module.maxNameLength
  imports_le : module.imports.length ≤ Module.maxFunctions
  imports : ∀ entry ∈ module.imports, entry.Fits
  statics_lt : module.statics < 256
  functions_le : module.functions.length ≤ Module.maxFunctions
  functions : ∀ function ∈ module.functions, function.Fits

theorem Attributes.hasUnknown_eq_false_iff {bits : Nat} (byte : bits < 256) :
    (⟨bits⟩ : Attributes).hasUnknown = false ↔ bits ≤ Attributes.mask := by
  revert bits
  unfold Attributes.hasUnknown Attributes.mask
  decide +kernel

namespace Module

theorem reads_name : Reads decodeName (fun name => name.bytes.length ≤ maxNameLength) encodeName := by
  intro input name rest
  rw [decodeName, (reads_varBytes (by decide)).bind_ok]
  constructor
  · rintro ⟨bytes, tail, short, rfl, done⟩
    rw [run_pure] at done
    cases done
    exact ⟨short, rfl⟩
  · rintro ⟨short, rfl⟩
    exact ⟨name.bytes, rest, short, rfl, rfl⟩

theorem reads_names {limit : Nat} (bounded : limit < UInt64.size) :
    Reads (decodeNames limit)
      (fun names => names.length ≤ limit ∧ ∀ name ∈ names, name.bytes.length ≤ maxNameLength) encodeNames :=
  reads_name.array bounded

theorem reads_abortCode (flagged : Bool) :
    Reads (if flagged = true then (liftM u64 : Decoder DecodeError Nat) else pure 0)
      (fun code => code < 2 ^ 64 ∧ (flagged = false → code = 0))
      (fun code => if flagged = true then Encode.u64 code else []) := by
  intro input code rest
  cases flagged with
  | true =>
    simp only [if_true, reads_u64.lift input code rest]
    simp
  | false =>
    simp only [Bool.false_eq_true, if_false, run_pure, Except.ok.injEq, Prod.mk.injEq, List.nil_append]
    constructor
    · rintro ⟨rfl, rfl⟩
      exact ⟨⟨by norm_num, fun _ => rfl⟩, rfl⟩
    · rintro ⟨⟨-, zero⟩, rfl⟩
      exact ⟨(zero trivial).symm, rfl⟩

theorem reads_function : Reads decodeFunction Function.Fits encodeFunction := by
  intro input function rest
  constructor
  · intro read
    simp only [decodeFunction, reads_name.lift.bind_ok, reads_byte.lift.bind_ok, ite_bind_eq] at read
    obtain ⟨name, afterName, nameShort, rfl, params, afterParams, -, rfl, locals, afterLocals, -, rfl,
      returns, afterReturns, -, rfl, bits, afterBits, -, rfl, read⟩ := read
    split at read
    · cases read
    rename_i known
    obtain ⟨code, afterCode, ⟨codeBound, codeZero⟩, rfl, withCode⟩ := (reads_abortCode _).bind_ok.mp read
    obtain ⟨signers, afterSigners, ⟨signersFew, signersShort⟩, rfl, withSigners⟩ :=
      (reads_names (show maxSlots < UInt64.size by decide)).lift.bind_ok.mp withCode
    obtain ⟨bytes, afterBytes, bytesShort, rfl, withBytes⟩ :=
      (reads_varBytes (show maxCodeSize < UInt64.size by decide)).lift.bind_ok.mp withSigners
    rw [run_pure] at withBytes
    cases withBytes
    have attributesKnown := (Attributes.hasUnknown_eq_false_iff bits.toNat_lt).mp (Bool.eq_false_iff.mpr known)
    refine ⟨⟨nameShort, params.toNat_lt, locals.toNat_lt, returns.toNat_lt, attributesKnown, codeBound,
      codeZero, signersFew, signersShort, bytesShort⟩, ?_⟩
    simp [encodeFunction, UInt8.ofNat_toNat]
  · rintro ⟨fits, rfl⟩
    obtain ⟨name, params, locals, returns, ⟨bits⟩, code, signers, bytes⟩ := function
    have defined : bits ≤ Attributes.mask := fits.attributes_le
    have byte : bits < 256 := by
      unfold Attributes.mask at defined
      omega
    have known := (Attributes.hasUnknown_eq_false_iff byte).mpr defined
    simp only [decodeFunction, encodeFunction, List.append_assoc, reads_name.lift.bind_ok,
      reads_byte.lift.bind_ok, ite_bind_eq]
    refine ⟨name, _, fits.name_le, rfl, params.toUInt8, _, trivial, rfl, locals.toUInt8, _, trivial, rfl,
      returns.toUInt8, _, trivial, rfl, bits.toUInt8, _, trivial, rfl, ?_⟩
    rw [UInt8.toNat_ofNat_of_lt' byte, known, if_neg Bool.false_ne_true,
      run_bind_of_ok ((reads_abortCode _).read ⟨fits.abortCode_lt, fits.abortCode_eq⟩ _),
      run_bind_of_ok ((reads_names (show maxSlots < UInt64.size by decide)).lift.read
        ⟨fits.signers_le, fits.signer_le⟩ _),
      run_bind_of_ok ((reads_varBytes (show maxCodeSize < UInt64.size by decide)).lift.read fits.code_le _),
      run_pure, UInt8.toNat_ofNat_of_lt' fits.params_lt, UInt8.toNat_ofNat_of_lt' fits.locals_lt,
      UInt8.toNat_ofNat_of_lt' fits.returns_lt]

theorem reads_import : Reads decodeImport Import.Fits encodeImport := by
  intro input entry rest
  constructor
  · intro read
    simp only [decodeImport, reads_name.bind_ok, run_pure] at read
    obtain ⟨addressName, afterAddress, addressShort, rfl, module, afterModule, moduleShort, rfl,
      function, afterFunction, functionShort, rfl, done⟩ := read
    cases done
    exact ⟨⟨addressShort, moduleShort, functionShort⟩, by simp [encodeImport]⟩
  · rintro ⟨fits, rfl⟩
    simp only [decodeImport, encodeImport, List.append_assoc,
      run_bind_of_ok (reads_name.read fits.addressName_le _),
      run_bind_of_ok (reads_name.read fits.module_le _),
      run_bind_of_ok (reads_name.read fits.function_le _)]
    rfl

theorem reads_module : Reads decodeModule Module.Fits encode := by
  intro input module rest
  constructor
  · intro read
    simp only [decodeModule, reads_u32.lift.bind_ok] at read
    obtain ⟨found, afterMagic, -, rfl, read⟩ := read
    split at read
    · cases read
    rename_i isMagic
    rw [reads_byte.lift.bind_ok] at read
    obtain ⟨format, afterFormat, -, rfl, read⟩ := read
    split at read
    · cases read
    rename_i isVersion
    simp only [reads_name.lift.bind_ok] at read
    obtain ⟨addressName, afterAddressName, addressNameShort, rfl, name, afterName, nameShort, rfl, read⟩ := read
    obtain ⟨addressRefs, afterRefs, ⟨refsFew, refsShort⟩, rfl, withRefs⟩ :=
      (reads_names (show maxSlots < UInt64.size by decide)).lift.bind_ok.mp read
    obtain ⟨imports, afterImports, ⟨importsFew, importsFit⟩, rfl, withImports⟩ :=
      (reads_import.array (show maxFunctions < UInt64.size by decide)).lift.bind_ok.mp withRefs
    obtain ⟨statics, afterStatics, -, rfl, withStatics⟩ := reads_byte.lift.bind_ok.mp withImports
    obtain ⟨functions, afterFunctions, ⟨functionsFew, functionsFit⟩, rfl, withFunctions⟩ :=
      (reads_function.array (show maxFunctions < UInt64.size by decide)).bind_ok.mp withStatics
    split at withFunctions
    · cases withFunctions
    rename_i named
    rw [run_pure] at withFunctions
    cases withFunctions
    simp only [bne_iff_ne, ne_eq, Decidable.not_not] at isMagic isVersion
    simp only [Bool.or_eq_true, not_or, Name.isEmpty, List.isEmpty_iff] at named
    refine ⟨⟨named.1, named.2, addressNameShort, nameShort, refsFew, refsShort, importsFew, importsFit,
      statics.toNat_lt, functionsFew, functionsFit⟩, ?_⟩
    have formatIs : format = version.toUInt8 := UInt8.toNat_inj.mp (by rw [isVersion]; rfl)
    simp [encode, isMagic, formatIs, UInt8.ofNat_toNat, encodeNames]
  · rintro ⟨fits, rfl⟩
    obtain ⟨addressName, name, addressRefs, imports, statics, functions⟩ := module
    have named : (addressName.isEmpty || name.isEmpty) = false := by
      simp [Name.isEmpty, fits.addressName_ne, fits.name_ne]
    simp only [decodeModule, encode, List.append_assoc]
    rw [run_bind_of_ok (reads_u32.lift.read (show magic < 2 ^ 32 by decide) _), bne_self_eq_false,
      if_neg Bool.false_ne_true, run_bind_of_ok (reads_byte.lift.read trivial _),
      if_neg (by decide : ¬(version.toUInt8.toNat != version) = true),
      run_bind_of_ok (reads_name.lift.read fits.addressName_le _),
      run_bind_of_ok (reads_name.lift.read fits.name_le _),
      run_bind_of_ok ((reads_names (show maxSlots < UInt64.size by decide)).lift.read
        ⟨fits.addressRefs_le, fits.addressRef_le⟩ _),
      run_bind_of_ok ((reads_import.array (show maxFunctions < UInt64.size by decide)).lift.read
        ⟨fits.imports_le, fits.imports⟩ _),
      run_bind_of_ok (reads_byte.lift.read trivial _),
      run_bind_of_ok ((reads_function.array (show maxFunctions < UInt64.size by decide)).read
        ⟨fits.functions_le, fits.functions⟩ _),
      named, if_neg Bool.false_ne_true, run_pure, UInt8.toNat_ofNat_of_lt' fits.statics_lt]

theorem decode_eq_ok_iff {bytes : List UInt8} {module : Module} :
    decode bytes = .ok module ↔ module.Fits ∧ bytes = encode module := by
  constructor
  · intro decoded
    unfold decode at decoded
    split at decoded
    · cases decoded
    rename_i found rest read
    split at decoded
    · rename_i empty
      cases decoded
      rw [List.isEmpty_iff] at empty
      subst empty
      obtain ⟨fits, bytesIs⟩ := (reads_module _ _ _).mp read
      exact ⟨fits, by rw [bytesIs, List.append_nil]⟩
    · cases decoded
  · rintro ⟨fits, rfl⟩
    have read := reads_module.read fits []
    rw [List.append_nil] at read
    rw [decode, read]
    rfl

end Module

/-- Module files read back what was written and have one form. A file is read exactly when it is
the file written for a module within the format's limits, and it gives that module; so a module
within the limits is read back from its file, and a file that is read is the file of the module it
gives. A function or an import read on its own is likewise read exactly from its bytes followed by
anything, and leaves what follows. -/
theorem module_file_canonical :
    (∀ (bytes : List UInt8) (module : Module),
      Module.decode bytes = .ok module ↔ module.Fits ∧ bytes = Module.encode module) ∧
    (∀ (input rest : List UInt8) (function : Function),
      Module.decodeFunction input = .ok (function, rest) ↔
        function.Fits ∧ input = Module.encodeFunction function ++ rest) ∧
    (∀ (input rest : List UInt8) (entry : Import),
      Module.decodeImport input = .ok (entry, rest) ↔ entry.Fits ∧ input = Module.encodeImport entry ++ rest) :=
  ⟨fun _ _ => Module.decode_eq_ok_iff, fun input rest function => Module.reads_function input function rest,
    fun input rest entry => Module.reads_import input entry rest⟩

end Testbench
