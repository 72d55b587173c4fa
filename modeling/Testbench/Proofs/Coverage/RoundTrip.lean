import Mathlib
import Testbench.Proofs.Coverage.File
import Testbench.Proofs.Coverage.Merge
import Testbench.Proofs.Compression.Raw

/-!
Coverage files read back what was written, and a map has one uncompressed file: the reader closes
every freedom of the format by a check.
-/

namespace Testbench

namespace Codec.Decoder

variable {ε α β : Type}

theorem run_bind_of_ok {first : Decoder ε α} {next : α → Decoder ε β} {input rest : List UInt8}
    {value : α} (read : first input = .ok (value, rest)) : (first >>= next) input = next value rest := by
  rw [run_bind, read]

theorem run_lift_of_ok [FromCodec ε] {decoder : Decoder Error α} {input rest : List UInt8} {value : α}
    (read : decoder input = .ok (value, rest)) : (liftM decoder : Decoder ε α) input = .ok (value, rest) := by
  show (decoder input).mapError FromCodec.ofCodec = _
  rw [read]
  rfl

theorem run_atEnd (input : List UInt8) : (atEnd : Decoder ε Bool) input = .ok (input.isEmpty, input) := rfl

theorem length_encodeVarUint {limit value : Nat} (within : value ≤ limit) (bounded : value < UInt64.size)
    (rest : List UInt8) : length limit (encodeVarUint value ++ rest) = .ok (value, rest) := by
  rw [length, run_bind_of_ok (varUint_encodeVarUint value bounded rest), if_neg (by omega)]
  rfl

theorem length_ok {limit value : Nat} {input rest : List UInt8} (read : length limit input = .ok (value, rest)) :
    value ≤ limit ∧ value < UInt64.size ∧ input = encodeVarUint value ++ rest := by
  obtain ⟨count, after, counted, checked⟩ := bind_ok read
  split at checked
  · cases checked
  · cases checked
    obtain ⟨bounded, inputIs⟩ := varUint_ok_encodeVarUint input rest value counted
    exact ⟨by omega, bounded, inputIs⟩

theorem exactly_ok {count : Nat} {input bytes rest : List UInt8} (read : exactly count input = .ok (bytes, rest)) :
    bytes.length = count ∧ input = bytes ++ rest := by
  unfold exactly at read
  split at read
  · cases read
    exact ⟨by rw [List.length_take]; omega, (List.take_append_drop count input).symm⟩
  · split at read <;> cases read

theorem varBytes_encode {limit : Nat} {bytes : List UInt8} (short : bytes.length ≤ limit)
    (bounded : bytes.length < UInt64.size) (rest : List UInt8) :
    varBytes limit (Encode.varBytes bytes ++ rest) = .ok (bytes, rest) := by
  rw [varBytes, Encode.varBytes, List.append_assoc,
    run_bind_of_ok (length_encodeVarUint short bounded (bytes ++ rest)), exactly_append]

theorem varBytes_ok {limit : Nat} {input bytes rest : List UInt8} (read : varBytes limit input = .ok (bytes, rest)) :
    bytes.length ≤ limit ∧ input = Encode.varBytes bytes ++ rest := by
  obtain ⟨count, after, counted, taken⟩ := bind_ok read
  obtain ⟨within, -, inputIs⟩ := length_ok counted
  obtain ⟨lengthIs, afterIs⟩ := exactly_ok taken
  refine ⟨lengthIs ▸ within, ?_⟩
  rw [inputIs, afterIs, Encode.varBytes, lengthIs, List.append_assoc]

theorem u64_encode (word : UInt64) (rest : List UInt8) :
    u64 (Encode.u64 word.toNat ++ rest) = .ok (word.toNat, rest) := by
  refine (littleEndian_ok 8 _ rest word.toNat).mpr ⟨Encode.u64 word.toNat, by simp [Encode.u64], rfl, ?_⟩
  rw [Encode.u64, Word.ofLittleEndian_toLittleEndian, Nat.mod_eq_of_lt]
  exact word.toNat_lt

theorem u64_ok {input rest : List UInt8} {value : Nat} (read : u64 input = .ok (value, rest)) :
    value < 2 ^ 64 ∧ input = Encode.u64 value ++ rest := by
  obtain ⟨bytes, lengthIs, inputIs, valueIs⟩ := (littleEndian_ok 8 input rest value).mp read
  have bound := Word.ofLittleEndian_lt bytes
  rw [lengthIs, Nat.pow_eq] at bound
  refine ⟨valueIs ▸ bound, ?_⟩
  rw [inputIs, valueIs, Encode.u64, ← lengthIs, toLittleEndian_ofLittleEndian]

theorem u64_ok_toUInt64 {input rest : List UInt8} {value : Nat} (read : u64 input = .ok (value, rest)) :
    input = Encode.u64 value.toUInt64.toNat ++ rest := by
  obtain ⟨bound, inputIs⟩ := u64_ok read
  rw [inputIs, Nat.toUInt64_eq, UInt64.toNat_ofNat', Nat.mod_eq_of_lt bound]

theorem times_flatMap {γ : Type} {decoder : Decoder ε α} {encode : γ → List UInt8} {read : γ → α}
    (lawful : ∀ item rest, decoder (encode item ++ rest) = .ok (read item, rest)) :
    ∀ (items : List γ) (rest : List UInt8),
      times decoder items.length (items.flatMap encode ++ rest) = .ok (items.map read, rest)
  | [], rest => rfl
  | item :: items, rest => by
    rw [List.length_cons, times, List.flatMap_cons, List.append_assoc,
      run_bind_of_ok (lawful item _), run_bind_of_ok (times_flatMap lawful items rest)]
    rfl

theorem times_ok {decoder : Decoder ε α} {encode : α → List UInt8}
    (canonical : ∀ input value rest, decoder input = .ok (value, rest) → input = encode value ++ rest) :
    ∀ {count : Nat} {input : List UInt8} {values : List α} {rest : List UInt8},
      times decoder count input = .ok (values, rest) → input = values.flatMap encode ++ rest
  | 0, input, values, rest, read => by
    cases read
    rfl
  | count + 1, input, values, rest, read => by
    obtain ⟨first, afterFirst, firstOk, read⟩ := bind_ok read
    obtain ⟨later, afterLater, laterOk, read⟩ := bind_ok read
    cases read
    rw [canonical _ _ _ firstOk, times_ok canonical laterOk, List.flatMap_cons, List.append_assoc]

end Codec.Decoder

namespace CoverageFile

open Codec

/-! ### The bytes of a map -/

/-- The bytes of one function of a module. -/
def functionBytes : Name × FunctionCoverage → List UInt8
  | (name, function) => Encode.varBytes name.bytes ++ encodeVarUint function.size ++
      encodeWords function.instructions ++ encodeWords function.covered

/-- The bytes of one module. -/
def moduleBytes : ModuleId × FunctionTable → List UInt8
  | (id, table) => id.address.bytes ++ Encode.varBytes id.name.bytes ++ encodeVarUint table.length ++
      table.flatMap functionBytes

theorem encodeBody_eq (map : CoverageMap) :
    encodeBody map = encodeVarUint map.modules.length ++ map.modules.flatMap moduleBytes := rfl

theorem magic_eq : magic = [78, 67, 79, 86] := by
  rw [magic, byteArray_toList]
  decide

/-- A function within the limits of the format. -/
structure FunctionFits (entry : Name × FunctionCoverage) : Prop where
  name_le : entry.1.bytes.length ≤ maxNameLength
  size_le : entry.2.size ≤ maxCodeSize

/-- A module within the limits of the format. -/
structure ModuleFits (entry : ModuleId × FunctionTable) : Prop where
  name_le : entry.1.name.bytes.length ≤ maxNameLength
  functions_le : entry.2.length ≤ maxFunctions
  functions : ∀ function ∈ entry.2, FunctionFits function

end CoverageFile

/-- A map within the limits of the format: at most `defaultLimit` modules, at most `maxFunctions`
functions a module, names of at most `maxNameLength` bytes and code of at most `maxCodeSize`. -/
structure CoverageMap.Fits (map : CoverageMap) : Prop where
  modules_le : map.modules.length ≤ Codec.Decoder.defaultLimit
  modules : ∀ entry ∈ map.modules, CoverageFile.ModuleFits entry

namespace CoverageFile

open Codec

/-! ### Reading what was written -/

theorem decodeWords_encodeWords {size : Nat} {field : BitField}
    (counted : field.words.length = BitField.wordCount size) (small : size ≤ maxCodeSize) (rest : List UInt8) :
    decodeWords size (encodeWords field ++ rest) = .ok (field, rest) := by
  have fits : field.words.length ≤ maxWords := counted ▸ FunctionCoverage.wordCount_le_wordCount small
  unfold decodeWords encodeWords
  rw [List.append_assoc, Decoder.run_bind_of_ok (Decoder.run_lift_of_ok
    (Decoder.length_encodeVarUint fits (by unfold maxWords maxCodeSize at fits; simp [UInt64.size]; omega) _)),
    if_neg (not_not_intro counted), Decoder.run_bind_of_ok (Decoder.run_lift_of_ok
    (Decoder.times_flatMap Decoder.u64_encode field.words rest))]
  show Except.ok ((⟨(field.words.map UInt64.toNat).map Nat.toUInt64⟩ : BitField), rest) = _
  simp [Function.comp_def]

theorem checks_pass {function : FunctionCoverage} (formed : function.WellFormed) :
    function.covered.isSubset function.instructions = true ∧
      (function.instructions.toList.any fun index => decide (index ≥ function.size)) = false := by
  refine ⟨BitField.isSubset_of_bit (by rw [formed.covered_length, formed.instructions_length])
    formed.covered_instructions, List.any_eq_false.mpr fun index listed => ?_⟩
  have below := formed.instructions_below index (BitField.bit_of_mem_toList listed)
  simp only [decide_eq_true_eq]
  omega

theorem decodeFunction_functionBytes {id : ModuleId} {previous : Option Name} {entry : Name × FunctionCoverage}
    (after : ∀ before ∈ previous, Name.compare before entry.1 = .lt) (fits : FunctionFits entry)
    (formed : entry.2.WellFormed) (rest : List UInt8) :
    decodeFunction id previous (functionBytes entry ++ rest) = .ok (entry, rest) := by
  obtain ⟨name, function⟩ := entry
  have inOrder : (previous.any fun before => Name.compare before name != .lt) = false := by
    cases previous with
    | none => rfl
    | some before => simp [after before rfl]
  have short := Nat.lt_of_le_of_lt fits.name_le (by decide : maxNameLength < UInt64.size)
  have small := Nat.lt_of_le_of_lt fits.size_le (by decide : maxCodeSize < UInt64.size)
  obtain ⟨subset, below⟩ := checks_pass formed
  unfold decodeFunction functionBytes
  dsimp only at fits formed ⊢
  simp only [List.append_assoc]
  rw [Decoder.run_bind_of_ok (Decoder.run_lift_of_ok (Decoder.varBytes_encode fits.name_le short _)),
    Decoder.run_bind_of_ok (Decoder.run_lift_of_ok (varUint_encodeVarUint _ small _))]
  dsimp only
  rw [inOrder, if_neg Bool.false_ne_true, if_neg (Nat.not_lt.mpr fits.size_le),
    Decoder.run_bind_of_ok (decodeWords_encodeWords formed.instructions_length fits.size_le _),
    Decoder.run_bind_of_ok (decodeWords_encodeWords formed.covered_length fits.size_le _),
    subset, below]
  rfl

theorem decodeFunctions_flatMap (id : ModuleId) :
    ∀ (table : FunctionTable) {previous : Option Name}, SortedKeys Name.compare table →
      (∀ before ∈ previous, ∀ entry ∈ table, Name.compare before entry.1 = .lt) →
      (∀ entry ∈ table, FunctionFits entry) → TableWellFormed table → ∀ rest,
      decodeFunctions id table.length previous (table.flatMap functionBytes ++ rest) = .ok (table, rest)
  | [], _, _, _, _, _, _ => rfl
  | (name, function) :: table, previous, sorted, after, fits, formed, rest => by
    obtain ⟨below, tableSorted⟩ := SortedKeys.cons_iff.mp sorted
    have afterFirst : ∀ before ∈ some name, ∀ entry ∈ table, Name.compare before entry.1 = .lt := by
      intro before held
      rw [Option.mem_some_iff] at held
      subst held
      exact below
    rw [List.length_cons, decodeFunctions, List.flatMap_cons, List.append_assoc,
      Decoder.run_bind_of_ok (decodeFunction_functionBytes (fun before held => after before held _ List.mem_cons_self)
        (fits _ List.mem_cons_self) (formed _ List.mem_cons_self) _)]
    dsimp only
    rw [Decoder.run_bind_of_ok (decodeFunctions_flatMap id table tableSorted afterFirst
        (fun entry member => fits entry (List.mem_cons_of_mem _ member))
        (fun entry member => formed entry (List.mem_cons_of_mem _ member)) rest)]
    rfl

theorem decodeModule_moduleBytes {previous : Option ModuleId} {entry : ModuleId × FunctionTable}
    (after : ∀ before ∈ previous, ModuleId.compare before entry.1 = .lt) (fits : ModuleFits entry)
    (sorted : SortedKeys Name.compare entry.2) (formed : TableWellFormed entry.2) (rest : List UInt8) :
    decodeModule previous (moduleBytes entry ++ rest) = .ok (entry, rest) := by
  obtain ⟨⟨address, name⟩, table⟩ := entry
  have inOrder : (previous.any fun before => ModuleId.compare before ⟨address, name⟩ != .lt) = false := by
    cases previous with
    | none => rfl
    | some before => simp [after before rfl]
  have short := Nat.lt_of_le_of_lt fits.name_le (by decide : maxNameLength < UInt64.size)
  have few := Nat.lt_of_le_of_lt fits.functions_le (by decide : maxFunctions < UInt64.size)
  unfold decodeModule moduleBytes
  dsimp only at fits formed sorted after ⊢
  simp only [List.append_assoc]
  rw [show Address.size = address.bytes.length from address.length_eq.symm,
    Decoder.run_bind_of_ok (Decoder.run_lift_of_ok (Decoder.exactly_append _ _)),
    Decoder.run_bind_of_ok (Decoder.run_lift_of_ok (Decoder.varBytes_encode fits.name_le short _))]
  dsimp only
  have rebuilt : ({ address := ⟨address.bytes, address.length_eq⟩, name := ⟨name.bytes⟩ } : ModuleId) =
      ⟨address, name⟩ := rfl
  rw [dif_pos address.length_eq, rebuilt, inOrder, if_neg Bool.false_ne_true,
    Decoder.run_bind_of_ok (Decoder.run_lift_of_ok (Decoder.length_encodeVarUint fits.functions_le few _)),
    Decoder.run_bind_of_ok (decodeFunctions_flatMap _ table sorted (fun _ held => by cases held)
      fits.functions formed rest)]
  rfl

theorem decodeModules_flatMap :
    ∀ (modules : List (ModuleId × FunctionTable)) {previous : Option ModuleId},
      SortedKeys ModuleId.compare modules →
      (∀ before ∈ previous, ∀ entry ∈ modules, ModuleId.compare before entry.1 = .lt) →
      (∀ entry ∈ modules, ModuleFits entry) → (∀ entry ∈ modules, SortedKeys Name.compare entry.2) →
      (∀ entry ∈ modules, TableWellFormed entry.2) → ∀ rest,
      decodeModules modules.length previous (modules.flatMap moduleBytes ++ rest) = .ok (modules, rest)
  | [], _, _, _, _, _, _, _ => rfl
  | (id, table) :: modules, previous, sorted, after, fits, tablesSorted, formed, rest => by
    obtain ⟨below, modulesSorted⟩ := SortedKeys.cons_iff.mp sorted
    have afterFirst : ∀ before ∈ some id, ∀ entry ∈ modules, ModuleId.compare before entry.1 = .lt := by
      intro before held
      rw [Option.mem_some_iff] at held
      subst held
      exact below
    rw [List.length_cons, decodeModules, List.flatMap_cons, List.append_assoc,
      Decoder.run_bind_of_ok (decodeModule_moduleBytes (fun before held => after before held _ List.mem_cons_self)
        (fits _ List.mem_cons_self) (tablesSorted _ List.mem_cons_self) (formed _ List.mem_cons_self) _)]
    dsimp only
    rw [Decoder.run_bind_of_ok (decodeModules_flatMap modules modulesSorted afterFirst
        (fun entry member => fits entry (List.mem_cons_of_mem _ member))
        (fun entry member => tablesSorted entry (List.mem_cons_of_mem _ member))
        (fun entry member => formed entry (List.mem_cons_of_mem _ member)) rest)]
    rfl

theorem decodeMap_encodeBody {map : CoverageMap} (formed : map.WellFormed) (sorted : map.Sorted)
    (fits : map.Fits) (rest : List UInt8) : decodeMap (encodeBody map ++ rest) = .ok (map, rest) := by
  have many := Nat.lt_of_le_of_lt fits.modules_le (by decide : Decoder.defaultLimit < UInt64.size)
  unfold decodeMap
  rw [encodeBody_eq, List.append_assoc,
    Decoder.run_bind_of_ok (Decoder.run_lift_of_ok (Decoder.length_encodeVarUint fits.modules_le many _)),
    Decoder.run_bind_of_ok (decodeModules_flatMap map.modules sorted.modules (fun _ held => by cases held)
      fits.modules sorted.functions formed rest)]
  rfl

theorem decodeBody_encodeBody {map : CoverageMap} (formed : map.WellFormed) (sorted : map.Sorted)
    (fits : map.Fits) : decodeBody (encodeBody map) = .ok (map, []) := by
  unfold decodeBody
  rw [← List.append_nil (encodeBody map), Decoder.run_bind_of_ok (decodeMap_encodeBody formed sorted fits [])]
  rfl

theorem encode_uncompressed (map : CoverageMap) : encode map false = [78, 67, 79, 86, 1, 0] ++ encodeBody map := by
  rw [encode, magic_eq]
  rfl

theorem decode_plain (body : List UInt8) :
    decode ([78, 67, 79, 86, 1, 0] ++ body) = Prod.fst <$> decodeBody body := by
  unfold decode
  simp [magic_eq, version, compressedFlag]

theorem decode_encode {map : CoverageMap} (formed : map.WellFormed) (sorted : map.Sorted) (fits : map.Fits) :
    decode (encode map false) = .ok map := by
  rw [encode_uncompressed, decode_plain, decodeBody_encodeBody formed sorted fits]
  rfl

theorem decode_plain_ok {file : List UInt8} {map : CoverageMap} (plain : file[5]? = some 0)
    (decoded : decode file = .ok map) :
    ∃ body rest, file = [78, 67, 79, 86, 1, 0] ++ body ∧ decodeBody body = .ok (map, rest) := by
  match file, plain with
  | a :: b :: c :: d :: e :: flags :: body, plain =>
    simp only [List.getElem?_cons_succ, List.getElem?_cons_zero, Option.some.injEq] at plain
    subst plain
    unfold decode at decoded
    simp [magic_eq, version, compressedFlag] at decoded
    split at decoded
    · cases decoded
    rename_i header
    simp only [not_or, Classical.not_imp, not_not] at header
    obtain ⟨-, rfl, rfl, rfl, rfl⟩ := header
    split at decoded
    · rename_i versioned
      have one : e = 1 := UInt8.toNat_inj.mp versioned
      subst one
      cases bodyRead : decodeBody body with
      | error failure =>
        rw [bodyRead] at decoded
        cases decoded
      | ok result =>
        rw [bodyRead] at decoded
        cases decoded
        exact ⟨body, result.2, rfl, bodyRead⟩
    · cases decoded

/-! ### Writing what was read -/

theorem decodeWords_ok {size : Nat} {input rest : List UInt8} {field : BitField}
    (decoded : decodeWords size input = .ok (field, rest)) : input = encodeWords field ++ rest := by
  unfold decodeWords at decoded
  obtain ⟨count, afterCount, counted, decoded⟩ := Decoder.bind_ok decoded
  obtain ⟨-, -, inputIs⟩ := Decoder.length_ok (Decoder.lift_ok counted)
  split at decoded
  · cases decoded
  obtain ⟨words, afterWords, wordsOk, decoded⟩ := Decoder.bind_ok decoded
  cases decoded
  have wordsRead := Decoder.lift_ok wordsOk
  rw [inputIs, Decoder.times_ok (fun _ _ _ read => Decoder.u64_ok_toUInt64 read) wordsRead, encodeWords,
    List.length_map, Decoder.times_length _ wordsRead, List.flatMap_map, List.append_assoc]

theorem decodeFunction_ok {id : ModuleId} {previous : Option Name} {input rest : List UInt8}
    {entry : Name × FunctionCoverage} (decoded : decodeFunction id previous input = .ok (entry, rest)) :
    input = functionBytes entry ++ rest ∧ FunctionFits entry ∧
      ∀ before ∈ previous, Name.compare before entry.1 = .lt := by
  unfold decodeFunction at decoded
  obtain ⟨nameBytes, afterName, nameOk, decoded⟩ := Decoder.bind_ok decoded
  obtain ⟨size, afterSize, sizeOk, decoded⟩ := Decoder.bind_ok decoded
  split at decoded
  · cases decoded
  rename_i inOrder
  split at decoded
  · cases decoded
  rename_i small
  obtain ⟨instructions, afterInstructions, instructionsOk, decoded⟩ := Decoder.bind_ok decoded
  obtain ⟨covered, afterCovered, coveredOk, decoded⟩ := Decoder.bind_ok decoded
  split at decoded
  · cases decoded
  split at decoded
  · cases decoded
  cases decoded
  obtain ⟨short, nameIs⟩ := Decoder.varBytes_ok (Decoder.lift_ok nameOk)
  refine ⟨?_, ⟨short, Nat.le_of_not_lt small⟩, ?_⟩
  · rw [nameIs, (varUint_ok_encodeVarUint _ _ _ (Decoder.lift_ok sizeOk)).2, decodeWords_ok instructionsOk,
      decodeWords_ok coveredOk]
    simp only [functionBytes, List.append_assoc]
  · intro before held
    rw [Option.mem_def] at held
    subst held
    simpa using inOrder

theorem decodeFunctions_ok (id : ModuleId) :
    ∀ {count : Nat} {previous : Option Name} {input rest : List UInt8} {table : FunctionTable},
      decodeFunctions id count previous input = .ok (table, rest) →
      input = table.flatMap functionBytes ++ rest ∧ table.length = count ∧ SortedKeys Name.compare table ∧
        (∀ entry ∈ table, FunctionFits entry) ∧
        ∀ before ∈ previous, ∀ entry ∈ table, Name.compare before entry.1 = .lt
  | 0, _, _, _, _, decoded => by
    cases decoded
    refine ⟨rfl, rfl, List.Pairwise.nil, ?_, ?_⟩ <;> simp
  | count + 1, previous, input, rest, table, decoded => by
    rw [decodeFunctions] at decoded
    obtain ⟨⟨name, function⟩, afterFunction, functionOk, decoded⟩ := Decoder.bind_ok decoded
    obtain ⟨later, afterLater, laterOk, decoded⟩ := Decoder.bind_ok decoded
    cases decoded
    obtain ⟨inputIs, fits, after⟩ := decodeFunction_ok functionOk
    obtain ⟨restIs, length, sorted, laterFits, laterAfter⟩ := decodeFunctions_ok id laterOk
    have below : ∀ entry ∈ later, Name.compare name entry.1 = .lt := laterAfter name rfl
    refine ⟨by rw [inputIs, restIs, List.flatMap_cons, List.append_assoc], by rw [List.length_cons, length],
      SortedKeys.cons_iff.mpr ⟨below, sorted⟩, ?_, ?_⟩
    · intro entry member
      rcases List.mem_cons.mp member with rfl | listed
      · exact fits
      · exact laterFits entry listed
    · intro before held entry member
      rcases List.mem_cons.mp member with rfl | listed
      · exact after before held
      · exact Std.TransCmp.lt_trans (after before held) (below entry listed)

theorem decodeModule_ok {previous : Option ModuleId} {input rest : List UInt8} {entry : ModuleId × FunctionTable}
    (decoded : decodeModule previous input = .ok (entry, rest)) :
    input = moduleBytes entry ++ rest ∧ ModuleFits entry ∧ SortedKeys Name.compare entry.2 ∧
      ∀ before ∈ previous, ModuleId.compare before entry.1 = .lt := by
  unfold decodeModule at decoded
  obtain ⟨bytes, afterAddress, addressOk, decoded⟩ := Decoder.bind_ok decoded
  obtain ⟨nameBytes, afterName, nameOk, decoded⟩ := Decoder.bind_ok decoded
  obtain ⟨counted, inputIs⟩ := Decoder.exactly_ok (Decoder.lift_ok addressOk)
  have twenty : bytes.length = 20 := counted
  dsimp only at decoded
  rw [dif_pos twenty] at decoded
  split at decoded
  · cases decoded
  rename_i inOrder
  obtain ⟨count, afterCount, countOk, decoded⟩ := Decoder.bind_ok decoded
  obtain ⟨table, afterTable, tableOk, decoded⟩ := Decoder.bind_ok decoded
  cases decoded
  obtain ⟨short, nameIs⟩ := Decoder.varBytes_ok (Decoder.lift_ok nameOk)
  obtain ⟨few, -, countIs⟩ := Decoder.length_ok (Decoder.lift_ok countOk)
  obtain ⟨tableIs, length, sorted, fits, -⟩ := decodeFunctions_ok _ tableOk
  refine ⟨?_, ⟨short, length ▸ few, fits⟩, sorted, ?_⟩
  · rw [inputIs, nameIs, countIs, tableIs, moduleBytes, length]
    simp only [List.append_assoc]
  · intro before held
    rw [Option.mem_def] at held
    subst held
    simpa using inOrder

theorem decodeModules_ok :
    ∀ {count : Nat} {previous : Option ModuleId} {input rest : List UInt8}
      {modules : List (ModuleId × FunctionTable)},
      decodeModules count previous input = .ok (modules, rest) →
      input = modules.flatMap moduleBytes ++ rest ∧ modules.length = count ∧
        SortedKeys ModuleId.compare modules ∧ (∀ entry ∈ modules, ModuleFits entry) ∧
        (∀ entry ∈ modules, SortedKeys Name.compare entry.2) ∧
        ∀ before ∈ previous, ∀ entry ∈ modules, ModuleId.compare before entry.1 = .lt
  | 0, _, _, _, _, decoded => by
    cases decoded
    refine ⟨rfl, rfl, List.Pairwise.nil, ?_, ?_, ?_⟩ <;> simp
  | count + 1, previous, input, rest, modules, decoded => by
    rw [decodeModules] at decoded
    obtain ⟨⟨id, table⟩, afterModule, moduleOk, decoded⟩ := Decoder.bind_ok decoded
    obtain ⟨later, afterLater, laterOk, decoded⟩ := Decoder.bind_ok decoded
    cases decoded
    obtain ⟨inputIs, fits, tableSorted, after⟩ := decodeModule_ok moduleOk
    obtain ⟨restIs, length, sorted, laterFits, laterTables, laterAfter⟩ := decodeModules_ok laterOk
    have below : ∀ entry ∈ later, ModuleId.compare id entry.1 = .lt := laterAfter id rfl
    refine ⟨by rw [inputIs, restIs, List.flatMap_cons, List.append_assoc], by rw [List.length_cons, length],
      SortedKeys.cons_iff.mpr ⟨below, sorted⟩, ?_, ?_, ?_⟩
    · intro entry member
      rcases List.mem_cons.mp member with rfl | listed
      · exact fits
      · exact laterFits entry listed
    · intro entry member
      rcases List.mem_cons.mp member with rfl | listed
      · exact tableSorted
      · exact laterTables entry listed
    · intro before held entry member
      rcases List.mem_cons.mp member with rfl | listed
      · exact after before held
      · exact Std.TransCmp.lt_trans (after before held) (below entry listed)

theorem decodeMap_ok {input rest : List UInt8} {map : CoverageMap} (decoded : decodeMap input = .ok (map, rest)) :
    input = encodeBody map ++ rest ∧ map.Sorted ∧ map.Fits := by
  unfold decodeMap at decoded
  obtain ⟨count, afterCount, countOk, decoded⟩ := Decoder.bind_ok decoded
  obtain ⟨modules, afterModules, modulesOk, decoded⟩ := Decoder.bind_ok decoded
  cases decoded
  obtain ⟨many, -, inputIs⟩ := Decoder.length_ok (Decoder.lift_ok countOk)
  obtain ⟨modulesIs, length, sorted, fits, tables, -⟩ := decodeModules_ok modulesOk
  refine ⟨?_, ⟨sorted, tables⟩, ⟨length ▸ many, fits⟩⟩
  rw [inputIs, modulesIs, encodeBody_eq, length, List.append_assoc]

theorem decodeBody_ok {input rest : List UInt8} {map : CoverageMap} (decoded : decodeBody input = .ok (map, rest)) :
    input = encodeBody map ∧ rest = [] ∧ map.Sorted ∧ map.Fits := by
  unfold decodeBody at decoded
  obtain ⟨read, afterMap, mapOk, decoded⟩ := Decoder.bind_ok decoded
  obtain ⟨inputIs, sorted, fits⟩ := decodeMap_ok mapOk
  rw [Codec.run_bind, Decoder.run_atEnd] at decoded
  cases empty : afterMap.isEmpty with
  | false =>
    rw [empty] at decoded
    cases decoded
  | true =>
    rw [empty] at decoded
    cases decoded
    rw [List.isEmpty_iff] at empty
    subst empty
    exact ⟨by rw [inputIs, List.append_nil], rfl, sorted, fits⟩

theorem encode_decode {file : List UInt8} {map : CoverageMap} (plain : file[5]? = some 0)
    (decoded : decode file = .ok map) : encode map false = file := by
  obtain ⟨body, rest, fileIs, bodyOk⟩ := decode_plain_ok plain decoded
  obtain ⟨bodyIs, -, -, -⟩ := decodeBody_ok bodyOk
  rw [encode_uncompressed, fileIs, bodyIs]

theorem encode_compressed (map : CoverageMap) :
    encode map true = [78, 67, 79, 86, 1, 1] ++ (Zstd.compressRaw ⟨(encodeBody map).toArray⟩).toList := by
  rw [encode, magic_eq]
  rfl

theorem decode_compressed (frame : ByteArray) :
    decode ([78, 67, 79, 86, 1, 1] ++ frame.toList) =
      match Zstd.decompress frame with
      | .ok content => Prod.fst <$> decodeBody content.toList
      | .error failure => .error (.compression failure) := by
  unfold decode
  simp [magic_eq, version, compressedFlag, byteArray_toList]
  rw [if_neg (by omega)]
  rfl

theorem decode_encode_compressed {map : CoverageMap} (formed : map.WellFormed) (sorted : map.Sorted)
    (fits : map.Fits)
    (inverse : Zstd.decompress (Zstd.compressRaw ⟨(encodeBody map).toArray⟩) = .ok ⟨(encodeBody map).toArray⟩) :
    decode (encode map true) = .ok map := by
  rw [encode_compressed, decode_compressed, inverse]
  dsimp only
  rw [byteArray_toList]
  show Prod.fst <$> decodeBody (encodeBody map) = _
  rw [decodeBody_encodeBody formed sorted fits]
  rfl

theorem decode_sorted {file : List UInt8} {map : CoverageMap} (decoded : decode file = .ok map) :
    map.Sorted ∧ map.Fits := by
  obtain ⟨body, rest, bodyOk⟩ := decode_body decoded
  obtain ⟨-, -, sorted, fits⟩ := decodeBody_ok bodyOk
  exact ⟨sorted, fits⟩

end CoverageFile

theorem CoverageMap.Reachable.sorted {map : CoverageMap} (reachable : map.Reachable) : map.Sorted := by
  induction reachable with
  | empty => exact sorted_empty
  | decoded decodedOk => exact (CoverageFile.decode_sorted decodedOk).1
  | decodedMap decodedOk => exact (CoverageFile.decodeMap_ok decodedOk).2.1
  | addModule written resolution _ linked sorted => exact sorted.addModule _
  | addPackage _ linked sorted => exact sorted.addPackage _
  | apply events _ sorted => exact sorted.apply events
  | merge _ _ sorted => exact sorted.merge _

/-- Coverage files read back what was written, and an uncompressed file is the only file of its
map. A sorted map that keeps the invariant and fits the format is read back from its file, and
from its compressed file when the frame decompresses to the body; an uncompressed file that is
read is the file of the map read, and that map is one of those. -/
theorem coverage_file_round_trip :
    (∀ map : CoverageMap, map.WellFormed → map.Sorted → map.Fits →
      CoverageFile.decode (CoverageFile.encode map false) = .ok map ∧
      (Zstd.decompress (Zstd.compressRaw ⟨(CoverageFile.encodeBody map).toArray⟩) =
          .ok ⟨(CoverageFile.encodeBody map).toArray⟩ →
        CoverageFile.decode (CoverageFile.encode map true) = .ok map)) ∧
    ∀ (file : List UInt8) (map : CoverageMap), file[5]? = some 0 → CoverageFile.decode file = .ok map →
      CoverageFile.encode map false = file ∧ map.WellFormed ∧ map.Sorted ∧ map.Fits := by
  refine ⟨fun map formed sorted fits => ⟨CoverageFile.decode_encode formed sorted fits,
    CoverageFile.decode_encode_compressed formed sorted fits⟩, fun file map plain decoded => ?_⟩
  obtain ⟨sorted, fits⟩ := CoverageFile.decode_sorted decoded
  exact ⟨CoverageFile.encode_decode plain decoded, CoverageFile.decode_wellFormed decoded, sorted, fits⟩

theorem sampleCoverage_modules (size : Nat) (offsets : List Nat) :
    (sampleCoverage size offsets).modules =
      [(sampleModuleId, [(("f" : Name), FunctionCoverage.ofOffsets size offsets)])] := rfl

theorem name_m : Name.ofString "m" = ⟨[109]⟩ := by
  rw [Name.ofString, String.toUTF8, byteArray_toList]
  decide

theorem name_f : Name.ofString "f" = ⟨[102]⟩ := by
  rw [Name.ofString, String.toUTF8, byteArray_toList]
  decide

theorem sampleCoverage_fits (size : Nat) (offsets : List Nat) (small : size ≤ CoverageFile.maxCodeSize) :
    (sampleCoverage size offsets).Fits := by
  refine ⟨by rw [sampleCoverage_modules, List.length_singleton]; decide, fun entry member => ?_⟩
  rw [sampleCoverage_modules, List.mem_singleton] at member
  subst member
  refine ⟨by simp only [sampleModuleId, name_m]; decide, by rw [List.length_singleton]; decide,
    fun function member => ?_⟩
  rw [List.mem_singleton] at member
  subst member
  exact ⟨by simp only [name_f]; decide, small⟩

theorem sampleCoverage_body_small :
    (⟨(CoverageFile.encodeBody (sampleCoverage 3 [0, 1])).toArray⟩ : ByteArray).size ≤ Zstd.maxBlockSize := by
  show (CoverageFile.encodeBody (sampleCoverage 3 [0, 1])).length ≤ Zstd.maxBlockSize
  simp only [sampleCoverage, sampleModuleId, name_m, name_f]
  decide

/-- The files of `f`, with three bytes of code and instructions at 0 and 1, read back. -/
theorem sample_file_round_trip :
    ((sampleCoverage 3 [0, 1]).WellFormed ∧ (sampleCoverage 3 [0, 1]).Sorted ∧
      (sampleCoverage 3 [0, 1]).Fits ∧
      Zstd.decompress (Zstd.compressRaw ⟨(CoverageFile.encodeBody (sampleCoverage 3 [0, 1])).toArray⟩) =
        .ok ⟨(CoverageFile.encodeBody (sampleCoverage 3 [0, 1])).toArray⟩ ∧
      (CoverageFile.encode (sampleCoverage 3 [0, 1]) false)[5]? = some 0) ∧
    CoverageFile.decode (CoverageFile.encode (sampleCoverage 3 [0, 1]) false) = .ok (sampleCoverage 3 [0, 1]) ∧
    CoverageFile.decode (CoverageFile.encode (sampleCoverage 3 [0, 1]) true) = .ok (sampleCoverage 3 [0, 1]) ∧
    CoverageFile.encode (sampleCoverage 3 [0, 1]) false = CoverageFile.encode (sampleCoverage 3 [0, 1]) false ∧
      (sampleCoverage 3 [0, 1]).WellFormed ∧ (sampleCoverage 3 [0, 1]).Sorted ∧ (sampleCoverage 3 [0, 1]).Fits := by
  have formed := sampleCoverage_wellFormed 3 [0, 1] (by decide)
  have sorted := sampleCoverage_sorted 3 [0, 1]
  have fits := sampleCoverage_fits 3 [0, 1] (by decide)
  have inverse := Zstd.decompress_compressRaw sampleCoverage_body_small
  have plain : (CoverageFile.encode (sampleCoverage 3 [0, 1]) false)[5]? = some 0 := by
    rw [CoverageFile.encode_uncompressed]
    rfl
  obtain ⟨uncompressed, compressed⟩ := coverage_file_round_trip.1 _ formed sorted fits
  exact ⟨⟨formed, sorted, fits, inverse, plain⟩, uncompressed, compressed inverse,
    coverage_file_round_trip.2 _ _ plain uncompressed⟩

end Testbench
