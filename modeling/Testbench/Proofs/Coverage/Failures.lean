import Mathlib
import Testbench.Proofs.Coverage.RoundTrip

/-!
How reading a coverage file fails: the header decides between a corrupt file and an unsupported
version, and every later failure marks the file as corrupt and as nothing else.
-/

namespace Testbench

namespace Codec.Decoder

variable {ε α β : Type} {allowed : ε → Prop}

/-- Every failure of the decoder, on any input, is one that `allowed` admits. -/
def FailsOnly (decoder : Decoder ε α) (allowed : ε → Prop) : Prop :=
  ∀ input failure, decoder input = .error failure → allowed failure

theorem failsOnly_pure (value : α) : (pure value : Decoder ε α).FailsOnly allowed := by
  intro input failure failed
  cases failed

theorem failsOnly_fail {failure : ε} (admitted : allowed failure) :
    (fail failure : Decoder ε α).FailsOnly allowed := by
  intro input refused failed
  cases failed
  exact admitted

theorem failsOnly_atEnd : (atEnd : Decoder ε Bool).FailsOnly allowed := by
  intro input failure failed
  cases failed

theorem failsOnly_lift [FromCodec ε] (decoder : Decoder Error α)
    (admitted : ∀ failure, allowed (FromCodec.ofCodec failure)) : (liftM decoder : Decoder ε α).FailsOnly allowed := by
  intro input failure failed
  change (decoder input).mapError FromCodec.ofCodec = .error failure at failed
  cases read : decoder input with
  | error refused =>
    rw [read] at failed
    cases failed
    exact admitted refused
  | ok pair =>
    rw [read] at failed
    cases failed

theorem FailsOnly.bind {first : Decoder ε α} {next : α → Decoder ε β} (firstOnly : first.FailsOnly allowed)
    (nextOnly : ∀ value, (next value).FailsOnly allowed) : (first >>= next).FailsOnly allowed := by
  intro input failure failed
  rw [run_bind] at failed
  cases read : first input with
  | error refused =>
    rw [read] at failed
    cases failed
    exact firstOnly input _ read
  | ok pair =>
    rw [read] at failed
    exact nextOnly pair.1 pair.2 failure failed

end Codec.Decoder

/-- A failure that marks a coverage file as corrupt and as nothing else. -/
def CoverageFileError.MarksCorrupt (failure : CoverageFileError) : Prop :=
  failure.kinds = [.corruptFile]

namespace CoverageFile

open Codec Codec.Decoder

/-! ### Failures of the body -/

theorem failsOnly_codec {α : Type} (decoder : Decoder Error α) :
    (liftM decoder : Decoder CoverageFileError α).FailsOnly CoverageFileError.MarksCorrupt :=
  failsOnly_lift decoder fun _ => rfl

theorem decodeWords_failsOnly (size : Nat) : (decodeWords size).FailsOnly CoverageFileError.MarksCorrupt := by
  unfold decodeWords
  refine (failsOnly_codec _).bind fun count => ?_
  split
  · exact failsOnly_fail rfl
  · exact (failsOnly_codec _).bind fun _ => failsOnly_pure _

theorem decodeFunction_failsOnly (id : ModuleId) (previous : Option Name) :
    (decodeFunction id previous).FailsOnly CoverageFileError.MarksCorrupt := by
  unfold decodeFunction
  refine (failsOnly_codec _).bind fun nameBytes => (failsOnly_codec _).bind fun size => ?_
  split
  · exact failsOnly_fail rfl
  split
  · exact failsOnly_fail rfl
  refine (decodeWords_failsOnly size).bind fun instructions => (decodeWords_failsOnly size).bind fun covered => ?_
  split
  · exact failsOnly_fail rfl
  split
  · exact failsOnly_fail rfl
  · exact failsOnly_pure _

theorem decodeFunctions_failsOnly (id : ModuleId) :
    ∀ count previous, (decodeFunctions id count previous).FailsOnly CoverageFileError.MarksCorrupt
  | 0, _ => failsOnly_pure _
  | count + 1, previous => by
    rw [decodeFunctions]
    refine (decodeFunction_failsOnly id previous).bind fun entry => ?_
    obtain ⟨name, function⟩ := entry
    exact (decodeFunctions_failsOnly id count (some name)).bind fun _ => failsOnly_pure _

theorem decodeModule_failsOnly (previous : Option ModuleId) :
    (decodeModule previous).FailsOnly CoverageFileError.MarksCorrupt := by
  unfold decodeModule
  refine (failsOnly_codec _).bind fun bytes => (failsOnly_codec _).bind fun nameBytes => ?_
  dsimp only
  split
  all_goals
    split
    · exact failsOnly_fail rfl
    · exact (failsOnly_codec _).bind fun count => (decodeFunctions_failsOnly _ count none).bind fun _ =>
        failsOnly_pure _

theorem decodeModules_failsOnly :
    ∀ count previous, (decodeModules count previous).FailsOnly CoverageFileError.MarksCorrupt
  | 0, _ => failsOnly_pure _
  | count + 1, previous => by
    rw [decodeModules]
    refine (decodeModule_failsOnly previous).bind fun entry => ?_
    obtain ⟨id, table⟩ := entry
    exact (decodeModules_failsOnly count (some id)).bind fun _ => failsOnly_pure _

theorem decodeBody_failsOnly : decodeBody.FailsOnly CoverageFileError.MarksCorrupt := by
  unfold decodeBody decodeMap
  refine ((failsOnly_codec _).bind fun count => (decodeModules_failsOnly count none).bind fun _ =>
    failsOnly_pure _).bind fun map => failsOnly_atEnd.bind fun finished => ?_
  split
  · exact failsOnly_pure _
  · exact failsOnly_fail rfl

/-! ### Failures of a file -/

theorem header_names_other_version {file : List UInt8} :
    (¬ (file.length < magic.length + 2 ∨ file.take magic.length ≠ magic) ∧
        (file[magic.length]?.getD 0).toNat ≠ version) ↔
      6 ≤ file.length ∧ file.take 4 = magic ∧ file[4]? ≠ some 1 := by
  have magicLength : magic.length = 4 := by rw [CoverageFile.magic_eq]; rfl
  rw [magicLength, version]
  constructor
  · rintro ⟨header, other⟩
    refine ⟨by omega, by simpa using (not_or.mp header).2, fun one => other ?_⟩
    rw [one]
    rfl
  · rintro ⟨long, starts, other⟩
    refine ⟨by simp only [not_or, not_not]; exact ⟨by omega, starts⟩, fun one => other ?_⟩
    obtain ⟨fifth, found⟩ : ∃ fifth, file[4]? = some fifth := ⟨file[4], List.getElem?_eq_getElem (by omega)⟩
    rw [found, Option.getD_some] at one
    have isOne : fifth = 1 := UInt8.toNat_inj.mp one
    rw [found, isOne]

theorem body_after_failsOnly {read : Except CoverageFileError (List UInt8)} {failure : CoverageFileError}
    (readOnly : ∀ refused, read = .error refused → refused.MarksCorrupt)
    (failed : (do let body ← read; let decoded ← decodeBody body; pure decoded.1) = Except.error failure) :
    failure.MarksCorrupt := by
  cases read with
  | error refused =>
    cases failed
    exact readOnly _ rfl
  | ok body =>
    cases bodyRead : decodeBody body with
    | error refused =>
      have same : failure = refused := by
        simpa [bind, Except.bind, bodyRead] using failed.symm
      rw [same]
      exact decodeBody_failsOnly body refused bodyRead
    | ok result =>
      simp [bind, Except.bind, bodyRead, pure, Except.pure] at failed

theorem decode_error_kinds {file : List UInt8} {failure : CoverageFileError} (failed : decode file = .error failure) :
    failure.kinds = if 6 ≤ file.length ∧ file.take 4 = magic ∧ file[4]? ≠ some 1
      then [.unsupportedVersion] else [.corruptFile] := by
  unfold decode at failed
  dsimp only at failed
  split at failed
  · rename_i badHeader
    cases failed
    rw [if_neg (fun named => (header_names_other_version.mpr named).1 badHeader)]
    rfl
  split at failed
  · rename_i header other
    cases failed
    rw [if_pos (header_names_other_version.mp ⟨header, other⟩)]
    rfl
  rename_i header supported
  rw [if_neg (fun named => supported (header_names_other_version.mpr named).2)]
  split at failed
  · cases failed
    rfl
  split at failed
  · split at failed
    · exact body_after_failsOnly (fun _ read => by cases read) failed
    · exact body_after_failsOnly (fun _ read => by cases read; rfl) failed
  · exact body_after_failsOnly (fun _ read => by cases read) failed

end CoverageFile

/-- Reading a coverage file does one of two things, whatever its bytes. It gives a map that keeps
the invariant, with names of modules and functions of at most 64 bytes. Or it refuses the file
with a failure whose only kind is an unsupported version when the file is long enough for the
header, starts with the magic and names a version other than 1, and whose only kind is a corrupt
file otherwise; no failure of the encoding shows through. -/
theorem coverage_file_read_classified (file : List UInt8) :
    (∃ map, CoverageFile.decode file = .ok map ∧ map.WellFormed ∧
        ∀ entry ∈ map.modules, entry.1.name.bytes.length ≤ 64 ∧
          ∀ function ∈ entry.2, function.1.bytes.length ≤ 64) ∨
      ∃ failure, CoverageFile.decode file = .error failure ∧
        failure.kinds = if 6 ≤ file.length ∧ file.take 4 = CoverageFile.magic ∧ file[4]? ≠ some 1
          then [.unsupportedVersion] else [.corruptFile] := by
  cases decoded : CoverageFile.decode file with
  | ok map =>
    obtain ⟨-, fits⟩ := CoverageFile.decode_sorted decoded
    refine .inl ⟨map, rfl, CoverageFile.decode_wellFormed decoded, fun entry member => ?_⟩
    have moduleFits := fits.modules entry member
    exact ⟨moduleFits.name_le, fun function listed => (moduleFits.functions function listed).name_le⟩
  | error failure => exact .inr ⟨failure, rfl, CoverageFile.decode_error_kinds decoded⟩

end Testbench
