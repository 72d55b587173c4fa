import Mathlib
import Testbench.Proofs.Coverage.RoundTrip

/-!
Decoders that read exactly the encodings of their values. `Reads decoder valid encode` holds of
the primitive readers and is kept by the combinators, so a record format built from them reads back
what was written and has one encoding for each value.
-/

namespace Testbench.Codec.Decoder

variable {ε α β : Type} {decoder : Decoder ε α} {valid : α → Prop} {encode : α → List UInt8}

/-- The decoder succeeds exactly on the encoding of a valid value followed by anything, gives that
value and leaves what follows. -/
def Reads (decoder : Decoder ε α) (valid : α → Prop) (encode : α → List UInt8) : Prop :=
  ∀ input value rest, decoder input = .ok (value, rest) ↔ valid value ∧ input = encode value ++ rest

theorem Reads.read (reads : Reads decoder valid encode) {value : α} (holds : valid value)
    (rest : List UInt8) : decoder (encode value ++ rest) = .ok (value, rest) :=
  (reads _ _ _).mpr ⟨holds, rfl⟩

theorem Reads.bind_ok (reads : Reads decoder valid encode) {next : α → Decoder ε β} {input : List UInt8}
    {result : β × List UInt8} :
    (decoder >>= next) input = .ok result ↔
      ∃ value tail, valid value ∧ input = encode value ++ tail ∧ next value tail = .ok result := by
  constructor
  · intro done
    obtain ⟨value, tail, read, continued⟩ := Codec.Decoder.bind_ok done
    obtain ⟨holds, inputIs⟩ := (reads input value tail).mp read
    exact ⟨value, tail, holds, inputIs, continued⟩
  · rintro ⟨value, tail, holds, rfl, continued⟩
    rw [run_bind_of_ok (reads.read holds tail), continued]

theorem ite_bind_eq (condition : Prop) [Decidable condition] (first second : Decoder ε α)
    (next : α → Decoder ε β) :
    (if condition then first >>= next else second >>= next) = (if condition then first else second) >>= next := by
  split <;> rfl

theorem Reads.lift [FromCodec ε] {decoder : Decoder Error α} (reads : Reads decoder valid encode) :
    Reads (liftM decoder : Decoder ε α) valid encode := by
  intro input value rest
  rw [← reads input value rest]
  exact ⟨lift_ok, run_lift_of_ok⟩

theorem reads_byte : Reads byte (fun _ => True) (fun value => [value]) := by
  intro input value rest
  cases input with
  | nil => simp [byte]
  | cons first tail =>
    simp only [byte, Except.ok.injEq, Prod.mk.injEq, true_and, List.singleton_append,
      List.cons.injEq]

theorem reads_u32 : Reads u32 (· < 2 ^ 32) Encode.u32 := by
  intro input value rest
  rw [u32, littleEndian_ok]
  constructor
  · rintro ⟨bytes, lengthIs, rfl, rfl⟩
    have bound := Word.ofLittleEndian_lt bytes
    rw [lengthIs, Nat.pow_eq] at bound
    refine ⟨bound, ?_⟩
    rw [Encode.u32, ← lengthIs, toLittleEndian_ofLittleEndian]
  · rintro ⟨bound, rfl⟩
    refine ⟨Encode.u32 value, by simp [Encode.u32], rfl, ?_⟩
    rw [Encode.u32, Word.ofLittleEndian_toLittleEndian, Nat.pow_eq,
      Nat.mod_eq_of_lt (by norm_num at bound ⊢; omega)]

theorem reads_u64 : Reads u64 (· < 2 ^ 64) Encode.u64 := by
  intro input value rest
  constructor
  · exact u64_ok
  · rintro ⟨bound, rfl⟩
    have read := u64_encode value.toUInt64 rest
    rwa [Nat.toUInt64_eq, UInt64.toNat_ofNat', Nat.mod_eq_of_lt bound] at read

theorem reads_length {limit : Nat} (bounded : limit < UInt64.size) :
    Reads (length limit) (· ≤ limit) encodeVarUint := by
  intro input value rest
  constructor
  · intro read
    obtain ⟨within, -, inputIs⟩ := length_ok read
    exact ⟨within, inputIs⟩
  · rintro ⟨within, rfl⟩
    exact length_encodeVarUint within (by omega) rest

theorem reads_varBytes {limit : Nat} (bounded : limit < UInt64.size) :
    Reads (varBytes limit) (·.length ≤ limit) Encode.varBytes := by
  intro input value rest
  constructor
  · exact varBytes_ok
  · rintro ⟨short, rfl⟩
    exact varBytes_encode short (by omega) rest

theorem Reads.times (reads : Reads decoder valid encode) :
    ∀ count, Reads (times decoder count) (fun values => values.length = count ∧ ∀ value ∈ values, valid value)
      (fun values => values.flatMap encode)
  | 0, input, values, rest => by
    constructor
    · intro read
      cases read
      simp
    · rintro ⟨⟨lengthIs, -⟩, rfl⟩
      rw [List.length_eq_zero_iff] at lengthIs
      subst lengthIs
      rfl
  | count + 1, input, values, rest => by
    rw [Decoder.times, reads.bind_ok]
    constructor
    · rintro ⟨first, tail, holds, rfl, read⟩
      obtain ⟨later, afterLater, laterRead, done⟩ := Codec.Decoder.bind_ok read
      obtain ⟨⟨lengthIs, laterValid⟩, tailIs⟩ := (Reads.times reads count _ _ _).mp laterRead
      cases done
      refine ⟨⟨by rw [List.length_cons, lengthIs], ?_⟩, ?_⟩
      · intro value member
        rcases List.mem_cons.mp member with rfl | listed
        · exact holds
        · exact laterValid value listed
      · dsimp only at tailIs ⊢
        rw [tailIs, List.flatMap_cons, List.append_assoc]
    · rintro ⟨⟨lengthIs, allValid⟩, rfl⟩
      cases values with
      | nil => cases lengthIs
      | cons first later =>
        refine ⟨first, later.flatMap encode ++ rest, allValid first List.mem_cons_self,
          by dsimp only; rw [List.flatMap_cons, List.append_assoc], ?_⟩
        have laterValid : later.length = count ∧ ∀ value ∈ later, valid value :=
          ⟨Nat.succ_injective lengthIs, fun value member => allValid value (List.mem_cons_of_mem _ member)⟩
        rw [run_bind_of_ok ((Reads.times reads count).read laterValid rest)]
        rfl

theorem Reads.array [FromCodec ε] (reads : Reads decoder valid encode) {limit : Nat}
    (bounded : limit < UInt64.size) :
    Reads (array decoder limit) (fun values => values.length ≤ limit ∧ ∀ value ∈ values, valid value)
      (Encode.array encode) := by
  intro input values rest
  rw [Decoder.array, (reads_length bounded).lift.bind_ok]
  constructor
  · rintro ⟨count, tail, within, rfl, read⟩
    obtain ⟨⟨lengthIs, allValid⟩, rfl⟩ := (reads.times count _ _ _).mp read
    refine ⟨⟨lengthIs ▸ within, allValid⟩, ?_⟩
    rw [Encode.array, lengthIs, List.append_assoc]
  · rintro ⟨⟨within, allValid⟩, rfl⟩
    exact ⟨values.length, values.flatMap encode ++ rest, within,
      by rw [Encode.array, List.append_assoc], (reads.times values.length).read ⟨rfl, allValid⟩ rest⟩

end Testbench.Codec.Decoder
