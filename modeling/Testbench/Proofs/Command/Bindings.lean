import Mathlib
import Testbench.Command.Actions
import Testbench.Proofs.Address.Resolve
import Testbench.Proofs.Address.Named
import Testbench.Proofs.Address.Base58

/-!
Addresses bound with `--address` reach a run as they were given: each binding is stored as its
name and short address over the settings file's entry of that name, and read back when the run
starts.
-/

namespace Testbench

namespace TestSettings

/-- The settings after binding each binding in turn, as the `--address` flags do. -/
def bindAll (settings : TestSettings) (bindings : List Binding) : TestSettings :=
  bindings.foldl (fun changed binding => changed.bind binding.name binding.address.short) settings

theorem bindAll_cons (settings : TestSettings) (binding : Binding) (rest : List Binding) :
    settings.bindAll (binding :: rest) = (settings.bind binding.name binding.address.short).bindAll rest :=
  rfl

theorem mem_bind {settings : TestSettings} {name value : String} {entry : String × String} :
    entry ∈ (settings.bind name value).addresses ↔
      entry = (name, value) ∨ entry.1 ≠ name ∧ entry ∈ settings.addresses := by
  unfold bind
  split
  · rename_i present
    obtain ⟨named, namedMember, sameName⟩ := List.any_eq_true.mp present
    simp only [List.mem_map]
    constructor
    · rintro ⟨other, member, rfl⟩
      by_cases same : other.1 = name
      · exact .inl (by simp [same])
      · exact .inr ⟨by simp [same], by simpa [same] using member⟩
    · rintro (rfl | ⟨other, member⟩)
      · exact ⟨named, namedMember, by simp [beq_iff_eq.mp sameName]⟩
      · exact ⟨entry, member, by simp [other]⟩
  · rename_i absent
    have fresh : ∀ other ∈ settings.addresses, other.1 ≠ name := by
      intro other member same
      exact absent (List.any_eq_true.mpr ⟨other, member, by simp [same]⟩)
    simp only [List.mem_append, List.mem_singleton]
    constructor
    · rintro (member | rfl)
      · exact .inr ⟨fresh entry member, member⟩
      · exact .inl rfl
    · rintro (rfl | ⟨-, member⟩)
      · exact .inr rfl
      · exact .inl member

theorem mem_bindAll {bindings : List Binding} (distinct : (bindings.map (·.name)).Nodup)
    {settings : TestSettings} {entry : String × String} :
    entry ∈ (settings.bindAll bindings).addresses ↔
      (∃ binding ∈ bindings, entry = (binding.name, binding.address.short)) ∨
        entry.1 ∉ bindings.map (·.name) ∧ entry ∈ settings.addresses := by
  induction bindings generalizing settings with
  | nil => simp [bindAll]
  | cons binding rest ih =>
    rw [List.map_cons, List.nodup_cons] at distinct
    rw [bindAll_cons, ih distinct.2, mem_bind]
    constructor
    · rintro (⟨later, member, rfl⟩ | ⟨unbound, rfl | ⟨other, kept⟩⟩)
      · exact .inl ⟨later, List.mem_cons_of_mem _ member, rfl⟩
      · exact .inl ⟨binding, List.mem_cons_self, rfl⟩
      · refine .inr ⟨?_, kept⟩
        rw [List.map_cons, List.mem_cons, not_or]
        exact ⟨other, unbound⟩
    · rintro (⟨bound, member, rfl⟩ | ⟨unbound, kept⟩)
      · rcases List.mem_cons.mp member with rfl | later
        · exact .inr ⟨distinct.1, .inl rfl⟩
        · exact .inl ⟨bound, later, rfl⟩
      · rw [List.map_cons, List.mem_cons, not_or] at unbound
        exact .inr ⟨unbound.2, .inr ⟨unbound.1, kept⟩⟩

theorem mem_bindings {settings : TestSettings} {bindings : List Binding}
    (read : settings.bindings = .ok bindings) {binding : Binding} :
    binding ∈ bindings ↔
      ∃ value, (binding.name, value) ∈ settings.addresses ∧ Address.parse value = .ok binding.address := by
  unfold TestSettings.bindings at read
  have pairs := Except.mapM_eq_ok_iff.mp read
  constructor
  · intro member
    obtain ⟨⟨name, value⟩, sortedMember, step⟩ := forall₂_exists_mem_left pairs binding member
    dsimp only at step
    split at step
    · rename_i address parsed
      cases step
      exact ⟨value, List.mem_mergeSort.mp sortedMember, parsed⟩
    · cases step
  · rintro ⟨value, member, parsed⟩
    obtain ⟨result, resultMember, step⟩ :=
      forall₂_exists_mem_right pairs (binding.name, value) (List.mem_mergeSort.mpr member)
    dsimp only at step
    rw [parsed] at step
    cases step
    exact resultMember

theorem bindings_of_validate {settings : TestSettings} (checked : settings.validate = .ok ()) :
    ∃ bindings, settings.bindings = .ok bindings := by
  cases read : settings.bindings with
  | ok bindings => exact ⟨bindings, rfl⟩
  | error problem =>
    unfold validate at checked
    rw [read] at checked
    split_ifs at checked <;> cases checked

end TestSettings

namespace Actions

@[simp] theorem overrideSettings_addresses (reading : Flags.Reading) (settings : TestSettings) :
    (overrideSettings reading settings).addresses = settings.addresses :=
  rfl

theorem forIn_addresses
    {body : String → TestSettings × List String → Except String (ForInStep (TestSettings × List String))}
    (step : ∀ text changed seen result, body text (changed, seen) = .ok result →
      ∃ binding, Binding.parse text = .ok binding ∧ binding.name ∉ seen ∧
        result = .yield (changed.bind binding.name binding.address.short, binding.name :: seen)) :
    ∀ {texts : List String} {changed : TestSettings} {seen : List String} {final : TestSettings × List String},
      forIn texts (changed, seen) body = .ok final →
      ∃ bindings : List Binding,
        List.Forall₂ (fun text binding => Binding.parse text = .ok binding) texts bindings ∧
        (∀ binding ∈ bindings, binding.name ∉ seen) ∧ (bindings.map (·.name)).Nodup ∧
        final.1 = changed.bindAll bindings
  | [], changed, seen, final, done => by
    rw [List.forIn_nil] at done
    cases done
    exact ⟨[], .nil, by simp, .nil, rfl⟩
  | text :: rest, changed, seen, final, done => by
    rw [List.forIn_cons, Except.bind_eq_ok] at done
    obtain ⟨result, stepped, continued⟩ := done
    obtain ⟨binding, parsed, fresh, rfl⟩ := step text changed seen result stepped
    obtain ⟨bindings, pairs, unseen, distinct, bound⟩ := forIn_addresses step continued
    refine ⟨binding :: bindings, .cons parsed pairs, ?_, ?_, bound⟩
    · intro other member
      rcases List.mem_cons.mp member with rfl | later
      · exact fresh
      · exact fun seenBefore => unseen other later (List.mem_cons_of_mem _ seenBefore)
    · rw [List.map_cons, List.nodup_cons]
      refine ⟨?_, distinct⟩
      intro named
      obtain ⟨later, member, same⟩ := List.mem_map.mp named
      exact unseen later member (same ▸ List.mem_cons_self)

theorem applyFlags_spec {reading : Flags.Reading} {settings testing : TestSettings}
    (applied : applyFlags reading settings = .ok testing) :
    ∃ bindings : List Binding,
      List.Forall₂ (fun text binding => Binding.parse text = .ok binding)
        (reading.texts testFlags "address") bindings ∧
      (bindings.map (·.name)).Nodup ∧
      testing.addresses = (settings.bindAll bindings).addresses ∧ testing.validate = .ok () := by
  unfold applyFlags at applied
  rw [Except.bind_eq_ok] at applied
  obtain ⟨⟨changed, seen⟩, loop, checked⟩ := applied
  have run := forIn_addresses ?step loop
  · obtain ⟨bindings, pairs, -, distinct, bound⟩ := run
    simp only [Except.bind_eq_ok, Except.mapError_eq_ok, pure, Except.pure, Except.ok.injEq] at checked
    obtain ⟨⟨⟩, valid, rfl⟩ := checked
    exact ⟨bindings, pairs, distinct, by rw [overrideSettings_addresses, ← bound], valid⟩
  intro text changed seen result stepped
  simp only [Except.bind_eq_ok, Except.mapError_eq_ok] at stepped
  obtain ⟨binding, parsed, continued⟩ := stepped
  split at continued
  · cases continued
  · rename_i unseen
    cases continued
    exact ⟨binding, parsed, by simpa using unseen, rfl⟩

/-- Addresses given with `--address` reach the run. After a successful `applyFlags` the table holds
each flag's binding as its name and short address, and the bindings of the settings can be read;
the binding of each flag is among them and is the only one of its name, and every binding of a
name no flag binds is one the settings file gave. -/
theorem flag_bindings_reach_run {reading : Flags.Reading} {settings testing : TestSettings}
    (applied : applyFlags reading settings = .ok testing) :
    ∃ bindings, testing.bindings = .ok bindings ∧
      (∀ text ∈ reading.texts testFlags "address", ∃ binding, Binding.parse text = .ok binding ∧
        (binding.name, binding.address.short) ∈ testing.addresses ∧
        binding ∈ bindings ∧ ∀ other ∈ bindings, other.name = binding.name → other = binding) ∧
      (∀ other ∈ bindings, (∀ text ∈ reading.texts testFlags "address", ∀ binding,
          Binding.parse text = .ok binding → binding.name ≠ other.name) →
        ∃ value, (other.name, value) ∈ settings.addresses ∧ Address.parse value = .ok other.address) := by
  obtain ⟨flagged, pairs, distinct, addresses, valid⟩ := applyFlags_spec applied
  obtain ⟨bindings, read⟩ := TestSettings.bindings_of_validate valid
  have entries : ∀ {entry : String × String}, entry ∈ testing.addresses ↔
      (∃ binding ∈ flagged, entry = (binding.name, binding.address.short)) ∨
        entry.1 ∉ flagged.map (·.name) ∧ entry ∈ settings.addresses := by
    intro entry
    rw [addresses]
    exact TestSettings.mem_bindAll distinct
  refine ⟨bindings, read, ?_, ?_⟩
  · intro text member
    obtain ⟨binding, flaggedMember, parsed⟩ := forall₂_exists_mem_right pairs text member
    have stored : (binding.name, binding.address.short) ∈ testing.addresses :=
      entries.mpr (.inl ⟨binding, flaggedMember, rfl⟩)
    refine ⟨binding, parsed, stored, (TestSettings.mem_bindings read).mpr ⟨_, stored, Address.parse_short _⟩, ?_⟩
    intro other otherMember sameName
    obtain ⟨value, entry, otherParsed⟩ := (TestSettings.mem_bindings read).mp otherMember
    rcases entries.mp entry with ⟨bound, boundMember, same⟩ | ⟨unbound, -⟩
    · obtain ⟨boundName, rfl⟩ := Prod.mk.inj same
      have : bound = binding :=
        List.inj_on_of_nodup_map distinct boundMember flaggedMember (boundName ▸ sameName)
      subst this
      rw [Address.parse_short, Except.ok.injEq] at otherParsed
      obtain ⟨name, address⟩ := other
      cases sameName
      cases otherParsed
      rfl
    · exact absurd (List.mem_map.mpr ⟨binding, flaggedMember, sameName.symm⟩) unbound
  · intro other otherMember unflagged
    obtain ⟨value, entry, otherParsed⟩ := (TestSettings.mem_bindings read).mp otherMember
    rcases entries.mp entry with ⟨bound, boundMember, same⟩ | ⟨-, kept⟩
    · obtain ⟨text, textMember, parsed⟩ := forall₂_exists_mem_left pairs bound boundMember
      exact absurd (Prod.mk.inj same).1.symm (unflagged text textMember bound parsed)
    · exact ⟨value, kept, otherParsed⟩

end Actions

/-- The address syntaxes read back, and so command-line bindings reach a run unchanged: a short
address and a checked base58 address read as the address written, the latter over any base58 codec
that reads back what it writes and writes only base58 digits; the text of a binding with a plain
name reads as the binding; and the bindings a run takes, read again from the short addresses stored
in the table, are those of the `--address` flags over those of the settings file. -/
theorem address_syntaxes_round_trip :
    (∀ address : Address, Address.parse address.short = .ok address) ∧
    (∀ address : Address, Address.parse address.toBase58 = .ok address) ∧
    (∀ codec : Base58.Codec,
      (∀ bytes : List UInt8, bytes ≠ [] → codec.decode (codec.encode bytes) = .ok bytes) →
      (∀ bytes : List UInt8, ∀ char ∈ (codec.encode bytes).toList, char ∈ Base58.alphabet) →
      ∀ address : Address, Address.parseWith codec (address.toBase58With codec) = .ok address) ∧
    (∀ binding : Binding, binding.name ≠ "" → Space.trim binding.name = binding.name →
      '=' ∉ binding.name.toList → Binding.parse binding.text = .ok binding) ∧
    (∀ (reading : Flags.Reading) (settings testing : TestSettings),
      Actions.applyFlags reading settings = .ok testing →
      ∃ bindings, testing.bindings = .ok bindings ∧
        (∀ text ∈ reading.texts Actions.testFlags "address", ∃ binding, Binding.parse text = .ok binding ∧
          (binding.name, binding.address.short) ∈ testing.addresses ∧
          binding ∈ bindings ∧ ∀ other ∈ bindings, other.name = binding.name → other = binding) ∧
        (∀ other ∈ bindings, (∀ text ∈ reading.texts Actions.testFlags "address", ∀ binding,
            Binding.parse text = .ok binding → binding.name ≠ other.name) →
          ∃ value, (other.name, value) ∈ settings.addresses ∧ Address.parse value = .ok other.address)) :=
  ⟨Address.parse_short, Address.parse_toBase58, fun _ inverts digits =>
    Address.parseWith_toBase58With inverts digits, fun _ => Binding.parse_text,
    fun _ _ _ => Actions.flag_bindings_reach_run⟩

/-- The standard codec meets the conditions on a codec, and the zero address reads back from its
checked text over it. -/
theorem zero_address_round_trips :
    (∀ bytes : List UInt8, bytes ≠ [] →
      Base58.standard.decode (Base58.standard.encode bytes) = .ok bytes) ∧
    (∀ bytes : List UInt8, ∀ char ∈ (Base58.standard.encode bytes).toList, char ∈ Base58.alphabet) ∧
    Address.parseWith Base58.standard (Address.zero.toBase58With Base58.standard) = .ok Address.zero :=
  ⟨Base58.standard_inverts, Base58.mem_alphabet_encode,
    address_syntaxes_round_trip.2.2.1 Base58.standard Base58.standard_inverts Base58.mem_alphabet_encode
      Address.zero⟩

end Testbench
