import Mathlib
import Testbench.Proofs.Module.Linkable

/-!
Resolving named addresses fails exactly when a name repeats or a declared name cannot be settled,
and then names the least such name; otherwise each name takes its default or its binding, the names
come out sorted and once each, and nothing depends on the order of the inputs.
-/

namespace Testbench

/-! ### Names given twice -/

theorem firstDuplicate_go_eq_none_iff :
    ∀ (seen names : List String),
      firstDuplicate.go seen names = none ↔ names.Nodup ∧ ∀ name ∈ names, name ∉ seen
  | seen, [] => by simp [firstDuplicate.go]
  | seen, name :: rest => by
      rw [firstDuplicate.go]
      by_cases met : seen.contains name = true
      · simp only [met, if_true, reduceCtorEq, false_iff, not_and]
        intro _ fresh
        exact absurd (List.contains_iff_mem.mp met) (fresh name List.mem_cons_self)
      · simp only [met, Bool.false_eq_true, if_false]
        rw [firstDuplicate_go_eq_none_iff (name :: seen) rest]
        simp only [List.contains_iff_mem] at met
        simp only [List.nodup_cons, List.mem_cons, forall_eq_or_imp, not_or]
        constructor
        · rintro ⟨restNodup, fresh⟩
          exact ⟨⟨fun inRest => (fresh name inRest).1 rfl, restNodup⟩, met,
            fun other member => ((fresh other member).2)⟩
        · rintro ⟨⟨notInRest, restNodup⟩, -, fresh⟩
          exact ⟨restNodup, fun other member =>
            ⟨fun same => notInRest (same ▸ member), fresh other member⟩⟩

theorem firstDuplicate_eq_none_iff (names : List String) : firstDuplicate names = none ↔ names.Nodup := by
  rw [firstDuplicate, firstDuplicate_go_eq_none_iff]
  simp

/-! ### One declared name -/

namespace Declaration

/-- The declared name's default differs from the address it is bound to. -/
def Conflicts (declaration : Declaration) (bindings : List Binding) (default bound : Address) : Prop :=
  declaration.default = some default ∧ ⟨declaration.name, bound⟩ ∈ bindings ∧ default ≠ bound

/-- The declared name has neither a default nor a binding. -/
def Unbound (declaration : Declaration) (bindings : List Binding) : Prop :=
  declaration.default = none ∧ ∀ binding ∈ bindings, binding.name ≠ declaration.name

/-- The declared name cannot be settled. -/
def Fails (declaration : Declaration) (bindings : List Binding) : Prop :=
  (∃ default bound, declaration.Conflicts bindings default bound) ∨ declaration.Unbound bindings

/-- The address a declared name settles to: its default, or its binding when it has none. -/
def Settles (declaration : Declaration) (bindings : List Binding) (address : Address) : Prop :=
  declaration.default = some address ∨
    (declaration.default = none ∧ ⟨declaration.name, address⟩ ∈ bindings)

end Declaration

section Bindings

variable {bindings : List Binding}

theorem find?_name_eq_none {name : String} :
    bindings.find? (·.name == name) = none ↔ ∀ binding ∈ bindings, binding.name ≠ name := by
  simp [List.find?_eq_none]

theorem find?_name_eq_some (unique : (bindings.map (·.name)).Nodup) {name : String} {binding : Binding} :
    bindings.find? (·.name == name) = some binding ↔ binding ∈ bindings ∧ binding.name = name := by
  constructor
  · intro found
    exact ⟨List.mem_of_find?_eq_some found, by simpa using List.find?_some found⟩
  · rintro ⟨member, named⟩
    obtain ⟨other, otherFound⟩ : ∃ other, bindings.find? (·.name == name) = some other :=
      Option.isSome_iff_exists.mp (List.find?_isSome.mpr ⟨binding, member, by simp [named]⟩)
    have otherNamed : other.name = name := by simpa using List.find?_some otherFound
    rw [otherFound, List.inj_on_of_nodup_map unique (List.mem_of_find?_eq_some otherFound) member
      (otherNamed.trans named.symm)]

end Bindings

section Declared

variable {bindings : List Binding} {declaration : Declaration}

theorem resolveDeclared_eq_error (unique : (bindings.map (·.name)).Nodup) {failure : ResolveError} :
    resolveDeclared bindings declaration = .error failure ↔
      (∃ default bound, declaration.Conflicts bindings default bound ∧
        failure = .conflicting declaration.name default bound) ∨
      (declaration.Unbound bindings ∧ failure = .unresolved declaration.name) := by
  unfold resolveDeclared Declaration.Conflicts Declaration.Unbound
  cases defaultIs : declaration.default with
  | none =>
    cases found : bindings.find? (·.name == declaration.name) with
    | none =>
      simp only [Option.map_none, reduceCtorEq, false_and, exists_false, true_and, false_or,
        Except.error.injEq]
      rw [← find?_name_eq_none]
      simp [found, eq_comm]
    | some binding =>
      have member := (find?_name_eq_some unique).mp found
      simp only [Option.map_some, reduceCtorEq, false_and, exists_false, true_and, false_or]
      constructor
      · intro stopped
        cases stopped
      · rintro ⟨unbound, -⟩
        exact absurd member.2 (unbound binding member.1)
  | some default =>
    cases found : bindings.find? (·.name == declaration.name) with
    | none =>
      simp only [Option.map_none]
      constructor
      · intro stopped
        cases stopped
      · rintro (⟨default', bound, ⟨-, inBindings, -⟩, -⟩ | ⟨unbound, -⟩)
        · exact absurd rfl ((find?_name_eq_none.mp found) _ inBindings)
        · cases unbound.1
    | some binding =>
      have member := (find?_name_eq_some unique).mp found
      have boundOf : ∀ bound, ⟨declaration.name, bound⟩ ∈ bindings → bound = binding.address := by
        intro bound inBindings
        have boundIs := (find?_name_eq_some unique).mpr ⟨inBindings, rfl⟩
        rw [found] at boundIs
        cases boundIs
        rfl
      simp only [Option.map_some]
      split
      · rename_i same
        simp only [beq_iff_eq] at same
        constructor
        · intro stopped
          cases stopped
        · rintro (⟨default', bound, ⟨defaultIs, inBindings, differs⟩, -⟩ | ⟨unbound, -⟩)
          · cases defaultIs
            exact absurd (same.trans (boundOf bound inBindings).symm) differs
          · cases unbound.1
      · rename_i differs
        simp only [beq_iff_eq] at differs
        constructor
        · intro stopped
          cases stopped
          refine Or.inl ⟨default, binding.address, ⟨rfl, ?_, differs⟩, rfl⟩
          rw [← member.2]
          exact member.1
        · rintro (⟨default', bound, ⟨defaultIs, inBindings, -⟩, rfl⟩ | ⟨unbound, -⟩)
          · cases defaultIs
            rw [boundOf bound inBindings]
          · cases unbound.1

theorem resolveDeclared_eq_ok {entry : Binding} (settled : resolveDeclared bindings declaration = .ok entry) :
    entry.name = declaration.name ∧ declaration.Settles bindings entry.address := by
  unfold resolveDeclared at settled
  unfold Declaration.Settles
  cases defaultIs : declaration.default with
  | none =>
    rw [defaultIs] at settled
    cases found : bindings.find? (·.name == declaration.name) with
    | none => simp [found] at settled
    | some binding =>
      simp only [found, Option.map_some, Except.ok.injEq] at settled
      subst settled
      have named : binding.name = declaration.name := by simpa using List.find?_some found
      refine ⟨rfl, Or.inr ⟨rfl, ?_⟩⟩
      rw [← named]
      exact List.mem_of_find?_eq_some found
  | some default =>
    rw [defaultIs] at settled
    cases found : bindings.find? (·.name == declaration.name) with
    | none =>
      simp only [found, Option.map_none, Except.ok.injEq] at settled
      subst settled
      exact ⟨rfl, Or.inl rfl⟩
    | some binding =>
      simp only [found, Option.map_some] at settled
      split at settled
      · cases settled
        exact ⟨rfl, Or.inl rfl⟩
      · cases settled

theorem resolveDeclared_ok_iff (unique : (bindings.map (·.name)).Nodup) :
    (∃ entry, resolveDeclared bindings declaration = .ok entry) ↔ ¬ declaration.Fails bindings := by
  rw [Declaration.Fails]
  cases settled : resolveDeclared bindings declaration with
  | ok entry => 
    have noError : ∀ failure, resolveDeclared bindings declaration ≠ .error failure := by
      intro failure stopped
      rw [settled] at stopped
      cases stopped
    simp only [Except.ok.injEq, exists_eq', true_iff]
    rintro (⟨default, bound, conflicts⟩ | unbound)
    · exact noError _ ((resolveDeclared_eq_error unique).mpr (Or.inl ⟨default, bound, conflicts, rfl⟩))
    · exact noError _ ((resolveDeclared_eq_error unique).mpr (Or.inr ⟨unbound, rfl⟩))
  | error failure =>
    simp only [reduceCtorEq, exists_false, false_iff, not_not]
    rcases (resolveDeclared_eq_error unique).mp settled with ⟨default, bound, conflicts, -⟩ | ⟨unbound, -⟩
    · exact Or.inl ⟨default, bound, conflicts⟩
    · exact Or.inr unbound

end Declared

/-! ### Sorting by name -/

section ByName

variable {α : Type} (key : α → String)

theorem pairwise_mergeSort_key {items : List α} (unique : (items.map key).Nodup) :
    (items.mergeSort fun a b => decide (key a ≤ key b)).Pairwise fun a b => key a < key b := by
  have sorted := @List.pairwise_mergeSort _ (fun a b => decide (key a ≤ key b))
    (fun a b c first second => by simp only [decide_eq_true_eq] at *; exact le_trans first second)
    (fun a b => by simpa using le_total (key a) (key b)) items
  have distinct : ((items.mergeSort fun a b => decide (key a ≤ key b)).map key).Nodup :=
    ((List.mergeSort_perm items _).map key).nodup_iff.mpr unique
  refine (sorted.and (List.pairwise_map.mp distinct)).imp fun ⟨ordered, different⟩ => ?_
  simp only [decide_eq_true_eq] at ordered
  exact lt_of_le_of_ne ordered different

theorem mergeSort_key_eq_of_perm {items others : List α} (perm : items.Perm others)
    (unique : (items.map key).Nodup) :
    items.mergeSort (fun a b => decide (key a ≤ key b)) =
      others.mergeSort (fun a b => decide (key a ≤ key b)) := by
  refine @List.Perm.eq_of_pairwise _ (fun a b => key a < key b) _ _
    (fun a b _ _ before after => absurd (lt_trans before after) (lt_irrefl _))
    (pairwise_mergeSort_key key unique) (pairwise_mergeSort_key key ((perm.map key).nodup_iff.mp unique)) ?_
  exact ((List.mergeSort_perm items _).trans perm).trans (List.mergeSort_perm others _).symm

end ByName

theorem Except.mapM_eq_error_iff {ε α β : Type} {step : α → Except ε β} {failure : ε} :
    ∀ {items : List α}, items.mapM step = .error failure ↔
      ∃ before item after, items = before ++ item :: after ∧
        (∀ earlier ∈ before, ∃ result, step earlier = .ok result) ∧ step item = .error failure
  | [] => by simp [pure, Except.pure]
  | first :: rest => by
    simp only [List.mapM_cons]
    cases firstIs : step first with
    | error stop =>
      simp only [bind, Except.bind, Except.error.injEq]
      constructor
      · rintro rfl
        exact ⟨[], first, rest, rfl, fun _ member => (by cases member), firstIs⟩
      · rintro ⟨before, item, after, split, earlierOk, itemFails⟩
        cases before with
        | nil =>
          cases split
          rw [firstIs] at itemFails
          cases itemFails
          rfl
        | cons head others =>
          cases split
          obtain ⟨result, ok⟩ := earlierOk first List.mem_cons_self
          rw [firstIs] at ok
          cases ok
    | ok value =>
      simp only [bind, Except.bind]
      have restFails : ∀ {before item after}, first :: rest = before ++ item :: after →
          (∀ earlier ∈ before, ∃ result, step earlier = .ok result) → step item = .error failure →
          rest.mapM step = .error failure := by
        intro before item after split earlierOk itemFails
        cases before with
        | nil =>
          cases split
          rw [firstIs] at itemFails
          cases itemFails
        | cons head others =>
          cases split
          exact Except.mapM_eq_error_iff.mpr ⟨others, item, after, rfl,
            fun earlier member => earlierOk earlier (List.mem_cons_of_mem _ member), itemFails⟩
      cases restIs : rest.mapM step with
      | error stop =>
        simp only [Except.error.injEq]
        constructor
        · rintro rfl
          obtain ⟨before, item, after, split, earlierOk, itemFails⟩ := Except.mapM_eq_error_iff.mp restIs
          refine ⟨first :: before, item, after, by rw [split]; rfl, ?_, itemFails⟩
          intro earlier member
          rcases List.mem_cons.mp member with rfl | later
          · exact ⟨value, firstIs⟩
          · exact earlierOk earlier later
        · rintro ⟨before, item, after, split, earlierOk, itemFails⟩
          have failed := restFails split earlierOk itemFails
          rw [restIs] at failed
          cases failed
          rfl
      | ok values =>
        simp only [pure, Except.pure, reduceCtorEq, false_iff, not_exists, not_and]
        intro before item after split earlierOk itemFails
        have failed := restFails split earlierOk itemFails
        rw [restIs] at failed
        cases failed

theorem forall₂_exists_mem_right {α β : Type} {related : α → β → Prop} {items : List α}
    {results : List β} (pairs : List.Forall₂ related items results) :
    ∀ item ∈ items, ∃ result ∈ results, related item result := by
  induction pairs with
  | nil => intro item member; cases member
  | cons first _ ih =>
    intro item member
    rcases List.mem_cons.mp member with rfl | later
    · exact ⟨_, List.mem_cons_self, first⟩
    · obtain ⟨result, inResults, related⟩ := ih item later
      exact ⟨result, List.mem_cons_of_mem _ inResults, related⟩

theorem forall₂_exists_mem_left {α β : Type} {related : α → β → Prop} {items : List α}
    {results : List β} (pairs : List.Forall₂ related items results) :
    ∀ result ∈ results, ∃ item ∈ items, related item result := by
  induction pairs with
  | nil => intro result member; cases member
  | cons first _ ih =>
    intro result member
    rcases List.mem_cons.mp member with rfl | later
    · exact ⟨_, List.mem_cons_self, first⟩
    · obtain ⟨item, inItems, related⟩ := ih result later
      exact ⟨item, List.mem_cons_of_mem _ inItems, related⟩

/-! ### Resolution -/

section Resolve

variable {declarations : List Declaration} {bindings : List Binding}

/-- The bindings of names that no declaration has. -/
def undeclaredBindings (declarations : List Declaration) (bindings : List Binding) : List Binding :=
  bindings.filter fun binding => !declarations.any (·.name == binding.name)

theorem mem_undeclaredBindings {binding : Binding} :
    binding ∈ undeclaredBindings declarations bindings ↔
      binding ∈ bindings ∧ ∀ declaration ∈ declarations, declaration.name ≠ binding.name := by
  simp [undeclaredBindings]

theorem resolve_of_nodup (boundOnce : (bindings.map (·.name)).Nodup)
    (declaredOnce : (declarations.map (·.name)).Nodup) :
    resolve declarations bindings =
      ((declarations.mergeSort fun a b => decide (a.name ≤ b.name)).mapM (resolveDeclared bindings)) >>=
        fun declared => pure ⟨(declared ++ undeclaredBindings declarations bindings).mergeSort
          fun a b => decide (a.name ≤ b.name)⟩ := by
  unfold resolve
  rw [(firstDuplicate_eq_none_iff _).mpr boundOnce, (firstDuplicate_eq_none_iff _).mpr declaredOnce]
  rfl

theorem resolve_of_repeated
    (repeated : ¬ (bindings.map (·.name)).Nodup ∨ ¬ (declarations.map (·.name)).Nodup) :
    ∃ name, resolve declarations bindings = .error (.duplicate name) := by
  unfold resolve
  cases boundTwice : firstDuplicate (bindings.map (·.name)) with
  | some name => exact ⟨name, rfl⟩
  | none =>
    have declaredTwice : ¬ (declarations.map (·.name)).Nodup :=
      repeated.resolve_left (not_not.mpr ((firstDuplicate_eq_none_iff _).mp boundTwice))
    cases declaredFirst : firstDuplicate (declarations.map (·.name)) with
    | some name => exact ⟨name, rfl⟩
    | none => exact absurd ((firstDuplicate_eq_none_iff _).mp declaredFirst) declaredTwice

theorem resolve_eq_ok {resolution : Resolution} (resolved : resolve declarations bindings = .ok resolution) :
    (bindings.map (·.name)).Nodup ∧ (declarations.map (·.name)).Nodup ∧ ∃ declared,
      List.Forall₂ (fun declaration entry => resolveDeclared bindings declaration = .ok entry)
        (declarations.mergeSort fun a b => decide (a.name ≤ b.name)) declared ∧
      resolution.entries = (declared ++ undeclaredBindings declarations bindings).mergeSort
        fun a b => decide (a.name ≤ b.name) := by
  by_cases once : (bindings.map (·.name)).Nodup ∧ (declarations.map (·.name)).Nodup
  · obtain ⟨boundOnce, declaredOnce⟩ := once
    rw [resolve_of_nodup boundOnce declaredOnce, Except.bind_eq_ok] at resolved
    obtain ⟨declared, settled, listed⟩ := resolved
    cases listed
    exact ⟨boundOnce, declaredOnce, declared, Except.mapM_eq_ok_iff.mp settled, rfl⟩
  · obtain ⟨name, refused⟩ := resolve_of_repeated (not_and_or.mp once)
    rw [refused] at resolved
    cases resolved

theorem resolve_fails_iff :
    (∃ failure, resolve declarations bindings = .error failure) ↔
      ¬ (bindings.map (·.name)).Nodup ∨ ¬ (declarations.map (·.name)).Nodup ∨
        ∃ declaration ∈ declarations, declaration.Fails bindings := by
  by_cases once : (bindings.map (·.name)).Nodup ∧ (declarations.map (·.name)).Nodup
  · obtain ⟨boundOnce, declaredOnce⟩ := once
    simp only [boundOnce, declaredOnce, not_true_eq_false, false_or]
    rw [resolve_of_nodup boundOnce declaredOnce]
    have settles := @Except.mapM_ok_iff_forall _ _ _ (resolveDeclared bindings)
      (declarations.mergeSort fun a b => decide (a.name ≤ b.name))
    simp only [List.mem_mergeSort, resolveDeclared_ok_iff boundOnce] at settles
    cases settled : (declarations.mergeSort fun a b => decide (a.name ≤ b.name)).mapM
      (resolveDeclared bindings) with
    | ok declared =>
      rw [settled] at settles
      simp only [bind, Except.bind, pure, Except.pure, reduceCtorEq, exists_false, false_iff, not_exists,
        not_and]
      exact fun declaration member fails => settles.mp ⟨declared, rfl⟩ declaration member fails
    | error failure =>
      rw [settled] at settles
      simp only [bind, Except.bind]
      refine ⟨fun _ => ?_, fun _ => ⟨failure, rfl⟩⟩
      by_contra settledAll
      push Not at settledAll
      obtain ⟨declared, ok⟩ := settles.mpr settledAll
      cases ok
  · obtain ⟨name, refused⟩ := resolve_of_repeated (not_and_or.mp once)
    rw [refused]
    simp only [Except.error.injEq, exists_eq', true_iff]
    rcases not_and_or.mp once with twice | twice
    · exact Or.inl twice
    · exact Or.inr (Or.inl twice)

theorem resolve_error_least (boundOnce : (bindings.map (·.name)).Nodup)
    (declaredOnce : (declarations.map (·.name)).Nodup) {failure : ResolveError}
    (failed : resolve declarations bindings = .error failure) :
    ∃ declaration ∈ declarations,
      (∀ other ∈ declarations, other.Fails bindings → declaration.name ≤ other.name) ∧
      ((∃ default bound, declaration.Conflicts bindings default bound ∧
          failure = .conflicting declaration.name default bound) ∨
        (declaration.Unbound bindings ∧ failure = .unresolved declaration.name)) := by
  rw [resolve_of_nodup boundOnce declaredOnce] at failed
  have stopped : (declarations.mergeSort fun a b => decide (a.name ≤ b.name)).mapM
      (resolveDeclared bindings) = .error failure := by
    cases settled : (declarations.mergeSort fun a b => decide (a.name ≤ b.name)).mapM
      (resolveDeclared bindings) with
    | ok declared =>
      rw [settled] at failed
      cases failed
    | error stop =>
      rw [settled] at failed
      cases failed
      rfl
  obtain ⟨before, declaration, after, split, earlierOk, fails⟩ := Except.mapM_eq_error_iff.mp stopped
  have sorted := pairwise_mergeSort_key Declaration.name declaredOnce
  rw [split] at sorted
  have member : declaration ∈ declarations := by
    rw [← @List.mem_mergeSort _ (fun a b => decide (a.name ≤ b.name)), split]
    simp
  refine ⟨declaration, member, fun other otherMember otherFails => ?_,
    (resolveDeclared_eq_error boundOnce).mp fails⟩
  have sortedMember : other ∈ before ++ declaration :: after := by
    rw [← split, List.mem_mergeSort]
    exact otherMember
  rcases List.mem_append.mp sortedMember with early | late
  · exact absurd otherFails ((resolveDeclared_ok_iff boundOnce).mp (earlierOk other early))
  · rcases List.mem_cons.mp late with rfl | later
    · exact le_rfl
    · exact le_of_lt (List.rel_of_pairwise_cons (List.pairwise_append.mp sorted).2.1 later)

theorem Declaration.Settles.unique {declaration : Declaration} {address other : Address}
    (boundOnce : (bindings.map (·.name)).Nodup) (settles : declaration.Settles bindings address)
    (settlesOther : declaration.Settles bindings other) : address = other := by
  rcases settles with byDefault | ⟨noDefault, bound⟩
  · rcases settlesOther with otherDefault | ⟨otherNoDefault, -⟩
    · exact Option.some.inj (byDefault.symm.trans otherDefault)
    · rw [byDefault] at otherNoDefault
      cases otherNoDefault
  · rcases settlesOther with otherDefault | ⟨-, otherBound⟩
    · rw [noDefault] at otherDefault
      cases otherDefault
    · have same := List.inj_on_of_nodup_map boundOnce bound otherBound rfl
      simp only [Binding.mk.injEq, true_and] at same
      exact same

theorem names_of_settled {sorted : List Declaration} {declared : List Binding}
    (settled : List.Forall₂ (fun declaration entry => resolveDeclared bindings declaration = .ok entry)
      sorted declared) : declared.map (·.name) = sorted.map (·.name) := by
  induction settled with
  | nil => rfl
  | cons first _ ih =>
    rw [List.map_cons, List.map_cons, ih, (resolveDeclared_eq_ok first).1]

theorem settled_names_nodup (boundOnce : (bindings.map (·.name)).Nodup)
    (declaredOnce : (declarations.map (·.name)).Nodup) {declared : List Binding}
    (settled : List.Forall₂ (fun declaration entry => resolveDeclared bindings declaration = .ok entry)
      (declarations.mergeSort fun a b => decide (a.name ≤ b.name)) declared) :
    ((declared ++ undeclaredBindings declarations bindings).map (·.name)).Nodup := by
  rw [List.map_append, names_of_settled settled, List.nodup_append]
  refine ⟨((List.mergeSort_perm _ _).map _).nodup_iff.mpr declaredOnce,
    (List.filter_sublist.map _).nodup boundOnce, ?_⟩
  intro name declaredName other undeclaredName same
  obtain ⟨declaration, member, rfl⟩ := List.mem_map.mp declaredName
  obtain ⟨binding, bound, rfl⟩ := List.mem_map.mp undeclaredName
  exact (mem_undeclaredBindings.mp bound).2 declaration (List.mem_mergeSort.mp member) same

section Resolved

variable {resolution : Resolution} (resolved : resolve declarations bindings = .ok resolution)
include resolved

theorem resolve_entries_mem {entry : Binding} :
    entry ∈ resolution.entries ↔
      (∃ declaration ∈ declarations, entry.name = declaration.name ∧
        declaration.Settles bindings entry.address) ∨
      (entry ∈ bindings ∧ ∀ declaration ∈ declarations, declaration.name ≠ entry.name) := by
  obtain ⟨boundOnce, -, declared, settled, listed⟩ := resolve_eq_ok resolved
  rw [listed, List.mem_mergeSort, List.mem_append, mem_undeclaredBindings]
  refine or_congr_left ⟨fun inDeclared => ?_, ?_⟩
  · obtain ⟨declaration, member, settles⟩ := forall₂_exists_mem_left settled entry inDeclared
    exact ⟨declaration, List.mem_mergeSort.mp member, resolveDeclared_eq_ok settles⟩
  · rintro ⟨declaration, member, named, settles⟩
    obtain ⟨found, inDeclared, settlesFound⟩ :=
      forall₂_exists_mem_right settled declaration (List.mem_mergeSort.mpr member)
    obtain ⟨foundNamed, foundSettles⟩ := resolveDeclared_eq_ok settlesFound
    have sameAddress := foundSettles.unique boundOnce settles
    have same : found = entry := by
      cases found
      cases entry
      simp_all
    exact same ▸ inDeclared

theorem resolve_declared_settles :
    ∀ declaration ∈ declarations, ∃ address, declaration.Settles bindings address := by
  obtain ⟨-, -, declared, settled, -⟩ := resolve_eq_ok resolved
  intro declaration member
  obtain ⟨entry, -, settles⟩ := forall₂_exists_mem_right settled declaration (List.mem_mergeSort.mpr member)
  exact ⟨entry.address, (resolveDeclared_eq_ok settles).2⟩

theorem resolve_entries_nodup : (resolution.entries.map (·.name)).Nodup := by
  obtain ⟨boundOnce, declaredOnce, declared, settled, listed⟩ := resolve_eq_ok resolved
  rw [listed]
  exact ((List.mergeSort_perm _ _).map _).nodup_iff.mpr (settled_names_nodup boundOnce declaredOnce settled)

theorem resolve_lookup_eq_some {name : String} {address : Address} :
    resolution.lookup name = some address ↔ ⟨name, address⟩ ∈ resolution.entries := by
  unfold Resolution.lookup
  constructor
  · intro found
    obtain ⟨entry, entryFound, rfl⟩ := Option.map_eq_some_iff.mp found
    obtain ⟨member, rfl⟩ := (find?_name_eq_some (resolve_entries_nodup resolved)).mp entryFound
    exact member
  · intro member
    rw [(find?_name_eq_some (resolve_entries_nodup resolved)).mpr ⟨member, rfl⟩]
    rfl

theorem resolve_lookup_default {declaration : Declaration} (member : declaration ∈ declarations)
    {address : Address} (byDefault : declaration.default = some address) :
    resolution.lookup declaration.name = some address :=
  (resolve_lookup_eq_some resolved).mpr
    ((resolve_entries_mem resolved).mpr (Or.inl ⟨declaration, member, rfl, Or.inl byDefault⟩))

theorem resolve_lookup_binding {binding : Binding} (bound : binding ∈ bindings)
    (noDefault : ∀ declaration ∈ declarations, declaration.name = binding.name →
      declaration.default = none) :
    resolution.lookup binding.name = some binding.address := by
  apply (resolve_lookup_eq_some resolved).mpr
  apply (resolve_entries_mem resolved).mpr
  by_cases declared : ∃ declaration ∈ declarations, declaration.name = binding.name
  · obtain ⟨declaration, member, named⟩ := declared
    refine Or.inl ⟨declaration, member, named.symm, Or.inr ⟨noDefault declaration member named, ?_⟩⟩
    rw [named]
    exact bound
  · push Not at declared
    exact Or.inr ⟨bound, declared⟩

theorem resolve_lookup_eq_none {name : String} :
    resolution.lookup name = none ↔
      (∀ declaration ∈ declarations, declaration.name ≠ name) ∧
        ∀ binding ∈ bindings, binding.name ≠ name := by
  unfold Resolution.lookup
  rw [Option.map_eq_none_iff, find?_name_eq_none]
  constructor
  · intro unlisted
    have declaredListed : ∀ declaration ∈ declarations, declaration.name ≠ name := by
      intro declaration member
      obtain ⟨address, settles⟩ := resolve_declared_settles resolved declaration member
      exact unlisted ⟨declaration.name, address⟩
        ((resolve_entries_mem resolved).mpr (Or.inl ⟨declaration, member, rfl, settles⟩))
    refine ⟨declaredListed, fun binding bound => ?_⟩
    by_cases declared : ∃ declaration ∈ declarations, declaration.name = binding.name
    · obtain ⟨declaration, member, named⟩ := declared
      exact named ▸ declaredListed declaration member
    · push Not at declared
      exact unlisted binding ((resolve_entries_mem resolved).mpr (Or.inr ⟨bound, declared⟩))
  · rintro ⟨undeclared, unbound⟩ entry listed
    rcases (resolve_entries_mem resolved).mp listed with ⟨declaration, member, named, -⟩ | ⟨bound, -⟩
    · exact named ▸ undeclared declaration member
    · exact unbound entry bound

theorem resolve_entries_sorted : resolution.entries.Pairwise (fun a b => a.name < b.name) := by
  obtain ⟨boundOnce, declaredOnce, declared, settled, listed⟩ := resolve_eq_ok resolved
  rw [listed]
  exact pairwise_mergeSort_key Binding.name (settled_names_nodup boundOnce declaredOnce settled)

end Resolved

/-! ### Order of the inputs -/

section Permuted

variable {declarations' : List Declaration} {bindings' : List Binding}

theorem find?_name_eq_of_perm (boundPerm : bindings.Perm bindings') (boundOnce : (bindings.map (·.name)).Nodup)
    (name : String) : bindings.find? (·.name == name) = bindings'.find? (·.name == name) := by
  have boundOnce' := (boundPerm.map (·.name)).nodup_iff.mp boundOnce
  ext binding
  rw [find?_name_eq_some boundOnce, find?_name_eq_some boundOnce', boundPerm.mem_iff]

theorem undeclaredBindings_perm (declaredPerm : declarations.Perm declarations')
    (boundPerm : bindings.Perm bindings') :
    (undeclaredBindings declarations bindings).Perm (undeclaredBindings declarations' bindings') := by
  unfold undeclaredBindings
  have samePredicate : (fun binding : Binding => !declarations.any (·.name == binding.name)) =
      fun binding => !declarations'.any (·.name == binding.name) :=
    funext fun binding => by rw [declaredPerm.any_eq]
  rw [samePredicate]
  exact boundPerm.filter _

theorem resolve_eq_of_perm (declaredPerm : declarations.Perm declarations')
    (boundPerm : bindings.Perm bindings') (boundOnce : (bindings.map (·.name)).Nodup)
    (declaredOnce : (declarations.map (·.name)).Nodup) :
    resolve declarations bindings = resolve declarations' bindings' := by
  have boundOnce' := (boundPerm.map (·.name)).nodup_iff.mp boundOnce
  have declaredOnce' := (declaredPerm.map (·.name)).nodup_iff.mp declaredOnce
  have sameSettling : resolveDeclared bindings = resolveDeclared bindings' := by
    funext declaration
    unfold resolveDeclared
    rw [find?_name_eq_of_perm boundPerm boundOnce]
  rw [resolve_of_nodup boundOnce declaredOnce, resolve_of_nodup boundOnce' declaredOnce',
    mergeSort_key_eq_of_perm Declaration.name declaredPerm declaredOnce, sameSettling]
  cases settled : (declarations'.mergeSort fun a b => decide (a.name ≤ b.name)).mapM
    (resolveDeclared bindings') with
  | error failure => rfl
  | ok declared =>
    have settledPairs : List.Forall₂ (fun declaration entry => resolveDeclared bindings declaration = .ok entry)
        (declarations.mergeSort fun a b => decide (a.name ≤ b.name)) declared := by
      rw [sameSettling, mergeSort_key_eq_of_perm Declaration.name declaredPerm declaredOnce]
      exact Except.mapM_eq_ok_iff.mp settled
    simp only [bind, Except.bind, pure, Except.pure]
    rw [mergeSort_key_eq_of_perm Binding.name
      ((List.Perm.refl declared).append (undeclaredBindings_perm declaredPerm boundPerm))
      (settled_names_nodup boundOnce declaredOnce settledPairs)]

theorem resolve_eq_ok_of_perm (declaredPerm : declarations.Perm declarations')
    (boundPerm : bindings.Perm bindings') {resolution : Resolution}
    (resolved : resolve declarations bindings = .ok resolution) :
    resolve declarations' bindings' = .ok resolution := by
  obtain ⟨boundOnce, declaredOnce, -⟩ := resolve_eq_ok resolved
  rw [← resolve_eq_of_perm declaredPerm boundPerm boundOnce declaredOnce]
  exact resolved

end Permuted

end Resolve

/-- Resolving named addresses. Resolution fails exactly when a name repeats among the bindings or
among the declarations, or some declared name cannot be settled; with no name repeated, the
failure names the least such name, with its conflict or its missing address. When it succeeds, a
declared name resolves to its default, a bound name without a default to its binding, and no
other name resolves; the resolution lists each resolved name once, in increasing order, with its
address. Permuting the declarations and the bindings changes neither the resolution nor, with no
name repeated, the failure. -/
theorem resolution_exact_order_free (declarations : List Declaration) (bindings : List Binding) :
    ((∃ failure, resolve declarations bindings = .error failure) ↔
      ¬ (bindings.map (·.name)).Nodup ∨ ¬ (declarations.map (·.name)).Nodup ∨
        ∃ declaration ∈ declarations, declaration.Fails bindings) ∧
    ((bindings.map (·.name)).Nodup → (declarations.map (·.name)).Nodup →
      ∀ failure, resolve declarations bindings = .error failure →
        ∃ declaration ∈ declarations,
          (∀ other ∈ declarations, other.Fails bindings → declaration.name ≤ other.name) ∧
          ((∃ default bound, declaration.Conflicts bindings default bound ∧
              failure = .conflicting declaration.name default bound) ∨
            (declaration.Unbound bindings ∧ failure = .unresolved declaration.name))) ∧
    (∀ resolution, resolve declarations bindings = .ok resolution →
      (∀ declaration ∈ declarations, ∀ address, declaration.default = some address →
        resolution.lookup declaration.name = some address) ∧
      (∀ binding ∈ bindings, (∀ declaration ∈ declarations, declaration.name = binding.name →
          declaration.default = none) → resolution.lookup binding.name = some binding.address) ∧
      (∀ name, resolution.lookup name = none ↔
        (∀ declaration ∈ declarations, declaration.name ≠ name) ∧
          ∀ binding ∈ bindings, binding.name ≠ name) ∧
      resolution.entries.Pairwise (fun a b => a.name < b.name) ∧
      (∀ name address, resolution.lookup name = some address ↔ ⟨name, address⟩ ∈ resolution.entries)) ∧
    (∀ declarations' bindings', declarations.Perm declarations' → bindings.Perm bindings' →
      (∀ resolution, resolve declarations bindings = .ok resolution ↔
        resolve declarations' bindings' = .ok resolution) ∧
      ((bindings.map (·.name)).Nodup → (declarations.map (·.name)).Nodup →
        resolve declarations bindings = resolve declarations' bindings')) := by
  refine ⟨resolve_fails_iff, fun boundOnce declaredOnce _ failed =>
    resolve_error_least boundOnce declaredOnce failed, fun resolution resolved => ?_,
    fun declarations' bindings' declaredPerm boundPerm => ?_⟩
  · exact ⟨fun declaration member address => resolve_lookup_default resolved member,
      fun binding bound => resolve_lookup_binding resolved bound,
      fun name => resolve_lookup_eq_none resolved, resolve_entries_sorted resolved,
      fun name address => resolve_lookup_eq_some resolved⟩
  · exact ⟨fun resolution => ⟨resolve_eq_ok_of_perm declaredPerm boundPerm,
      resolve_eq_ok_of_perm declaredPerm.symm boundPerm.symm⟩, resolve_eq_of_perm declaredPerm boundPerm⟩

end Testbench
