import Mathlib
import Testbench.Proofs.Coverage.Map

/-!
Sorted tables are finite maps: under a lawful comparison, lookup after insertion, insertion keeps
the keys rising, and tables with rising keys that agree on every key are equal.
-/

namespace Testbench

/-! ### Comparisons -/

instance : Std.TransOrd Name := inferInstanceAs (Std.TransCmp (compareOn Name.bytes))

instance : Std.TransOrd Address := inferInstanceAs (Std.TransCmp (compareOn Address.bytes))

instance : Std.LawfulEqOrd Name where
  eq_of_compare {first second} same := by
    have bytesEq : first.bytes = second.bytes := Std.LawfulEqOrd.eq_of_compare same
    cases first
    cases second
    simp_all

instance : Std.LawfulEqOrd Address where
  eq_of_compare {first second} same := by
    have bytesEq : first.bytes = second.bytes := Std.LawfulEqOrd.eq_of_compare same
    cases first
    cases second
    simp_all

-- module ids are ordered by address, then by name
instance : Std.TransOrd ModuleId :=
  inferInstanceAs (Std.TransCmp (compareLex (compareOn ModuleId.address) (compareOn ModuleId.name)))

instance : Std.LawfulEqOrd ModuleId where
  eq_of_compare {first second} same := by
    have both : compare first.address second.address = .eq ∧ compare first.name second.name = .eq :=
      Ordering.then_eq_eq.mp same
    cases first
    cases second
    simp_all

instance : Std.TransCmp Name.compare := inferInstanceAs (Std.TransOrd Name)

instance : Std.LawfulEqCmp Name.compare := inferInstanceAs (Std.LawfulEqOrd Name)

instance : Std.TransCmp ModuleId.compare := inferInstanceAs (Std.TransOrd ModuleId)

instance : Std.LawfulEqCmp ModuleId.compare := inferInstanceAs (Std.LawfulEqOrd ModuleId)

/-! ### Tables with rising keys -/

/-- Keys in strictly rising order, so that each key is held once. -/
def SortedKeys {κ α : Type} (order : κ → κ → Ordering) (entries : List (κ × α)) : Prop :=
  entries.Pairwise fun first second => order first.1 second.1 = .lt

section Table

variable {κ α : Type} [DecidableEq κ]

@[simp] theorem findSorted?_nil (key : κ) : findSorted? key ([] : List (κ × α)) = none := rfl

theorem findSorted?_cons (key other : κ) (held : α) (rest : List (κ × α)) :
    findSorted? key ((other, held) :: rest) = if other = key then some held else findSorted? key rest := by
  by_cases same : other = key <;> simp [findSorted?, same]

theorem mem_of_findSorted? {key : κ} {value : α} {entries : List (κ × α)}
    (found : findSorted? key entries = some value) : (key, value) ∈ entries := by
  unfold findSorted? at found
  obtain ⟨entry, entryFound, rfl⟩ := Option.map_eq_some_iff.mp found
  have sameKey : entry.1 = key := by simpa using List.find?_some entryFound
  rw [← sameKey]
  exact List.mem_of_find?_eq_some entryFound

variable {order : κ → κ → Ordering} {entries : List (κ × α)}

omit [DecidableEq κ] in
theorem SortedKeys.cons_iff {entry : κ × α} :
    SortedKeys order (entry :: entries) ↔
      (∀ other ∈ entries, order entry.1 other.1 = .lt) ∧ SortedKeys order entries :=
  List.pairwise_cons

omit [DecidableEq κ] in
theorem SortedKeys.tail {entry : κ × α} (sorted : SortedKeys order (entry :: entries)) :
    SortedKeys order entries :=
  (SortedKeys.cons_iff.mp sorted).2

omit [DecidableEq κ] in
theorem order_self (order : κ → κ → Ordering) [Std.ReflCmp order] (key : κ) : order key key = .eq :=
  Std.ReflCmp.compare_self

variable [Std.LawfulEqCmp order]

theorem findSorted?_insertSorted (key added : κ) (value : α) :
    ∀ entries : List (κ × α), findSorted? key (insertSorted order added value entries) =
      if added = key then some value else findSorted? key entries
  | [] => by simp [insertSorted, findSorted?_cons]
  | (other, held) :: rest => by
    unfold insertSorted
    split
    · rw [findSorted?_cons]
    · rename_i same
      have otherIs : added = other := Std.LawfulEqCmp.eq_of_compare same
      subst otherIs
      by_cases hit : added = key <;> simp [findSorted?_cons, hit]
    · rename_i above
      have differs : other ≠ added := by
        rintro rfl
        rw [order_self order] at above
        cases above
      rw [findSorted?_cons, findSorted?_insertSorted key added value rest, findSorted?_cons]
      by_cases hit : other = key
      · subst hit
        simp [differs.symm]
      · simp [hit]

theorem SortedKeys.findSorted?_of_mem (sorted : SortedKeys order entries) {key : κ} {value : α}
    (member : (key, value) ∈ entries) : findSorted? key entries = some value := by
  induction entries with
  | nil => cases member
  | cons entry rest ih =>
    obtain ⟨other, held⟩ := entry
    obtain ⟨below, restSorted⟩ := SortedKeys.cons_iff.mp sorted
    rw [findSorted?_cons]
    rcases List.mem_cons.mp member with same | later
    · cases same
      simp
    · have differs : other ≠ key := by
        rintro rfl
        have self := below _ later
        rw [order_self order] at self
        cases self
      rw [if_neg differs]
      exact ih restSorted later

theorem findSorted?_eq_none_of_below {key : κ} (below : ∀ entry ∈ entries, order key entry.1 = .lt) :
    findSorted? key entries = none := by
  cases found : findSorted? key entries with
  | none => rfl
  | some value =>
    have self := below _ (mem_of_findSorted? found)
    rw [order_self order] at self
    cases self

theorem SortedKeys.mem_iff (sorted : SortedKeys order entries) {key : κ} {value : α} :
    (key, value) ∈ entries ↔ findSorted? key entries = some value :=
  ⟨sorted.findSorted?_of_mem, mem_of_findSorted?⟩

omit [DecidableEq κ] in
theorem SortedKeys.nodup (sorted : SortedKeys order entries) : entries.Nodup :=
  sorted.imp fun {first second} lower same => by
    subst same
    rw [order_self order] at lower
    cases lower

variable [Std.TransCmp order]

omit [DecidableEq κ] in
theorem SortedKeys.insertSorted {key : κ} {value : α} (sorted : SortedKeys order entries) :
    SortedKeys order (Testbench.insertSorted order key value entries) := by
  induction entries with
  | nil => exact List.pairwise_singleton _ _
  | cons entry rest ih =>
    obtain ⟨other, held⟩ := entry
    obtain ⟨below, restSorted⟩ := SortedKeys.cons_iff.mp sorted
    unfold Testbench.insertSorted
    split
    · rename_i before
      refine SortedKeys.cons_iff.mpr ⟨?_, sorted⟩
      intro later member
      rcases List.mem_cons.mp member with rfl | later_mem
      · exact before
      · exact Std.TransCmp.lt_trans before (below later later_mem)
    · rename_i same
      have otherIs : key = other := Std.LawfulEqCmp.eq_of_compare same
      subst otherIs
      exact SortedKeys.cons_iff.mpr ⟨below, restSorted⟩
    · rename_i after
      refine SortedKeys.cons_iff.mpr ⟨?_, ih restSorted⟩
      intro later member
      rcases mem_insertSorted member with rfl | old
      · exact Std.OrientedCmp.gt_iff_lt.mp after
      · exact below later old

theorem SortedKeys.ext {other : List (κ × α)} (sorted : SortedKeys order entries)
    (otherSorted : SortedKeys order other) (same : ∀ key, findSorted? key entries = findSorted? key other) :
    entries = other := by
  have members : ∀ entry, entry ∈ entries ↔ entry ∈ other := by
    rintro ⟨key, value⟩
    rw [sorted.mem_iff, otherSorted.mem_iff, same key]
  refine List.Perm.eq_of_pairwise ?_ sorted otherSorted
    ((List.perm_ext_iff_of_nodup sorted.nodup otherSorted.nodup).mpr members)
  intro first second _ _ lower upper
  rw [← Std.OrientedCmp.gt_iff_lt, lower] at upper
  cases upper

end Table

end Testbench
