import Mathlib
import Testbench.Address.Named
import Testbench.Proofs.Address.Hex

/-!
Bindings read back from their text, the name, `=` and the short address, whenever the name is
one that reading can produce: not empty, without `=`, and with no white space at either end.
-/

namespace Testbench

namespace Space

theorem trim_of_forall {text : String} (plain : ∀ char ∈ text.toList, isSpace char = false) :
    trim text = text := by
  have kept : ∀ chars : List Char, (∀ char ∈ chars, isSpace char = false) → chars.dropWhile isSpace = chars
    | [], _ => rfl
    | char :: _, plain => List.dropWhile_cons_of_neg (by simp [plain char List.mem_cons_self])
  have reversed : ∀ char ∈ text.toList.reverse, isSpace char = false := by
    intro char member
    exact plain char (List.mem_reverse.mp member)
  rw [trim, kept _ plain, kept _ reversed, List.reverse_reverse, String.ofList_toList]

end Space

theorem Hex.isSpace_digit (value : Nat) (small : value < 16) : Space.isSpace (Hex.digit value) = false := by
  interval_cases value <;> decide

namespace Address

theorem isSpace_of_mem_short {address : Address} {char : Char} (member : char ∈ address.short.toList) :
    Space.isSpace char = false := by
  obtain ⟨shown, short, -, -, within, -⟩ := short_eq address
  rw [short, String.toList_append] at member
  rcases List.mem_append.mp member with lead | member
  · have lead : char = '0' ∨ char = 'x' := by simpa using lead
    rcases lead with rfl | rfl <;> decide
  rw [String.toList_ofList] at member
  rcases within char member with digit | rfl
  · rw [hex_toList] at digit
    obtain ⟨value, small, rfl⟩ := Hex.mem_flatMap_byteDigits digit
    exact Hex.isSpace_digit value small
  · decide

theorem trim_short (address : Address) : Space.trim address.short = address.short :=
  Space.trim_of_forall fun _ member => isSpace_of_mem_short member

end Address

/-- Reading the text of a binding gives the binding, for a name that is not empty, has no white
space at its ends and no `=`. -/
theorem Binding.parse_text {binding : Binding} (named : binding.name ≠ "")
    (trimmed : Space.trim binding.name = binding.name) (noEquals : '=' ∉ binding.name.toList) :
    Binding.parse binding.text = .ok binding := by
  obtain ⟨name, address⟩ := binding
  have pieces : (Binding.text ⟨name, address⟩).toList.splitOn '=' =
      name.toList :: address.short.toList.splitOn '=' := by
    have equals : "=".toList = ['='] := rfl
    rw [Binding.text, String.toList_append, String.toList_append, equals, List.append_assoc,
      List.singleton_append, List.splitOn_append_cons_self_of_not_mem noEquals]
  obtain ⟨first, rest, split⟩ := List.exists_cons_of_ne_nil (List.splitOn_ne_nil '=' address.short.toList)
  have joined : String.ofList (['='].intercalate (first :: rest)) = address.short := by
    rw [← split, List.intercalate_splitOn, String.ofList_toList]
  unfold Binding.parse
  rw [pieces, split]
  simp only [String.ofList_toList, trimmed, String.isEmpty_eq_false_iff.mpr named, Bool.false_eq_true, if_false, joined,
    Address.trim_short, Address.parse_short]

end Testbench
