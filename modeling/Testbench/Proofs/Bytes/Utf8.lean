import Mathlib

/-!
The UTF-8 bytes of a text: those of an ASCII text are its character codes, one per character.
Byte arrays are read here through their lists of bytes.
-/

namespace Testbench

theorem byteArray_toList_loop (bytes : ByteArray) (index : Nat) (reversed : List UInt8) :
    ByteArray.toList.loop bytes index reversed = reversed.reverse ++ bytes.data.toList.drop index := by
  induction index, reversed using ByteArray.toList.loop.induct bytes with
  | case1 index reversed inside ih =>
    rw [ByteArray.toList.loop, if_pos inside, ih]
    have inList : index < bytes.data.toList.length := by simpa using inside
    have read : bytes.get! index = bytes.data.toList[index] := by
      simp only [ByteArray.get!, Array.getElem_toList]
      exact getElem!_pos bytes.data index (by simpa using inside)
    rw [List.drop_eq_getElem_cons inList, read]
    simp
  | case2 index reversed beyond =>
    rw [ByteArray.toList.loop, if_neg beyond]
    have past : bytes.data.toList.length ≤ index := by simpa using beyond
    simp [List.drop_eq_nil_of_le past]

theorem byteArray_toList (bytes : ByteArray) : bytes.toList = bytes.data.toList := by
  rw [ByteArray.toList, byteArray_toList_loop]
  simp

namespace Text

theorem toUTF8_toList (text : String) : text.toUTF8.toList = text.toList.flatMap String.utf8EncodeChar := by
  obtain ⟨chars, rfl⟩ := text.exists_eq_ofList
  rw [String.toUTF8_eq_toByteArray, String.toByteArray_ofList, byteArray_toList, String.toList_ofList,
    List.utf8Encode, List.data_toByteArray]

/-- Every character is ASCII. -/
def Ascii (chars : List Char) : Prop := ∀ char ∈ chars, char.toNat < 128

theorem utf8EncodeChar_of_lt {char : Char} (ascii : char.toNat < 128) :
    String.utf8EncodeChar char = [char.toUInt8] := by
  have single : char.utf8Size = 1 := by
    rw [Char.utf8Size_eq_one_iff, UInt32.le_iff_toNat_le]
    have code : char.toNat = char.val.toNat := rfl
    have bound : (127 : UInt32).toNat = 127 := rfl
    omega
  exact String.utf8EncodeChar_eq_singleton single

theorem flatMap_utf8EncodeChar_of_ascii :
    ∀ {chars : List Char}, Ascii chars → chars.flatMap String.utf8EncodeChar = chars.map Char.toUInt8
  | [], _ => rfl
  | char :: rest, ascii => by
    rw [List.flatMap_cons, utf8EncodeChar_of_lt (ascii char List.mem_cons_self),
      flatMap_utf8EncodeChar_of_ascii (fun other member => ascii other (List.mem_cons_of_mem _ member))]
    rfl

theorem toUTF8_toList_of_ascii {text : String} (ascii : Ascii text.toList) :
    text.toUTF8.toList = text.toList.map Char.toUInt8 := by
  rw [toUTF8_toList, flatMap_utf8EncodeChar_of_ascii ascii]

theorem utf8ByteSize_of_ascii {text : String} (ascii : Ascii text.toList) :
    text.utf8ByteSize = text.length := by
  have bytes := congrArg List.length (toUTF8_toList_of_ascii ascii)
  rw [List.length_map, String.length_toList, byteArray_toList, Array.length_toList, ByteArray.size_data,
    String.toUTF8_eq_toByteArray, String.size_toByteArray] at bytes
  exact bytes

end Text

end Testbench
