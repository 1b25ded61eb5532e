import FactoryBlueprint.Text.Blank
import Mathlib.Data.List.TakeWhile

/-! # Texts and their bytes

Trimming takes exactly the white space that surrounds a text without any (`Text.trim_surrounded`). A
text of ASCII characters has one byte each (`toList_toUTF8`), and every text is read back from its
bytes (`fromUTF8?_toList_toUTF8`). Bytes that are pushed one by one are listed in that order
(`toList_foldl_push`).
-/

namespace FactoryBlueprint

/-! ### Arrays of bytes as lists -/

theorem toList_loop (bytes : ByteArray) (i : Nat) (done : List UInt8) :
    ByteArray.toList.loop bytes i done = done.reverse ++ bytes.data.toList.drop i := by
  induction i, done using ByteArray.toList.loop.induct bytes with
  | case1 i done inside ih =>
    have bound : i < bytes.data.toList.length := inside
    have here : bytes.get! i = bytes.data.toList[i] := by
      change bytes.data[i]! = _
      rw [getElem!_pos bytes.data i inside, Array.getElem_toList]
    rw [ByteArray.toList.loop.eq_1, if_pos inside, ih, List.drop_eq_getElem_cons bound, here]
    simp
  | case2 i done past =>
    have none : bytes.data.toList.drop i = [] := List.drop_eq_nil_of_le (Nat.le_of_not_lt past)
    rw [ByteArray.toList.loop.eq_1, if_neg past, none, List.append_nil]

theorem toList_eq_toList_data (bytes : ByteArray) : bytes.toList = bytes.data.toList := by
  rw [ByteArray.toList, toList_loop]
  rfl

theorem toList_foldl_push (bytes : List UInt8) (output : ByteArray) :
    (bytes.foldl ByteArray.push output).toList = output.toList ++ bytes := by
  induction bytes generalizing output with
  | nil => simp
  | cons byte bytes ih =>
    rw [List.foldl_cons, ih, toList_eq_toList_data, toList_eq_toList_data, ByteArray.data_push]
    simp

/-! ### Bytes of texts -/

theorem utf8EncodeChar_eq_singleton {c : Char} (ascii : c.toNat < 128) :
    String.utf8EncodeChar c = [c.toUInt8] := by
  have one : c.utf8Size = 1 := Char.utf8Size_eq_one_iff.mpr (by
    rw [UInt32.le_iff_toNat_le]
    exact Nat.le_of_lt_succ ascii)
  rw [String.utf8EncodeChar_eq_singleton one]
  rfl

theorem toList_toUTF8 {cs : List Char} (ascii : ∀ c ∈ cs, c.toNat < 128) :
    (String.ofList cs).toUTF8.toList = cs.map Char.toUInt8 := by
  rw [String.toUTF8_eq_toByteArray, String.toByteArray_ofList, toList_eq_toList_data,
    List.utf8Encode, List.toList_data_toByteArray]
  induction cs with
  | nil => rfl
  | cons c cs ih =>
    obtain ⟨here, later⟩ := List.forall_mem_cons.mp ascii
    rw [List.flatMap_cons, utf8EncodeChar_eq_singleton here, ih later]
    rfl

/-- Every text is read back from its bytes. -/
theorem fromUTF8?_toList_toUTF8 (s : String) :
    String.fromUTF8? ⟨s.toUTF8.toList.toArray⟩ = some s := by
  have same : (⟨s.toUTF8.toList.toArray⟩ : ByteArray) = s.toByteArray := by
    rw [toList_eq_toList_data]
    rfl
  rw [same, String.fromUTF8?, dif_pos s.isValidUTF8]
  rfl

/-! ### White space around a text -/

namespace Text

theorem dropWhile_isBlank_append {blanks : List Char} (blank : ∀ c ∈ blanks, isBlank c = true)
    {c : Char} (solid : isBlank c = false) (rest : List Char) :
    (blanks ++ c :: rest).dropWhile isBlank = c :: rest := by
  rw [List.dropWhile_append_of_pos blank, List.dropWhile_cons_of_neg (by simp [solid])]

/-- What has no white space at its ends is what trimming leaves. -/
theorem trim_surrounded {before after : List Char} (blankBefore : ∀ c ∈ before, isBlank c = true)
    (blankAfter : ∀ c ∈ after, isBlank c = true) {core : List Char} (nonempty : core ≠ [])
    (solid : ∀ c ∈ core, isBlank c = false) : trim (before ++ core ++ after) = core := by
  obtain ⟨first, rest, rfl⟩ := List.exists_cons_of_ne_nil nonempty
  obtain ⟨last, others, backward⟩ :=
    List.exists_cons_of_ne_nil (List.reverse_ne_nil_iff.mpr nonempty)
  have solidFirst := solid first List.mem_cons_self
  have solidLast : isBlank last = false := by
    refine solid last (List.mem_reverse.mp ?_)
    rw [backward]
    exact List.mem_cons_self
  rw [trim, List.append_assoc, List.cons_append, dropWhile_isBlank_append blankBefore solidFirst,
    ← List.cons_append, List.reverse_append, backward,
    dropWhile_isBlank_append (fun c mem => blankAfter c (List.mem_reverse.mp mem)) solidLast,
    ← backward, List.reverse_reverse]

end Text
end FactoryBlueprint
