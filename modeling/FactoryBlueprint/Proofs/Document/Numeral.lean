import FactoryBlueprint.Document.Printer
import FactoryBlueprint.Document.Token
import Mathlib.Data.List.Basic
import Mathlib.Data.List.TakeWhile

/-! # Numbers as they are written

The digits of an integer within 64 bits are read as the integer (`ofWord?_digits`). Every written
number, finite or not, is one bare word (`isWord_render`).
-/

namespace FactoryBlueprint

-- Powers are those of the core library wherever this is imported.
attribute [local instance (high)] instPowNat

namespace Numeral

/-- The digits of a natural number are digits only. -/
theorem isDigit_of_mem_toDigits {n : Nat} {c : Char} (mem : c ∈ Nat.toDigits 10 n) :
    c.isDigit = true := Nat.isDigit_of_mem_toDigits (by decide) (by decide) mem

/-- The values of the digits of a natural number. -/
def decimalDigits (n : Nat) : List Nat := (Nat.toDigits 10 n).map fun c => c.toNat - '0'.toNat

theorem digits_toDigits (n : Nat) : digits (Nat.toDigits 10 n) = (decimalDigits n, []) := by
  have all : ∀ c ∈ Nat.toDigits 10 n, c.isDigit = true := fun _ => isDigit_of_mem_toDigits
  rw [digits, decimalDigits, List.takeWhile_eq_self_iff.mpr all, List.dropWhile_eq_nil_iff.mpr all]
  congr 1
  refine (List.filterMap_eq_map_iff_forall_eq_some.mpr fun c mem => ?_)
  rw [digit?, if_pos (all c mem)]

theorem value_decimalDigits (n : Nat) : value (decimalDigits n) = n := by
  rw [value, decimalDigits, List.foldl_map, ← Nat.ofDigitChars_eq_foldl,
    Nat.ofDigitChars_ten_toDigits]

/-- A positive number is not written with a leading zero. -/
theorem ne_zero_of_toDigits_eq_cons (n : Nat) (positive : 0 < n) (c : Char) (rest : List Char)
    (eq : Nat.toDigits 10 n = c :: rest) : c.toNat - '0'.toNat ≠ 0 := by
  induction n using Nat.strongRecOn generalizing rest with
  | ind n ih =>
    by_cases single : n < 10
    · have nonzero : ∀ n < 10, 0 < n → n.digitChar.toNat - '0'.toNat ≠ 0 := by decide
      rw [Nat.toDigits_of_lt_base single] at eq
      obtain ⟨rfl, -⟩ := List.cons.inj eq
      exact nonzero n single positive
    · rw [Nat.toDigits_of_base_le (by decide) (Nat.le_of_not_lt single)] at eq
      cases front : Nat.toDigits 10 (n / 10) with
      | nil => exact absurd front Nat.toDigits_ne_nil
      | cons first others =>
        rw [front, List.cons_append] at eq
        obtain ⟨rfl, -⟩ := List.cons.inj eq
        exact ih (n / 10) (by omega) (by omega) others front

/-- The digits of a natural number with an optional sign are a numeral of these digits. -/
theorem parse?_toDigits {negative : Bool} {cs : List Char} {n : Nat}
    (signed : sign cs = (negative, Nat.toDigits 10 n)) :
    parse? cs = some ⟨negative, decimalDigits n, none, none⟩ := by
  simp only [parse?, signed, digits_toDigits]
  split
  · rename_i none
    exact absurd (List.map_eq_nil_iff.mp none) Nat.toDigits_ne_nil
  · rename_i second rest zero
    -- a leading zero that is not alone
    obtain ⟨first, others, eq, isZero, more⟩ := List.map_eq_cons_iff.mp zero
    rcases Nat.eq_zero_or_pos n with rfl | positive
    · obtain ⟨rfl, rfl⟩ := List.cons.inj (eq.symm.trans (Nat.toDigits_zero 10))
      contradiction
    · exact absurd isZero (ne_zero_of_toDigits_eq_cons n positive first others eq)
  · rfl

theorem document?_natural {n : Nat} (small : n ≤ maxSignificand) :
    document? ⟨false, decimalDigits n, none, none⟩ = some (.integer n) := by
  simp [document?, value_decimalDigits, small]

theorem document?_negative {n : Nat} (positive : 0 < n) (small : n ≤ 9223372036854775808) :
    document? ⟨true, decimalDigits n, none, none⟩ = some (.integer (-(n : Int))) := by
  simp [document?, value_decimalDigits, positive, small]

end Numeral

namespace Token

/-- What does not start like a word of letters is a number or nothing. -/
theorem ofWord?_eq_numeral {c : Char} (other : c ≠ 't' ∧ c ≠ 'f' ∧ c ≠ 'n') (cs : List Char) :
    ofWord? (c :: cs) =
      (Numeral.parse? (c :: cs)).bind fun numeral => numeral.document?.map word := by
  simp [ofWord?, other]

theorem ne_letter_of_isDigit {c : Char} (isDigit : c.isDigit = true) :
    c ≠ 't' ∧ c ≠ 'f' ∧ c ≠ 'n' ∧ c ≠ '-' :=
  ⟨fun eq => by simp [eq] at isDigit, fun eq => by simp [eq] at isDigit,
    fun eq => by simp [eq] at isDigit, fun eq => by simp [eq] at isDigit⟩

theorem ofWord?_natural {n : Nat} (small : n ≤ Numeral.maxSignificand) :
    ofWord? (Nat.toDigits 10 n) = some (.word (.integer n)) := by
  cases eq : Nat.toDigits 10 n with
  | nil => exact absurd eq Nat.toDigits_ne_nil
  | cons c rest =>
    have isDigit := Numeral.isDigit_of_mem_toDigits (n := n) (c := c) (by simp [eq])
    obtain ⟨notT, notF, notN, unsigned⟩ := ne_letter_of_isDigit isDigit
    have signed : Numeral.sign (c :: rest) = (false, Nat.toDigits 10 n) := by
      rw [Numeral.sign, eq]
      rintro cs ⟨⟩
      exact unsigned rfl
    rw [ofWord?_eq_numeral ⟨notT, notF, notN⟩, Numeral.parse?_toDigits signed, Option.bind_some,
      Numeral.document?_natural small]
    rfl

theorem ofWord?_negative {n : Nat} (positive : 0 < n) (small : n ≤ 9223372036854775808) :
    ofWord? ('-' :: Nat.toDigits 10 n) = some (.word (.integer (-(n : Int)))) := by
  have signed : Numeral.sign ('-' :: Nat.toDigits 10 n) = (true, Nat.toDigits 10 n) := rfl
  rw [ofWord?_eq_numeral (by decide), Numeral.parse?_toDigits signed, Option.bind_some,
    Numeral.document?_negative positive small]
  rfl

theorem digits_ofNat (n : Nat) : Document.digits (.ofNat n) = Nat.toDigits 10 n := Nat.toList_repr

theorem digits_negSucc (n : Nat) :
    Document.digits (.negSucc n) = '-' :: Nat.toDigits 10 (n + 1) := by
  change ("-" ++ (n + 1).repr).toList = _
  rw [String.toList_append, Nat.toList_repr]
  rfl

/-- The digits of an integer within 64 bits are read as the integer. -/
theorem ofWord?_digits {n : Int} (least : -9223372036854775808 ≤ n)
    (greatest : n ≤ Numeral.maxSignificand) :
    ofWord? (Document.digits n) = some (.word (.integer n)) := by
  cases n with
  | ofNat n =>
    rw [digits_ofNat, ofWord?_natural (Int.ofNat_le.mp greatest)]
    rfl
  | negSucc n =>
    rw [digits_negSucc, ofWord?_negative (Nat.succ_pos n) (by omega)]
    rfl

/-! ### Written numbers are words -/

theorem isWordChar_of_isDigit {c : Char} (isDigit : c.isDigit = true) : isWordChar c = true := by
  simp [isWordChar, Char.isAlphanum, isDigit]

theorem isWordChar_of_mem_digits {n : Int} {c : Char} (mem : c ∈ Document.digits n) :
    isWordChar c = true := by
  cases n with
  | ofNat n =>
    rw [digits_ofNat] at mem
    exact isWordChar_of_isDigit (Numeral.isDigit_of_mem_toDigits mem)
  | negSucc n =>
    rw [digits_negSucc] at mem
    rcases List.mem_cons.mp mem with rfl | digit
    · decide
    · exact isWordChar_of_isDigit (Numeral.isDigit_of_mem_toDigits digit)

end Token

namespace NumberLayout

/-- The text consists of characters of bare words. -/
def IsWord (s : String) : Prop := ∀ c ∈ s.toList, Token.isWordChar c = true

-- Over the characters of the text, not over all characters.
instance (s : String) : Decidable (IsWord s) := List.decidableBAll _ _

theorem IsWord.append {s t : String} (first : IsWord s) (second : IsWord t) : IsWord (s ++ t) := by
  intro c mem
  rw [String.toList_append] at mem
  rcases List.mem_append.mp mem with inFirst | inSecond
  · exact first c inFirst
  · exact second c inSecond

theorem IsWord.ofList {s : String} (word : IsWord s) {cs : List Char} (part : cs ⊆ s.toList) :
    IsWord (String.ofList cs) := by
  intro c mem
  rw [String.toList_ofList] at mem
  exact word c (part mem)

theorem isWord_toString (n : Nat) : IsWord (toString n) := by
  intro c mem
  rw [Nat.toString_eq_ofList_toDigits, String.toList_ofList] at mem
  exact Token.isWordChar_of_isDigit (Numeral.isDigit_of_mem_toDigits mem)

theorem isWord_zeros (n : Nat) : IsWord (zeros n) := by
  induction n with
  | zero => exact (by decide : IsWord "")
  | succ n ih =>
    have more : zeros (n + 1) = (zeros n).push '0' := rfl
    intro c mem
    rw [more, String.toList_push] at mem
    rcases List.mem_append.mp mem with before | last
    · exact ih c before
    · obtain rfl := List.mem_singleton.mp last
      decide

theorem isWord_placed {digits : String} (word : IsWord digits) (keepsFraction : Bool)
    (point : Int) : IsWord (placed keepsFraction digits point) := by
  have fraction : IsWord (if keepsFraction then ".0" else "") := by cases keepsFraction <;> decide
  rw [placed]
  split
  · exact (IsWord.append (by decide) (isWord_zeros _)).append word
  · split
    · exact ((word.ofList (List.take_subset ..)).append (by decide)).append
        (word.ofList (List.drop_subset ..))
    · exact (word.append (isWord_zeros _)).append fraction

theorem isWord_scientific {digits : String} (word : IsWord digits) (point : Int) :
    IsWord (scientific digits point) := by
  have front := word.ofList (List.take_subset 1 _)
  have back := word.ofList (List.drop_subset 1 _)
  simp only [scientific]
  refine (((front.append ?_).append (by decide)).append ?_).append (isWord_toString _)
  · split
    · decide
    · exact IsWord.append (by decide) back
  · split <;> decide

theorem isWord_decimal (layout : NumberLayout) (d : Decimal) : IsWord (layout.decimal d) := by
  have digits := isWord_toString d.coefficient
  rw [decimal]
  split
  · split
    · exact isWord_placed digits _ _
    · exact isWord_scientific digits _
  · exact isWord_placed digits _ _

/-- A written number, finite or not, is one bare word. -/
theorem isWord_render (layout : NumberLayout) (x : Binary64) : IsWord (layout.render x) := by
  cases x with
  | nan => exact (by decide : IsWord "NaN")
  | infinite negative =>
    cases negative with
    | false => exact (by decide : IsWord "inf")
    | true => exact (by decide : IsWord "-inf")
  | finite negative quanta _ =>
    have sign : IsWord (if negative then "-" else "") := by cases negative <;> decide
    exact sign.append (isWord_decimal layout _)

end NumberLayout
end FactoryBlueprint
