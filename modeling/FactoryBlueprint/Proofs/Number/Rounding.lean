import FactoryBlueprint.Number.Rounding
import Mathlib.Algebra.Order.Ring.Nat
import Mathlib.Tactic.SplitIfs

/-! # Rounding keeps the order

A greater number is never rounded to a smaller one, so a number is rounded to no more than any
representable number above it.
-/

namespace FactoryBlueprint

theorem roundHalfEven_mono {a b : Nat} (le : a ≤ b) (denominator : Nat) :
    roundHalfEven a denominator ≤ roundHalfEven b denominator := by
  have quotient : a / denominator ≤ b / denominator := Nat.div_le_div_right le
  rcases Nat.lt_or_eq_of_le quotient with less | same
  · have above := roundHalfEven_le a denominator
    have below := le_roundHalfEven b denominator
    omega
  · have first := Nat.div_add_mod a denominator
    have second := Nat.div_add_mod b denominator
    rw [same] at first
    have remainder : a % denominator ≤ b % denominator := by omega
    simp only [roundHalfEven, same]
    split_ifs <;> omega

/-- No rounding leads past the number of one digit more. -/
theorem roundSignificant_le (numerator denominator : Nat) : roundSignificant numerator denominator ≤
    2 ^ (lastPlace (numerator / denominator) + significantBits) := by
  have bound := lt_two_pow_lastPlace (numerator / denominator)
  have step := roundHalfEven_le numerator (denominator * 2 ^ lastPlace (numerator / denominator))
  rw [← Nat.div_div_eq_div_mul] at step
  rw [Nat.pow_add] at bound ⊢
  have leading := Nat.div_lt_of_lt_mul bound
  rw [roundSignificant, Nat.mul_comm]
  exact Nat.mul_le_mul_left _ (by omega)

/-- A number with digits to drop is rounded to no less than its leading digit. -/
theorem le_roundSignificant {numerator denominator : Nat}
    (drops : 0 < lastPlace (numerator / denominator)) :
    2 ^ (lastPlace (numerator / denominator) + (significantBits - 1)) ≤
      roundSignificant numerator denominator := by
  have positive : numerator / denominator ≠ 0 := by
    intro zero
    rw [zero] at drops
    exact absurd drops (by decide)
  have log : (numerator / denominator).log2 =
      lastPlace (numerator / denominator) + (significantBits - 1) := by
    simp only [lastPlace] at drops ⊢
    omega
  have bound : 2 ^ (lastPlace (numerator / denominator) + (significantBits - 1)) ≤
      numerator / denominator := log ▸ Nat.log2_self_le positive
  have step := le_roundHalfEven numerator (denominator * 2 ^ lastPlace (numerator / denominator))
  rw [← Nat.div_div_eq_div_mul] at step
  rw [Nat.pow_add, Nat.mul_comm] at bound ⊢
  have leading := (Nat.le_div_iff_mul_le (Nat.two_pow_pos _)).mpr bound
  rw [roundSignificant]
  exact Nat.mul_le_mul_right _ (by omega)

theorem roundSignificant_mono {a b : Nat} (le : a ≤ b) (denominator : Nat) :
    roundSignificant a denominator ≤ roundSignificant b denominator := by
  have places : lastPlace (a / denominator) ≤ lastPlace (b / denominator) :=
    lastPlace_mono (Nat.div_le_div_right le)
  rcases Nat.lt_or_eq_of_le places with less | same
  · calc roundSignificant a denominator
        ≤ 2 ^ (lastPlace (a / denominator) + significantBits) := roundSignificant_le a denominator
      _ ≤ 2 ^ (lastPlace (b / denominator) + (significantBits - 1)) :=
        Nat.pow_le_pow_right (by omega) (by simp only [significantBits]; omega)
      _ ≤ roundSignificant b denominator := le_roundSignificant (by omega)
  · simp only [roundSignificant, same]
    exact Nat.mul_le_mul_right _ (roundHalfEven_mono le _)

theorem representable_two_pow {place : Nat} (small : place < overflowExponent) :
    Representable (2 ^ place) := by
  have kept := @two_pow_lastPlace_dvd 1 place Nat.one_le_two_pow
  rw [Nat.one_mul] at kept
  exact ⟨kept, Nat.pow_lt_pow_right (by omega) small⟩

/-- Numbers below `2 ^ 53` are representable at every place in the range. -/
theorem representable_mul_two_pow {n place : Nat} (small : n < 2 ^ significantBits)
    (within : place + significantBits ≤ overflowExponent) : Representable (n * 2 ^ place) where
  dvd := two_pow_lastPlace_dvd (Nat.le_of_lt small)
  lt := by
    refine Nat.lt_of_lt_of_le (Nat.mul_lt_mul_of_pos_right small (Nat.two_pow_pos _)) ?_
    rw [← Nat.pow_add]
    exact Nat.pow_le_pow_right (by omega) (by omega)

/-- A number is rounded to no more than any representable number above it. -/
theorem roundSignificant_le_of_representable {a b : Nat} (le : a ≤ b)
    (representable : Representable b) : roundSignificant a 1 ≤ b :=
  calc roundSignificant a 1 ≤ roundSignificant b 1 := roundSignificant_mono le 1
    _ = b := roundSignificant_one representable.dvd

end FactoryBlueprint
