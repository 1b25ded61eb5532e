/-! # Rounding to a fixed number of significant binary digits

All arithmetic on coordinates is carried out exactly and rounded once. The exact result is a
quotient of natural numbers; `roundSignificant` keeps its 53 leading binary digits, a tie going to
the even neighbour.

`Representable` says which natural numbers survive that rounding, and
`representable_roundSignificant` that every rounded result is one of them.
-/

namespace FactoryBlueprint

-- Powers are those of the core library wherever this is imported.
attribute [local instance (high)] instPowNat

/-- The natural number nearest to `numerator / denominator`; of two nearest the even one. -/
def roundHalfEven (numerator denominator : Nat) : Nat :=
  let below := numerator / denominator
  let doubled := 2 * (numerator % denominator)
  if doubled < denominator then below
  else if denominator < doubled then below + 1
  else below + below % 2

theorem le_roundHalfEven (numerator denominator : Nat) :
    numerator / denominator ≤ roundHalfEven numerator denominator := by
  simp only [roundHalfEven]
  split
  · exact Nat.le_refl _
  · split <;> omega

theorem roundHalfEven_le (numerator denominator : Nat) :
    roundHalfEven numerator denominator ≤ numerator / denominator + 1 := by
  simp only [roundHalfEven]
  split
  · omega
  · split <;> omega

/-- Binary digits kept by a rounding. -/
def significantBits : Nat := 53

/-- Exponent of the last binary digit kept for a number whose whole part is `whole`. Numbers below
`2 ^ 53` keep every whole digit. -/
def lastPlace (whole : Nat) : Nat := whole.log2 - (significantBits - 1)

/-- `numerator / denominator` rounded to its 53 leading binary digits, whole digits at the least. -/
def roundSignificant (numerator denominator : Nat) : Nat :=
  let step := 2 ^ lastPlace (numerator / denominator)
  roundHalfEven numerator (denominator * step) * step

/-- The finite range ends below two to this power. -/
def overflowExponent : Nat := 2098

/-- First natural number beyond the finite range. -/
def overflowQuanta : Nat := 2 ^ overflowExponent

/-- Natural numbers of at most 53 significant binary digits within the finite range. -/
structure Representable (quanta : Nat) : Prop where
  /-- Digits below the last place kept are zero. -/
  dvd : 2 ^ lastPlace quanta ∣ quanta
  /-- The number is in the finite range. -/
  lt : quanta < overflowQuanta

instance (quanta : Nat) : Decidable (Representable quanta) :=
  decidable_of_iff (2 ^ lastPlace quanta ∣ quanta ∧ quanta < overflowQuanta)
    ⟨fun h => ⟨h.1, h.2⟩, fun h => ⟨h.dvd, h.lt⟩⟩

theorem representable_zero : Representable 0 := ⟨Nat.dvd_zero _, Nat.two_pow_pos _⟩

theorem lt_two_pow_lastPlace (whole : Nat) : whole < 2 ^ (lastPlace whole + significantBits) := by
  by_cases zero : whole = 0
  · subst zero; exact Nat.two_pow_pos _
  · refine (Nat.log2_lt zero).mp ?_
    simp only [lastPlace, significantBits]
    omega

theorem lastPlace_mono {a b : Nat} (le : a ≤ b) : lastPlace a ≤ lastPlace b := by
  have : a.log2 ≤ b.log2 := by
    by_cases zero : a = 0
    · subst zero; simp
    · exact (Nat.le_log2 (by omega)).mpr (Nat.le_trans (Nat.log2_self_le zero) le)
  simp only [lastPlace]
  omega

/-- A multiple of `2 ^ k` by at most `2 ^ 53` keeps all its digits. -/
theorem two_pow_lastPlace_dvd {leading place : Nat} (le : leading ≤ 2 ^ significantBits) :
    2 ^ lastPlace (leading * 2 ^ place) ∣ leading * 2 ^ place := by
  by_cases full : leading = 2 ^ significantBits
  · subst full
    rw [← Nat.pow_add]
    apply Nat.pow_dvd_pow
    simp only [lastPlace, Nat.log2_two_pow]
    omega
  · have below : leading * 2 ^ place < 2 ^ (significantBits + place) := by
      rw [Nat.pow_add]
      exact Nat.mul_lt_mul_of_pos_right (by omega) (Nat.two_pow_pos _)
    refine Nat.dvd_trans (Nat.pow_dvd_pow 2 ?_) (Nat.dvd_mul_left _ _)
    by_cases zero : leading * 2 ^ place = 0
    · rw [zero]; simp [lastPlace]
    · have := (Nat.log2_lt zero).mpr below
      simp only [lastPlace, significantBits] at *
      omega

/-- What a rounding produces needs no further rounding. -/
theorem representable_roundSignificant {numerator denominator : Nat}
    (finite : roundSignificant numerator denominator < overflowQuanta) :
    Representable (roundSignificant numerator denominator) where
  lt := finite
  dvd := by
    refine two_pow_lastPlace_dvd ?_
    have bound := lt_two_pow_lastPlace (numerator / denominator)
    have step := roundHalfEven_le numerator (denominator * 2 ^ lastPlace (numerator / denominator))
    rw [← Nat.div_div_eq_div_mul] at step
    rw [Nat.pow_add, Nat.mul_comm] at bound
    have := Nat.div_lt_of_lt_mul (by rwa [Nat.mul_comm] at bound)
    omega

/-- Rounding leaves a representable number as it is. -/
theorem roundSignificant_one {quanta : Nat} (kept : 2 ^ lastPlace quanta ∣ quanta) :
    roundSignificant quanta 1 = quanta := by
  obtain ⟨leading, eq⟩ := kept
  have positive : 0 < 2 ^ lastPlace quanta := Nat.two_pow_pos _
  have exact : roundHalfEven quanta (2 ^ lastPlace quanta) = quanta / 2 ^ lastPlace quanta := by
    have : quanta % 2 ^ lastPlace quanta = 0 := Nat.mod_eq_zero_of_dvd ⟨leading, eq⟩
    simp [roundHalfEven, this, positive]
  simp only [roundSignificant, Nat.div_one, Nat.one_mul, exact]
  exact Nat.div_mul_cancel ⟨leading, eq⟩

end FactoryBlueprint
