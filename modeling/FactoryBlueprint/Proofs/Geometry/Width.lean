import FactoryBlueprint.Proofs.Blueprint.Fits
import FactoryBlueprint.Proofs.Geometry.Shift
import FactoryBlueprint.Proofs.Store.Reach
import Mathlib.Tactic.Ring

/-! # Boxes that overlap themselves

A box overlaps itself if it is wider than the position tolerance (`Box.overlaps_self_iff`). The
squares of tiles are, wherever they can lie (`Tile.Fits.wide_box`).
-/

namespace FactoryBlueprint

open Binary64

/-- The box is wider than the tolerance on both axes. -/
def Box.Wide (box : Box) : Prop :=
  ∀ axis, box.min.along axis < box.max.along axis - positionTolerance

theorem Box.overlaps_self_iff {box : Box} : box.overlaps box = true ↔ box.Wide := by
  simp only [overlaps, Bool.and_eq_true, decide_eq_true_eq]
  constructor
  · rintro ⟨⟨⟨across, -⟩, down⟩, -⟩ axis
    cases axis
    · exact across
    · exact down
  · intro wide
    exact ⟨⟨⟨wide .x, wide .x⟩, wide .y⟩, wide .y⟩

/-- The number of quanta in one half. -/
def halfQuanta : Nat := 2 ^ (unitExponent - 1)

theorem halfQuanta_pos : 0 < halfQuanta := Nat.two_pow_pos _

theorem unitQuanta_eq : unitQuanta = 2 * halfQuanta := by decide +kernel

namespace Binary64

/-- The tolerance is no more than one half. -/
theorem exists_quanta?_positionTolerance :
    ∃ n, positionTolerance.quanta? = some n ∧ n ≤ halfQuanta := by
  have small : positionTolerance.quanta?.any (fun n => n ≤ (halfQuanta : Int)) = true := by decide +kernel
  obtain ⟨n, counts, le⟩ := (Option.any_eq_true ..).mp small
  exact ⟨n, counts, of_decide_eq_true le⟩

/-- A whole number and the next are apart by more than the tolerance, rounded as that is. -/
theorem ofInt_lt_add_one_sub {n : Int} (fits : Fits32 n) :
    ofInt n < ofInt n + 1 - positionTolerance := by
  obtain ⟨low, high⟩ := quanta?_ofInt_add_one fits
  obtain ⟨t, counts, small⟩ := exists_quanta?_positionTolerance
  rw [lt_iff (rank?_of_quanta? low) (rank?_sub high counts)]
  -- Between them is a number that no rounding passes by.
  have middle : (2 * n + 1) * halfQuanta = n * unitQuanta + halfQuanta := by
    rw [unitQuanta_eq]
    push_cast
    ring
  have next : (n + 1) * unitQuanta = n * unitQuanta + 2 * halfQuanta := by
    rw [Int.add_mul, Int.one_mul, unitQuanta_eq]
    push_cast
    rfl
  have representable : Representable ((2 * n + 1) * halfQuanta).natAbs := by
    rw [Int.natAbs_mul, Int.natAbs_natCast]
    refine representable_mul_two_pow ?_ (by decide)
    obtain ⟨above, below⟩ := fits
    simp only [significantBits]
    omega
  have rounded :=
    roundedRank_mono (show (2 * n + 1) * halfQuanta ≤ (n + 1) * unitQuanta - t by omega)
  rw [roundedRank_of_representable representable] at rounded
  have positive := halfQuanta_pos
  omega

end Binary64

/-! ### Squares of tiles -/

theorem Tile.Fits.wide_box {tile : Tile} (fits : tile.Fits) : tile.box.Wide := by
  intro axis
  rw [min_box, max_box]
  exact ofInt_lt_add_one_sub (fits.position.along axis)

/-- The far sides of a square are no less than the near ones, wherever it is. -/
theorem Tile.ordered_box (tile : Tile) : tile.box.Ordered := by
  intro axis
  obtain ⟨i, rank⟩ := Binary64.exists_rank?_ofInt (tile.position.along axis)
  have one : (0 : Int) ≤ ((1 : Nat) : Int) * unitQuanta := by
    exact Int.mul_nonneg (by decide) (Int.natCast_nonneg _)
  rw [Tile.min_box, Tile.max_box]
  exact Binary64.le_add (@Binary64.quanta?_ofInt (1 : Nat) (by decide)) one rank

end FactoryBlueprint
