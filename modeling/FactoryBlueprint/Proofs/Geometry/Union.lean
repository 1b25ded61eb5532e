import FactoryBlueprint.Proofs.Geometry.Box
import FactoryBlueprint.Proofs.Number.Extremes

/-! # Unions of boxes

A union of boxes does not depend on their order or on repetitions, and it is within every box that is
around them all. A box touches no more tiles than one around it, whatever its sides are
(`tilesAlong_mono`).
-/

namespace FactoryBlueprint

open Binary64

namespace Binary64

variable {a b c low high near far : Binary64}

theorem Low.min (first : Low c a) (second : Low c b) : Low c (min a b) := by
  rcases min_eq_or a b with same | same
  · rw [same]
    exact first
  · rw [same]
    exact second

theorem High.max (first : High c a) (second : High c b) : High c (max a b) := by
  rcases max_eq_or a b with same | same
  · rw [same]
    exact first
  · rw [same]
    exact second

/-- Nothing else is as low as the negative infinity. -/
theorem Low.eq_infinite (low : Low a (.infinite true)) : a = .infinite true := by
  obtain ⟨i, rank, le⟩ := low _ rfl
  cases a with
  | nan => exact nomatch rank
  | infinite s =>
    obtain rfl := Option.some.inj rank
    cases s with
    | true => rfl
    | false =>
      have positive : 0 < overflowQuanta := Nat.two_pow_pos _
      simp only [withSign, Bool.false_eq_true, if_false, if_true] at le
      omega
  | finite s m hm =>
    have within := hm.lt
    have size := congrArg Int.natAbs (Option.some.inj rank)
    rw [natAbs_withSign] at size
    simp only [withSign, if_true] at le
    omega

/-- Nothing else is as high as the positive infinity. -/
theorem High.eq_infinite (high : High a (.infinite false)) : a = .infinite false := by
  obtain ⟨i, rank, le⟩ := high _ rfl
  cases a with
  | nan => exact nomatch rank
  | infinite s =>
    obtain rfl := Option.some.inj rank
    cases s with
    | true =>
      have positive : 0 < overflowQuanta := Nat.two_pow_pos _
      simp only [withSign, Bool.false_eq_true, if_false, if_true] at le
      omega
    | false => rfl
  | finite s m hm =>
    have within := hm.lt
    have size := congrArg Int.natAbs (Option.some.inj rank)
    rw [natAbs_withSign] at size
    simp only [withSign, Bool.false_eq_true, if_false] at le
    omega

/-- Below a finite number are finite numbers and the negative infinity. -/
theorem Low.of_quanta? {j : Int} (low : Low a b) (counts : b.quanta? = some j) :
    a = .infinite true ∨ ∃ i, a.quanta? = some i ∧ i ≤ j := by
  obtain ⟨i, rank, le⟩ := low j (rank?_of_quanta? counts)
  have small := lt_overflow_of_quanta? counts
  cases a with
  | nan => exact nomatch rank
  | infinite s =>
    obtain rfl := Option.some.inj rank
    cases s with
    | true => exact .inl rfl
    | false =>
      simp only [withSign, Bool.false_eq_true, if_false] at le
      omega
  | finite s m hm => exact .inr ⟨i, rank, le⟩

/-- Above a finite number are finite numbers and the positive infinity. -/
theorem High.of_quanta? {j : Int} (high : High a b) (counts : b.quanta? = some j) :
    a = .infinite false ∨ ∃ i, a.quanta? = some i ∧ j ≤ i := by
  obtain ⟨i, rank, le⟩ := high j (rank?_of_quanta? counts)
  have small := lt_overflow_of_quanta? counts
  cases a with
  | nan => exact nomatch rank
  | infinite s =>
    obtain rfl := Option.some.inj rank
    cases s with
    | true =>
      simp only [withSign, if_true] at le
      omega
    | false => exact .inl rfl
  | finite s m hm => exact .inr ⟨i, rank, le⟩

theorem Low.le {i : Int} (low : Low a b) (number : b.rank? = some i) : a ≤ b := by
  obtain ⟨j, rank, below⟩ := low i number
  exact le_iff.mpr ⟨j, i, rank, number, below⟩

theorem High.le {i : Int} (high : High a b) (number : b.rank? = some i) : b ≤ a := by
  obtain ⟨j, rank, above⟩ := high i number
  exact le_iff.mpr ⟨i, j, number, rank, above⟩

/-- From the negative infinity to a finite number, the difference is infinite. -/
theorem sub_infinite_true {i : Int} (counts : a.quanta? = some i) :
    a - .infinite true = .infinite false := by
  cases a with
  | finite s m hm => rfl
  | _ => contradiction

theorem infinite_false_sub {i : Int} (counts : a.quanta? = some i) :
    .infinite false - a = .infinite false := by
  cases a with
  | finite s m hm => rfl
  | _ => contradiction

/-- What is no less than a finite number is infinitely far from the negative infinity. -/
theorem High.sub_infinite_true {i : Int} (above : High a b) (counts : b.quanta? = some i) :
    a - .infinite true = .infinite false := by
  rcases above.of_quanta? counts with rfl | ⟨j, finite, -⟩
  · rfl
  · exact Binary64.sub_infinite_true finite

theorem Low.infinite_false_sub {i : Int} (below : Low a b) (counts : b.quanta? = some i) :
    .infinite false - a = .infinite false := by
  rcases below.of_quanta? counts with rfl | ⟨j, finite, -⟩
  · rfl
  · exact Binary64.infinite_false_sub finite

end Binary64

namespace Box

variable {area box a b : Box} {low high near far span : Binary64}

/-! ### Tiles -/

theorem tilesAcross_le_maxTiles (span : Binary64) : tilesAcross span ≤ maxTiles := by
  have bounds : (0 : Int) ≤ maxTiles := by decide
  cases span with
  | nan => exact Nat.zero_le _
  | infinite s => cases s <;> decide
  | finite s m hm =>
    have top := @clamp_le 0 maxTiles (-((-withSign s m).fdiv unitQuanta)) bounds
    simp only [tilesAcross, ceil]
    omega

theorem tilesAcross_le_infinite (span : Binary64) :
    tilesAcross span ≤ tilesAcross (.infinite false) := by
  have whole : tilesAcross (.infinite false) = maxTiles := by decide
  exact whole ▸ tilesAcross_le_maxTiles span

/-- A span from no later to no earlier touches no fewer tiles. -/
theorem tilesAcross_sub_mono (below : Low low near) (above : High high far) :
    tilesAcross (far - near) ≤ tilesAcross (high - low) := by
  cases near with
  | nan =>
    have none : far - .nan = .nan := by cases far <;> rfl
    rw [none]
    exact Nat.zero_le _
  | infinite s =>
    cases s with
    | false =>
      have none : tilesAcross (far - .infinite false) = 0 := by
        cases far with
        | infinite t => cases t <;> decide
        | _ => rfl
      rw [none]
      exact Nat.zero_le _
    | true =>
      obtain rfl := below.eq_infinite
      cases far with
      | nan => exact Nat.zero_le _
      | infinite t =>
        cases t with
        | true => exact Nat.zero_le _
        | false =>
          obtain rfl := above.eq_infinite
          exact Nat.le_refl _
      | finite t n hn =>
        rw [above.sub_infinite_true rfl]
        exact tilesAcross_le_infinite _
  | finite s m hm =>
    cases far with
    | nan => exact Nat.zero_le _
    | infinite t =>
      cases t with
      | true => exact Nat.zero_le _
      | false =>
        obtain rfl := above.eq_infinite
        rw [below.infinite_false_sub rfl]
        exact tilesAcross_le_infinite _
    | finite t n hn =>
      rcases below.of_quanta? rfl with rfl | ⟨i, lowCounts, lowLe⟩
      · rw [above.sub_infinite_true rfl]
        exact tilesAcross_le_infinite _
      · rcases above.of_quanta? rfl with rfl | ⟨j, highCounts, highLe⟩
        · rw [infinite_false_sub lowCounts]
          exact tilesAcross_le_infinite _
        · exact tilesAcross_sub_le lowCounts highCounts rfl rfl (by omega)

/-- A box touches no more tiles than one around it. -/
theorem tilesAlong_mono (around : area.Around box) (axis : Axis) :
    box.tilesAlong axis ≤ area.tilesAlong axis :=
  tilesAcross_sub_mono (around.low axis) (around.high axis)

/-- The tiles that a span touches are its length rounded up. -/
theorem tilesAcross_le_iff {count : Nat} (number : span.isNaN = false) (small : count < maxTiles) :
    tilesAcross span ≤ count ↔ span ≤ ofInt count := by
  have natural : (count : Int).natAbs < 2 ^ significantBits := by
    simp only [maxTiles, significantBits] at small ⊢
    omega
  have bound := rank?_of_quanta? (quanta?_ofInt natural)
  have finite := lt_overflow_of_quanta? (quanta?_ofInt natural)
  obtain ⟨i, rank⟩ := exists_rank? number
  rw [le_iff_of_rank? rank bound]
  cases span with
  | nan => cases rank
  | infinite s =>
    obtain rfl := Option.some.inj rank
    cases s with
    | true =>
      have none : tilesAcross (.infinite true) = 0 := by decide
      rw [none]
      simp only [withSign, if_true]
      omega
    | false =>
      have whole : tilesAcross (.infinite false) = maxTiles := by decide
      rw [whole]
      simp only [withSign, Bool.false_eq_true, if_false]
      omega
  | finite s m hm =>
    obtain rfl := Option.some.inj rank
    have positive : (0 : Int) < unitQuanta := Int.natCast_pos.mpr (Nat.two_pow_pos unitExponent)
    have quotient : -(count : Int) ≤ (-withSign s m).fdiv unitQuanta ↔
        withSign s m ≤ count * unitQuanta := by
      rw [Int.fdiv_eq_ediv_of_nonneg _ (Int.le_of_lt positive), Int.le_ediv_iff_mul_le positive,
        Int.neg_mul, Int.neg_le_neg_iff]
    rw [← quotient, tilesAcross, ceil, clamp]
    omega

/-! ### Order, grouping and repetition -/

theorem union_comm (a b : Box) : a.union b = b.union a := by
  simp only [union, Binary64.min_comm b.min.x, Binary64.min_comm b.min.y,
    Binary64.max_comm b.max.x, Binary64.max_comm b.max.y]

theorem union_assoc (a b c : Box) : (a.union b).union c = a.union (b.union c) := by
  simp only [union, ofBounds, Binary64.min_assoc, Binary64.max_assoc]

theorem union_self (a : Box) : a.union a = a := by
  simp only [union, ofBounds, Binary64.min_self, Binary64.max_self]

/-- What is around two boxes is around their union. -/
theorem Around.union (first : area.Around a) (second : area.Around b) :
    area.Around (a.union b) where
  low axis := by
    rw [min_union]
    exact (first.low axis).min (second.low axis)
  high axis := by
    rw [max_union]
    exact (first.high axis).max (second.high axis)

/-! ### Enclosed boxes -/

/-- The other box reaches beyond no side of this one, as far as its sides are numbers. -/
structure Encloses (area box : Box) : Prop where
  low : ∀ axis, (box.min.along axis).isNaN = false → area.min.along axis ≤ box.min.along axis
  high : ∀ axis, (box.max.along axis).isNaN = false → box.max.along axis ≤ area.max.along axis

theorem Around.encloses (around : area.Around box) : area.Encloses box where
  low axis number := by
    obtain ⟨i, rank⟩ := exists_rank? number
    exact (around.low axis).le rank
  high axis number := by
    obtain ⟨i, rank⟩ := exists_rank? number
    exact (around.high axis).le rank

/-- Each side of the box is a side of one of the boxes. -/
structure Attained (has : Box → Prop) (area : Box) : Prop where
  low : ∀ axis, ∃ box, has box ∧ box.min.along axis = area.min.along axis
  high : ∀ axis, ∃ box, has box ∧ box.max.along axis = area.max.along axis

theorem Attained.self {has : Box → Prop} (here : has box) : Attained has box :=
  ⟨fun _ => ⟨box, here, rfl⟩, fun _ => ⟨box, here, rfl⟩⟩

theorem Attained.union {has : Box → Prop} (first : Attained has a) (second : Attained has b) :
    Attained has (a.union b) where
  low axis := by
    rw [min_union]
    rcases min_eq_or (a.min.along axis) (b.min.along axis) with same | same
    · rw [same]
      exact first.low axis
    · rw [same]
      exact second.low axis
  high axis := by
    rw [max_union]
    rcases max_eq_or (a.max.along axis) (b.max.along axis) with same | same
    · rw [same]
      exact first.high axis
    · rw [same]
      exact second.high axis

end Box
end FactoryBlueprint
