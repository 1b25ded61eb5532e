import FactoryBlueprint.Proofs.Number.Order

/-! # Operations that keep the order

Adding a number, dividing by a positive one and rounding down keep the order of numbers, however
much rounding takes from them. All of them are functions of the place in the order: finite numbers
are moved within the range, infinities stay (`extended`).
-/

namespace FactoryBlueprint.Binary64

variable {x y z : Binary64} {i j n : Int}

theorem natAbs_le_of_rank? (rank : x.rank? = some i) : i.natAbs ≤ overflowQuanta := by
  cases x with
  | nan => exact nomatch rank
  | infinite s =>
    obtain rfl := Option.some.inj rank
    exact (natAbs_withSign s _).le
  | finite s m small =>
    obtain rfl := Option.some.inj rank
    rw [natAbs_withSign]
    exact Nat.le_of_lt small.lt

/-- The function of finite numbers, with infinities kept. -/
def extended (f : Int → Int) (rank : Int) : Int :=
  if rank.natAbs < overflowQuanta then f rank else rank

theorem extended_infinite (f : Int → Int) (negative : Bool) :
    extended f (withSign negative overflowQuanta) = withSign negative overflowQuanta := by
  rw [extended, natAbs_withSign, if_neg (Nat.lt_irrefl _)]

/-- A function that keeps the order of finite numbers keeps that of infinities as well. -/
theorem extended_mono {f : Int → Int} (mono : ∀ i j, i ≤ j → f i ≤ f j)
    (bounded : ∀ i, (f i).natAbs ≤ overflowQuanta) (first : i.natAbs ≤ overflowQuanta)
    (second : j.natAbs ≤ overflowQuanta) (le : i ≤ j) : extended f i ≤ extended f j := by
  have here := bounded i
  have there := bounded j
  have between := mono i j le
  simp only [extended]
  split <;> split <;> omega

/-- What acts on places in the order like such a function keeps the order. -/
theorem le_of_extended {f : Int → Int} {op : Binary64 → Binary64}
    (acts : ∀ x, (op x).rank? = x.rank?.map (extended f)) (mono : ∀ i j, i ≤ j → f i ≤ f j)
    (bounded : ∀ i, (f i).natAbs ≤ overflowQuanta) (le : x ≤ y) : op x ≤ op y := by
  obtain ⟨i, j, first, second, less⟩ := le_iff.mp le
  exact le_iff.mpr ⟨_, _, by rw [acts, first]; rfl, by rw [acts, second]; rfl,
    extended_mono mono bounded (natAbs_le_of_rank? first) (natAbs_le_of_rank? second) less⟩

theorem le_total_of_isNaN (first : x.isNaN = false) (second : y.isNaN = false) :
    x ≤ y ∨ y ≤ x := by
  obtain ⟨i, here⟩ := exists_rank? first
  obtain ⟨j, there⟩ := exists_rank? second
  rcases Int.le_total i j with le | le
  · exact .inl (le_iff.mpr ⟨i, j, here, there, le⟩)
  · exact .inr (le_iff.mpr ⟨j, i, there, here, le⟩)

/-! ### Sums -/

theorem natAbs_roundedRank_le (quanta : Int) : (roundedRank quanta).natAbs ≤ overflowQuanta := by
  rw [roundedRank, natAbs_withSign]
  exact Nat.min_le_right ..

theorem rank?_add_finite (counts : z.quanta? = some n) (x : Binary64) :
    (x + z).rank? = x.rank?.map (extended fun i => roundedRank (i + n)) := by
  cases x with
  | nan => cases z <;> rfl
  | infinite s =>
    cases z with
    | finite => exact congrArg some (extended_infinite _ s).symm
    | _ => contradiction
  | finite s m small =>
    rw [rank?_add rfl counts, rank?, Option.map_some, extended, if_pos]
    rw [natAbs_withSign]
    exact small.lt

/-- Whatever is added to it, an infinity stays as it is or the sum is no number. -/
theorem add_infinite {negative : Bool} (number : (x + .infinite negative).isNaN = false) :
    x + .infinite negative = .infinite negative := by
  cases x with
  | nan => exact nomatch number
  | infinite s =>
    change (if s = negative then Binary64.infinite s else nan) = _
    change (if s = negative then Binary64.infinite s else nan).isNaN = false at number
    split
    · rename_i same
      rw [same]
    · rename_i differ
      rw [if_neg differ] at number
      exact nomatch number
  | finite => rfl

theorem le_refl_of_rank? (rank : x.rank? = some i) : x ≤ x :=
  le_iff.mpr ⟨i, i, rank, rank, Int.le_refl i⟩

/-- The first term of a sum that is a number is one. -/
theorem isNaN_of_add (number : (x + z).isNaN = false) : x.isNaN = false := by
  cases x with
  | nan => cases z <;> exact nomatch number
  | _ => rfl

/-- Sums keep the order if they are numbers. -/
theorem add_le_add_right (le : x ≤ y) (first : (x + z).isNaN = false)
    (second : (y + z).isNaN = false) : x + z ≤ y + z := by
  cases z with
  | nan => cases x <;> exact nomatch first
  | infinite s =>
    rw [add_infinite first, add_infinite second]
    exact le_refl_of_rank? rfl
  | finite s m small =>
    exact le_of_extended (rank?_add_finite rfl)
      (fun i j less => roundedRank_mono (Int.add_le_add_right less _))
      (fun i => natAbs_roundedRank_le _) le

/-- A count of quanta that can be told is not rounded. -/
theorem roundedRank_of_representable (representable : Representable n.natAbs) :
    roundedRank n = n := by
  have kept := rank?_of_quanta? (quanta?_ofQuanta representable)
  exact Option.some.inj ((rank?_ofQuanta n).symm.trans kept)

theorem roundedRank_of_rank? (rank : x.rank? = some i) (finite : i.natAbs < overflowQuanta) :
    roundedRank i = i := by
  cases x with
  | nan => exact nomatch rank
  | infinite s =>
    obtain rfl := Option.some.inj rank
    rw [natAbs_withSign] at finite
    exact absurd finite (Nat.lt_irrefl _)
  | finite s m small =>
    obtain rfl := Option.some.inj rank
    exact roundedRank_of_representable (by rwa [natAbs_withSign])

/-- A number is no less than it was before something positive was taken from it. -/
theorem le_of_lt_sub (counts : z.quanta? = some n) (positive : 0 ≤ n) (less : x < y - z) :
    x ≤ y := by
  change x.lt (y + -z) = true at less
  rw [lt, rank?_add_finite (quanta?_neg counts)] at less
  cases first : x.rank? with
  | none => simp [first] at less
  | some i =>
    cases second : y.rank? with
    | none => simp [first, second] at less
    | some j =>
      simp only [first, second, Option.map_some, decide_eq_true_eq] at less
      refine le_iff.mpr ⟨i, j, first, second, ?_⟩
      have below : extended (fun i => roundedRank (i + -n)) j ≤ j := by
        rw [extended]
        split
        · rename_i finite
          exact (roundedRank_mono (show j + -n ≤ j by omega)).trans
            (roundedRank_of_rank? second finite).le
        · exact Int.le_refl j
      omega

/-- A number is no more than it is after something positive was added to it. -/
theorem le_add (counts : z.quanta? = some n) (positive : 0 ≤ n) (rank : x.rank? = some i) :
    x ≤ x + z := by
  refine le_iff.mpr ⟨i, _, rank, by rw [rank?_add_finite counts, rank]; rfl, ?_⟩
  rw [extended]
  split
  · rename_i finite
    exact (roundedRank_of_rank? rank finite).ge.trans
      (roundedRank_mono (show i ≤ i + n by omega))
  · exact Int.le_refl i

/-! ### Quotients -/

/-- Place in the order of the number nearest to a quotient. -/
def quotientRank (divisor : Nat) (quanta : Int) : Int :=
  withSign (quanta < 0) (min (roundSignificant (quanta.natAbs * unitQuanta) divisor) overflowQuanta)

theorem quotientRank_mono (divisor : Nat) (le : i ≤ j) :
    quotientRank divisor i ≤ quotientRank divisor j :=
  withSign_mono (f := fun n => min (roundSignificant (n * unitQuanta) divisor) overflowQuanta)
    (fun _ _ less => by
      have mono := roundSignificant_mono (Nat.mul_le_mul_right unitQuanta less) divisor
      omega) le

theorem rank?_ofQuotient (negative : Bool) (numerator denominator : Nat) :
    (ofQuotient negative numerator denominator).rank? =
      some (withSign negative (min (roundSignificant numerator denominator) overflowQuanta)) := by
  rw [ofQuotient]
  split
  · rename_i finite
    rw [rank?, Nat.min_eq_left (Nat.le_of_lt finite)]
  · rename_i beyond
    rw [rank?, Nat.min_eq_right (Nat.le_of_not_lt beyond)]

theorem exists_rank?_ofInt (n : Int) : ∃ i, (ofInt n).rank? = some i := ⟨_, rank?_ofQuotient ..⟩

theorem decide_withSign_lt {negative : Bool} {magnitude : Nat} (nonzero : magnitude ≠ 0) :
    decide (withSign negative magnitude < 0) = negative := by
  cases negative <;> simp [withSign, Nat.pos_of_ne_zero nonzero]

/-- A quotient by a positive number. -/
theorem rank?_div (counts : z.quanta? = some n) (positive : 0 < n) (x : Binary64) :
    (x / z).rank? = x.rank?.map (extended (quotientRank n.natAbs)) := by
  cases z with
  | finite sign divisor representable =>
    obtain rfl := Option.some.inj counts
    cases sign with
    | true => exact absurd positive (by simp [withSign])
    | false =>
      rw [natAbs_withSign]
      cases x with
      | nan => rfl
      | infinite s => cases s <;> exact congrArg some (extended_infinite _ _).symm
      | finite s m small =>
        have nonzero : divisor ≠ 0 := fun none => by simp [none, withSign] at positive
        change (if divisor = 0 then _
          else ofQuotient (s != false) (m * unitQuanta) divisor).rank? = _
        rw [if_neg nonzero, rank?_ofQuotient, rank?, Option.map_some, extended, if_pos,
          quotientRank, natAbs_withSign, Bool.bne_false]
        · by_cases none : m = 0
          · subst none
            have zero : roundSignificant (0 * unitQuanta) divisor = 0 := by
              simp [roundSignificant, roundHalfEven]
            rw [zero, Nat.zero_min, withSign_eq_zero_iff.mpr rfl, withSign_eq_zero_iff.mpr rfl]
          · rw [decide_withSign_lt none]
        · rw [natAbs_withSign]
          exact small.lt
  | _ => contradiction

/-- Division by a positive number keeps the order. -/
theorem div_le_div_right (counts : z.quanta? = some n) (positive : 0 < n) (le : x ≤ y) :
    x / z ≤ y / z :=
  le_of_extended (rank?_div counts positive) (fun _ _ => quotientRank_mono _)
    (fun i => by
      rw [quotientRank, natAbs_withSign]
      exact Nat.min_le_right ..) le

/-! ### Rounding down -/

theorem withSign_not (negative : Bool) (magnitude : Nat) :
    withSign (!negative) magnitude = -withSign negative magnitude := by
  cases negative <;> simp [withSign]

theorem rank?_neg (x : Binary64) : (-x).rank? = x.rank?.map (-·) := by
  cases x with
  | nan => rfl
  | infinite s => exact congrArg some (withSign_not s _)
  | finite s m small => exact congrArg some (withSign_not s m)

/-- Rounding down is rounding up on the other side of zero. -/
theorem floor_eq_neg_ceil_neg {low high : Int} (bounds : low ≤ high) (x : Binary64) :
    x.floor low high = -(-x).ceil (-high) (-low) := by
  cases x with
  | nan => rfl
  | infinite s =>
    cases s
    · exact (Int.neg_neg high).symm
    · exact (Int.neg_neg low).symm
  | finite s m small =>
    change clamp low high _ = -clamp (-high) (-low) (-(-withSign (!s) m).fdiv _)
    rw [withSign_not, Int.neg_neg]
    simp only [clamp]
    omega

/-- Rounding down keeps the order. -/
theorem floor_mono {low high : Int} (bounds : low ≤ high) (le : x ≤ y) :
    x.floor low high ≤ y.floor low high := by
  obtain ⟨i, j, first, second, less⟩ := le_iff.mp le
  have upper := ceil_mono (Int.neg_le_neg bounds)
    (show (-y).rank? = some (-j) by rw [rank?_neg, second]; rfl)
    (show (-x).rank? = some (-i) by rw [rank?_neg, first]; rfl) (Int.neg_le_neg less)
  rw [floor_eq_neg_ceil_neg bounds, floor_eq_neg_ceil_neg bounds]
  exact Int.neg_le_neg upper

end FactoryBlueprint.Binary64
