import FactoryBlueprint.Geometry.Box
import FactoryBlueprint.Proofs.Number.Binary64

/-! # Order of numbers

The smaller and the larger of two numbers, rounded sums and the tiles that a span touches all
follow the order of the exact values.
-/

namespace FactoryBlueprint

namespace Binary64

/-- At most the other number, if that is one. -/
def Low (a b : Binary64) : Prop := ∀ j, b.rank? = some j → ∃ i, a.rank? = some i ∧ i ≤ j

/-- At least the other number, if that is one. -/
def High (a b : Binary64) : Prop := ∀ j, b.rank? = some j → ∃ i, a.rank? = some i ∧ j ≤ i

theorem Low.refl (a : Binary64) : Low a a := fun j rank => ⟨j, rank, Int.le_refl j⟩

theorem High.refl (a : Binary64) : High a a := fun j rank => ⟨j, rank, Int.le_refl j⟩

theorem Low.trans {a b c : Binary64} (first : Low a b) (second : Low b c) : Low a c := by
  intro k rank
  obtain ⟨j, between, le⟩ := second k rank
  obtain ⟨i, here, below⟩ := first j between
  exact ⟨i, here, Int.le_trans below le⟩

theorem High.trans {a b c : Binary64} (first : High a b) (second : High b c) : High a c := by
  intro k rank
  obtain ⟨j, between, le⟩ := second k rank
  obtain ⟨i, here, above⟩ := first j between
  exact ⟨i, here, Int.le_trans le above⟩

theorem isNaN_of_rank? {a : Binary64} {i : Int} (rank : a.rank? = some i) : a.isNaN = false := by
  cases a with
  | nan => exact nomatch rank
  | _ => rfl

theorem exists_rank? {a : Binary64} (number : a.isNaN = false) : ∃ i, a.rank? = some i := by
  cases a with
  | nan => exact nomatch number
  | infinite negative => exact ⟨_, rfl⟩
  | finite negative quanta => exact ⟨_, rfl⟩

theorem lt_iff {a b : Binary64} {i j : Int} (first : a.rank? = some i) (second : b.rank? = some j) :
    a < b ↔ i < j := by
  change a.lt b = true ↔ _
  simp [lt, first, second]

theorem le_iff_of_rank? {a b : Binary64} {i j : Int} (first : a.rank? = some i)
    (second : b.rank? = some j) : a ≤ b ↔ i ≤ j := by
  simp [le_iff, first, second]

theorem sameValue_iff {a b : Binary64} {i j : Int} (first : a.rank? = some i)
    (second : b.rank? = some j) : a.sameValue b = true ↔ i = j := by
  simp [sameValue, first, second]

/-! ### The smaller and the larger -/

theorem min_eq (a b : Binary64) :
    min a b = if a.isNaN ∨ b < a ∨ (a.sameValue b ∧ b.isNegative) then b else a := rfl

theorem max_eq (a b : Binary64) :
    max a b = if a.isNaN ∨ a < b ∨ (a.sameValue b ∧ a.isNegative) then b else a := rfl

theorem low_min_left (a b : Binary64) : Low (min a b) a := by
  intro i rank
  have number := isNaN_of_rank? rank
  rw [min_eq]
  split
  · rename_i taken
    rcases taken with nan | less | ⟨same, -⟩
    · rw [number] at nan
      exact nomatch nan
    · cases other : b.rank? with
      | none => simp [LT.lt, lt, other] at less
      | some j =>
        have below := (lt_iff other rank).mp less
        exact ⟨j, rfl, by omega⟩
    · cases other : b.rank? with
      | none => simp [sameValue, rank, other] at same
      | some j =>
        have equal := (sameValue_iff rank other).mp same
        exact ⟨j, rfl, by omega⟩
  · exact ⟨i, rank, Int.le_refl i⟩

theorem low_min_right (a b : Binary64) : Low (min a b) b := by
  intro j rank
  rw [min_eq]
  split
  · exact ⟨j, rank, Int.le_refl j⟩
  · rename_i kept
    simp only [not_or, Bool.not_eq_true] at kept
    obtain ⟨i, here⟩ := exists_rank? kept.1
    have notLess := mt (lt_iff rank here).mpr kept.2.1
    exact ⟨i, here, by omega⟩

theorem high_max_left (a b : Binary64) : High (max a b) a := by
  intro i rank
  have number := isNaN_of_rank? rank
  rw [max_eq]
  split
  · rename_i taken
    rcases taken with nan | less | ⟨same, -⟩
    · rw [number] at nan
      exact nomatch nan
    · cases other : b.rank? with
      | none => simp [LT.lt, lt, rank, other] at less
      | some j =>
        have above := (lt_iff rank other).mp less
        exact ⟨j, rfl, by omega⟩
    · cases other : b.rank? with
      | none => simp [sameValue, rank, other] at same
      | some j =>
        have equal := (sameValue_iff rank other).mp same
        exact ⟨j, rfl, by omega⟩
  · exact ⟨i, rank, Int.le_refl i⟩

theorem high_max_right (a b : Binary64) : High (max a b) b := by
  intro j rank
  rw [max_eq]
  split
  · exact ⟨j, rank, Int.le_refl j⟩
  · rename_i kept
    simp only [not_or, Bool.not_eq_true] at kept
    obtain ⟨i, here⟩ := exists_rank? kept.1
    have notLess := mt (lt_iff here rank).mpr kept.2.1
    exact ⟨i, here, by omega⟩

theorem min_eq_or (a b : Binary64) : min a b = a ∨ min a b = b := by
  rw [min_eq]
  split
  · exact .inr rfl
  · exact .inl rfl

theorem max_eq_or (a b : Binary64) : max a b = a ∨ max a b = b := by
  rw [max_eq]
  split
  · exact .inr rfl
  · exact .inl rfl

theorem quanta?_min {a b : Binary64} {i j : Int} (first : a.quanta? = some i)
    (second : b.quanta? = some j) : (min a b).quanta? = some (min i j) := by
  obtain ⟨k, rank, left⟩ := low_min_left a b i (rank?_of_quanta? first)
  obtain ⟨l, again, right⟩ := low_min_right a b j (rank?_of_quanta? second)
  obtain rfl := Option.some.inj (rank.symm.trans again)
  rcases min_eq_or a b with same | same
  · rw [same] at rank ⊢
    obtain rfl := Option.some.inj (rank.symm.trans (rank?_of_quanta? first))
    rw [first, Int.min_eq_left right]
  · rw [same] at rank ⊢
    obtain rfl := Option.some.inj (rank.symm.trans (rank?_of_quanta? second))
    rw [second, Int.min_eq_right left]

theorem quanta?_max {a b : Binary64} {i j : Int} (first : a.quanta? = some i)
    (second : b.quanta? = some j) : (max a b).quanta? = some (max i j) := by
  obtain ⟨k, rank, left⟩ := high_max_left a b i (rank?_of_quanta? first)
  obtain ⟨l, again, right⟩ := high_max_right a b j (rank?_of_quanta? second)
  obtain rfl := Option.some.inj (rank.symm.trans again)
  rcases max_eq_or a b with same | same
  · rw [same] at rank ⊢
    obtain rfl := Option.some.inj (rank.symm.trans (rank?_of_quanta? first))
    rw [first, Int.max_eq_left right]
  · rw [same] at rank ⊢
    obtain rfl := Option.some.inj (rank.symm.trans (rank?_of_quanta? second))
    rw [second, Int.max_eq_right left]

/-! ### Rounded sums and differences -/

/-- Place in the order of the number nearest to a whole number of quanta. -/
def roundedRank (quanta : Int) : Int :=
  withSign (quanta < 0) (min (roundSignificant quanta.natAbs 1) overflowQuanta)

theorem rank?_ofQuanta (quanta : Int) : (ofQuanta quanta).rank? = some (roundedRank quanta) := by
  rw [ofQuanta, ofQuotient, roundedRank]
  split
  · rename_i finite
    rw [rank?, Nat.min_eq_left (Nat.le_of_lt finite)]
  · rename_i beyond
    rw [rank?, Nat.min_eq_right (Nat.le_of_not_lt beyond)]

/-- Magnitudes that keep their order, with the signs put back. -/
theorem withSign_mono {f : Nat → Nat} (mono : ∀ a b, a ≤ b → f a ≤ f b) {i j : Int} (le : i ≤ j) :
    withSign (i < 0) (f i.natAbs) ≤ withSign (j < 0) (f j.natAbs) := by
  simp only [withSign, decide_eq_true_eq]
  split
  · split
    · have below := mono j.natAbs i.natAbs (by omega)
      omega
    · omega
  · split
    · omega
    · have above := mono i.natAbs j.natAbs (by omega)
      omega

/-- Of two numbers of quanta, the greater is rounded to the greater. -/
theorem roundedRank_mono {i j : Int} (le : i ≤ j) : roundedRank i ≤ roundedRank j :=
  withSign_mono (f := fun n => min (roundSignificant n 1) overflowQuanta)
    (fun _ _ less => by have mono := roundSignificant_mono less 1; omega) le

theorem roundedRank_zero : roundedRank 0 = 0 := by
  have exact : roundSignificant 0 1 = 0 := roundSignificant_one (Nat.dvd_zero _)
  simp [roundedRank, withSign, exact]

theorem rank?_add {a b : Binary64} {i j : Int} (first : a.quanta? = some i)
    (second : b.quanta? = some j) : (a + b).rank? = some (roundedRank (i + j)) := by
  cases a with
  | finite s m hm =>
    cases b with
    | finite t n hn =>
      obtain rfl := Option.some.inj first
      obtain rfl := Option.some.inj second
      change (if withSign s m + withSign t n = 0 then zero (s && t)
        else ofQuanta (withSign s m + withSign t n)).rank? = _
      split
      · rename_i none
        rw [none, roundedRank_zero]
        simp [zero, rank?, withSign]
      · exact rank?_ofQuanta _
    | _ => contradiction
  | _ => contradiction

theorem rank?_sub {a b : Binary64} {i j : Int} (first : a.quanta? = some i)
    (second : b.quanta? = some j) : (a - b).rank? = some (roundedRank (i - j)) :=
  rank?_add first (quanta?_neg second)

/-! ### Tiles that a span touches -/

theorem clamp_mono {low high m n : Int} (le : m ≤ n) : clamp low high m ≤ clamp low high n := by
  simp only [clamp]
  omega

theorem le_clamp {low high n : Int} : low ≤ clamp low high n := by
  simp only [clamp]
  omega

theorem clamp_le {low high n : Int} (bounds : low ≤ high) : clamp low high n ≤ high := by
  simp only [clamp]
  omega

theorem neg_fdiv_neg_mono {m n : Int} (le : m ≤ n) :
    -((-m).fdiv unitQuanta) ≤ -((-n).fdiv unitQuanta) := by
  have positive : (0 : Int) < unitQuanta := Int.natCast_pos.mpr (Nat.two_pow_pos unitExponent)
  have quotients : (-n).fdiv unitQuanta ≤ (-m).fdiv unitQuanta := by
    rw [Int.fdiv_eq_ediv_of_nonneg _ (Int.le_of_lt positive),
      Int.fdiv_eq_ediv_of_nonneg _ (Int.le_of_lt positive)]
    exact Int.ediv_le_ediv positive (Int.neg_le_neg le)
  exact Int.neg_le_neg quotients

theorem lt_overflow_of_quanta? {x : Binary64} {i : Int} (counts : x.quanta? = some i) :
    i.natAbs < overflowQuanta := (representable_of_quanta? counts).lt

/-- Rounding up keeps the order. -/
theorem ceil_mono {low high : Int} (bounds : low ≤ high) {x y : Binary64} {i j : Int}
    (first : x.rank? = some i) (second : y.rank? = some j) (le : i ≤ j) :
    x.ceil low high ≤ y.ceil low high := by
  cases x with
  | nan => exact nomatch first
  | infinite s =>
    obtain rfl := Option.some.inj first
    cases s with
    | true =>
      cases y with
      | nan => exact nomatch second
      | infinite t => cases t <;> simp [ceil, bounds]
      | finite t n hn => exact le_clamp
    | false =>
      cases y with
      | nan => exact nomatch second
      | infinite t =>
        obtain rfl := Option.some.inj second
        cases t with
        | true =>
          simp only [withSign, Bool.false_eq_true, if_false, if_true] at le
          have positive : 0 < overflowQuanta := Nat.two_pow_pos _
          omega
        | false => exact Int.le_refl _
      | finite t n hn =>
        obtain rfl := Option.some.inj second
        have within := hn.lt
        have size := natAbs_withSign t n
        simp only [withSign, Bool.false_eq_true, if_false] at le size
        omega
  | finite s m hm =>
    obtain rfl := Option.some.inj first
    cases y with
    | nan => exact nomatch second
    | infinite t =>
      obtain rfl := Option.some.inj second
      cases t with
      | true =>
        have within := hm.lt
        have size := natAbs_withSign s m
        simp only [withSign, if_true] at le size
        omega
      | false => exact clamp_le bounds
    | finite t n hn =>
      obtain rfl := Option.some.inj second
      exact clamp_mono (neg_fdiv_neg_mono le)

end Binary64

namespace Box

open Binary64

theorem tilesAcross_mono {x y : Binary64} {i j : Int} (first : x.rank? = some i)
    (second : y.rank? = some j) (le : i ≤ j) : tilesAcross x ≤ tilesAcross y := by
  have bounds : (0 : Int) ≤ maxTiles := by decide
  have ceilings := ceil_mono bounds first second le
  simp only [tilesAcross]
  omega

/-- A span within another touches no more tiles. -/
theorem tilesAcross_sub_le {low high near far : Binary64} {a b c d : Int}
    (first : low.quanta? = some a) (second : high.quanta? = some b) (third : near.quanta? = some c)
    (fourth : far.quanta? = some d) (le : d - c ≤ b - a) :
    tilesAcross (far - near) ≤ tilesAcross (high - low) :=
  tilesAcross_mono (rank?_sub fourth third) (rank?_sub second first) (roundedRank_mono le)

/-- A span around finite numbers that touches a bounded count of tiles has finite ends. -/
theorem exists_quanta?_of_tilesAcross {low high x y : Binary64} {i j : Int} (below : Low low x)
    (above : High high y) (first : x.quanta? = some i) (second : y.quanta? = some j)
    (bounded : tilesAcross (high - low) < maxTiles) :
    (∃ a, low.quanta? = some a ∧ a ≤ i) ∧ ∃ b, high.quanta? = some b ∧ j ≤ b := by
  obtain ⟨a, lowRank, lowLe⟩ := below i (rank?_of_quanta? first)
  obtain ⟨b, highRank, highLe⟩ := above j (rank?_of_quanta? second)
  have firstSmall := lt_overflow_of_quanta? first
  have secondSmall := lt_overflow_of_quanta? second
  have unbounded : ¬tilesAcross (.infinite false) < maxTiles := by decide
  cases low with
  | nan => exact nomatch lowRank
  | infinite s =>
    obtain rfl := Option.some.inj lowRank
    cases s with
    | false =>
      simp only [withSign, Bool.false_eq_true, if_false] at lowLe
      omega
    | true =>
      cases high with
      | nan => exact nomatch highRank
      | infinite t =>
        obtain rfl := Option.some.inj highRank
        cases t with
        | true =>
          simp only [withSign, if_true] at highLe
          omega
        | false => exact absurd bounded unbounded
      | finite t n hn => exact absurd bounded unbounded
  | finite s m hm =>
    cases high with
    | nan => exact nomatch highRank
    | infinite t =>
      obtain rfl := Option.some.inj highRank
      cases t with
      | true =>
        simp only [withSign, if_true] at highLe
        omega
      | false => exact absurd bounded unbounded
    | finite t n hn => exact ⟨⟨a, lowRank, lowLe⟩, b, highRank, highLe⟩

end Box
end FactoryBlueprint
