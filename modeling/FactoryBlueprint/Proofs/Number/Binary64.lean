import FactoryBlueprint.Number.Binary64
import FactoryBlueprint.Proofs.Number.Rounding

/-! # Exact arithmetic on finite numbers

A sum is exact where its count of quanta is representable. Whole numbers below `2 ^ 53` and sums
with zero are of that kind.
-/

namespace FactoryBlueprint

theorem natAbs_withSign (negative : Bool) (magnitude : Nat) :
    (withSign negative magnitude).natAbs = magnitude := by
  cases negative <;> simp [withSign]

theorem withSign_natAbs (n : Int) : withSign (n < 0) n.natAbs = n := by
  simp only [withSign, decide_eq_true_eq]
  split <;> omega

theorem withSign_eq_zero_iff {negative : Bool} {magnitude : Nat} :
    withSign negative magnitude = 0 ↔ magnitude = 0 := by
  rw [← Int.natAbs_eq_zero, natAbs_withSign]

namespace Binary64

/-- Where the count of quanta is representable, it is kept. -/
theorem ofQuotient_one {negative : Bool} {quanta : Nat} (representable : Representable quanta) :
    ofQuotient negative quanta 1 = .finite negative quanta representable := by
  have kept := roundSignificant_one representable.dvd
  simp only [ofQuotient, kept, representable.lt, dif_pos]

theorem quanta?_ofQuanta {quanta : Int} (representable : Representable quanta.natAbs) :
    (ofQuanta quanta).quanta? = some quanta := by
  rw [ofQuanta, ofQuotient_one representable, quanta?, withSign_natAbs]

/-- Whole numbers below `2 ^ 53` are representable. -/
theorem representable_unit {n : Nat} (small : n < 2 ^ significantBits) :
    Representable (n * unitQuanta) :=
  representable_mul_two_pow small (by decide)

theorem ofInt_of_small {n : Int} (small : n.natAbs < 2 ^ significantBits) :
    ofInt n = .finite (n < 0) (n.natAbs * unitQuanta) (representable_unit small) :=
  ofQuotient_one _

theorem quanta?_ofInt {n : Int} (small : n.natAbs < 2 ^ significantBits) :
    (ofInt n).quanta? = some (n * unitQuanta) := by
  rw [ofInt_of_small small, quanta?, withSign]
  congr 1
  simp only [decide_eq_true_eq]
  split
  · rename_i negative
    rw [Int.natCast_mul, ← Int.neg_mul]
    congr 1
    omega
  · rename_i natural
    rw [Int.natCast_mul]
    congr 1
    omega

theorem quanta?_zero : (0 : Binary64).quanta? = some 0 := by
  have counts := quanta?_ofInt (n := 0) (by decide)
  rw [Int.zero_mul] at counts
  exact counts

/-! ### Finite numbers -/

theorem isFinite_iff {x : Binary64} : x.isFinite = true ↔ ∃ quanta, x.quanta? = some quanta := by
  cases x <;> simp [isFinite, quanta?]

/-- Whole numbers of at most 64 digits are in the finite range. -/
theorem exists_quanta?_ofInt {n : Int} (small : n.natAbs ≤ 2 ^ 64) :
    ∃ quanta, (ofInt n).quanta? = some quanta := by
  have bound : n.natAbs * unitQuanta ≤ 2 ^ (64 + unitExponent) := by
    rw [pow_add, ← unitQuanta]
    exact Nat.mul_le_mul_right unitQuanta small
  have power : Representable (2 ^ (64 + unitExponent)) :=
    representable_two_pow (by simp only [unitExponent, overflowExponent]; omega)
  have finite : roundSignificant (n.natAbs * unitQuanta) 1 < overflowQuanta :=
    Nat.lt_of_le_of_lt (roundSignificant_le_of_representable bound power) power.lt
  rw [ofInt, ofQuotient, dif_pos finite]
  exact ⟨_, rfl⟩

theorem rank?_of_quanta? {x : Binary64} {quanta : Int} (counts : x.quanta? = some quanta) :
    x.rank? = some quanta := by
  cases x with
  | finite => exact counts
  | _ => contradiction

theorem sameValue_of_quanta? {x y : Binary64} {quanta : Int} (first : x.quanta? = some quanta)
    (second : y.quanta? = some quanta) : x.sameValue y = true := by
  simp [sameValue, rank?_of_quanta? first, rank?_of_quanta? second]

theorem representable_of_quanta? {x : Binary64} {quanta : Int} (counts : x.quanta? = some quanta) :
    Representable quanta.natAbs := by
  cases x with
  | finite negative magnitude representable =>
    rw [← Option.some.inj counts, natAbs_withSign]
    exact representable
  | _ => contradiction

theorem quanta?_neg {x : Binary64} {quanta : Int} (counts : x.quanta? = some quanta) :
    (-x).quanta? = some (-quanta) := by
  cases x with
  | finite negative magnitude representable =>
    rw [← Option.some.inj counts]
    change some (withSign (!negative) magnitude) = _
    cases negative <;> simp [withSign]
  | _ => contradiction

/-- A sum is the number nearest to the exact sum, whatever the signs of zeros. -/
theorem quanta?_add_eq {x y : Binary64} {m n : Int} (first : x.quanta? = some m)
    (second : y.quanta? = some n) : (x + y).quanta? = (ofQuanta (m + n)).quanta? := by
  cases x with
  | finite a i ha =>
    cases y with
    | finite b j hb =>
      obtain rfl := Option.some.inj first
      obtain rfl := Option.some.inj second
      change (if withSign a i + withSign b j = 0 then zero (a && b)
        else ofQuanta (withSign a i + withSign b j)).quanta? = _
      split
      · rename_i none
        rw [none, @quanta?_ofQuanta 0 representable_zero]
        simp [zero, quanta?, withSign]
      · rfl
    | _ => contradiction
  | _ => contradiction

/-- A sum whose count of quanta is representable is exact. -/
theorem quanta?_add {x y : Binary64} {m n : Int} (first : x.quanta? = some m)
    (second : y.quanta? = some n) (representable : Representable (m + n).natAbs) :
    (x + y).quanta? = some (m + n) :=
  (quanta?_add_eq first second).trans (quanta?_ofQuanta representable)

theorem add_comm (x y : Binary64) : x + y = y + x := by
  change Binary64.add x y = Binary64.add y x
  cases x with
  | nan => cases y <;> rfl
  | infinite a =>
    cases y with
    | infinite b =>
      simp only [Binary64.add, eq_comm (a := b)]
      split
      · rename_i same
        rw [same]
      · rfl
    | _ => rfl
  | finite a m _ =>
    cases y with
    | finite b n _ => simp only [Binary64.add, Int.add_comm, Bool.and_comm]
    | _ => rfl

/-- The terms of a finite sum are finite. -/
theorem exists_quanta?_of_add {x y : Binary64} {quanta : Int}
    (counts : (x + y).quanta? = some quanta) :
    (∃ m, x.quanta? = some m) ∧ ∃ n, y.quanta? = some n := by
  replace counts : (Binary64.add x y).quanta? = some quanta := counts
  cases x with
  | nan => cases y <;> exact nomatch counts
  | infinite a =>
    cases y with
    | infinite b =>
      simp only [Binary64.add] at counts
      split at counts <;> exact nomatch counts
    | _ => exact nomatch counts
  | finite a m _ =>
    cases y with
    | finite b n _ => exact ⟨⟨_, rfl⟩, _, rfl⟩
    | _ => exact nomatch counts

theorem quanta?_zero_add {x : Binary64} {quanta : Int} (counts : x.quanta? = some quanta) :
    (0 + x).quanta? = some quanta := by
  have sum := quanta?_add quanta?_zero counts
    (by rw [Int.zero_add]; exact representable_of_quanta? counts)
  rwa [Int.zero_add] at sum

theorem quanta?_sub_zero {x : Binary64} {quanta : Int} (counts : x.quanta? = some quanta) :
    (x - 0).quanta? = some quanta := by
  have sum := quanta?_add counts (quanta?_neg quanta?_zero)
    (by rw [Int.neg_zero, Int.add_zero]; exact representable_of_quanta? counts)
  rwa [Int.neg_zero, Int.add_zero] at sum

theorem le_iff {x y : Binary64} :
    x ≤ y ↔ ∃ i j, x.rank? = some i ∧ y.rank? = some j ∧ i ≤ j := by
  change x.le y = true ↔ _
  rw [le]
  cases x.rank? <;> cases y.rank? <;> simp

/-- A number between zero and a natural number is finite. -/
theorem quanta?_of_inRange {x : Binary64} {n : Nat} (small : n < 2 ^ significantBits)
    (low : 0 ≤ x) (high : x ≤ ofInt n) : ∃ quanta, x.quanta? = some quanta := by
  have top : (ofInt n).rank? = some ((n * unitQuanta : Nat) : Int) := by
    rw [Int.natCast_mul]
    exact rank?_of_quanta? (@quanta?_ofInt n small)
  obtain ⟨_, i, zero, rank, below⟩ := le_iff.mp low
  obtain ⟨_, j, same, bound, above⟩ := le_iff.mp high
  rw [rank?_of_quanta? quanta?_zero] at zero
  obtain rfl := Option.some.inj zero
  obtain rfl := Option.some.inj (rank.symm.trans same)
  obtain rfl := Option.some.inj (top.symm.trans bound)
  cases x with
  | finite negative magnitude => exact ⟨_, rfl⟩
  | nan => exact nomatch rank
  | infinite negative =>
    have finite := (representable_unit small).lt
    obtain rfl := Option.some.inj rank
    cases negative with
    | true =>
      simp only [withSign, if_true] at below
      omega
    | false =>
      simp only [withSign, Bool.false_eq_true, if_false] at above
      omega

theorem whole?_eq_some {x : Binary64} {n : Int} (whole : x.whole? = some n) :
    x.quanta? = some (n * unitQuanta) := by
  cases x with
  | finite negative magnitude representable =>
    simp only [whole?] at whole
    split at whole
    · rename_i divides
      rw [← Option.some.inj whole, quanta?]
      have back : magnitude / unitQuanta * unitQuanta = magnitude :=
        Nat.div_mul_cancel (Nat.dvd_of_mod_eq_zero divides)
      have cast : ((magnitude / unitQuanta : Nat) : Int) * unitQuanta = magnitude := by
        rw [← Int.natCast_mul, back]
      cases negative with
      | false => simp only [withSign, Bool.false_eq_true, if_false, cast]
      | true => simp only [withSign, if_true, Int.neg_mul, cast]
    · contradiction
  | _ => contradiction

/-- Apart from zero, finite numbers are determined by their counts of quanta. -/
theorem eq_of_quanta? {x y : Binary64} {quanta : Int} (first : x.quanta? = some quanta)
    (second : y.quanta? = some quanta) (nonzero : quanta ≠ 0) : x = y := by
  cases x with
  | finite a m ha =>
    cases y with
    | finite b n hb =>
      have same : withSign a m = withSign b n :=
        (Option.some.inj first).trans (Option.some.inj second).symm
      have magnitudes : m = n := by rw [← natAbs_withSign a m, same, natAbs_withSign]
      subst magnitudes
      obtain rfl := Option.some.inj first
      have signs : a = b := by
        cases a <;> cases b <;> simp only [withSign, if_true, if_false, Bool.false_eq_true] at * <;>
          omega
      rw [signs]
    | _ => contradiction
  | _ => contradiction

theorem whole?_zero {x : Binary64} (counts : x.quanta? = some 0) : x.whole? = some 0 := by
  cases x with
  | finite negative magnitude representable =>
    obtain rfl := withSign_eq_zero_iff.mp (Option.some.inj counts)
    simp [whole?, withSign]
  | _ => contradiction

/-! ### Sums that start from zero -/

theorem zero_eq : (0 : Binary64) = zero false := by
  change ofInt ((0 : Nat) : Int) = zero false
  rw [ofInt, Int.natAbs_natCast, Nat.zero_mul]
  exact ofQuotient_one representable_zero

/-- Only of the negative zero the sum with zero is another number. -/
theorem zero_add {x : Binary64} (other : x ≠ zero true) : 0 + x = x := by
  rw [zero_eq]
  change Binary64.add (zero false) x = x
  cases x with
  | nan => rfl
  | infinite negative => rfl
  | finite negative magnitude representable =>
    have sum : withSign false 0 + withSign negative magnitude = withSign negative magnitude := by
      simp [withSign]
    simp only [zero, Binary64.add, sum]
    split
    · rename_i none
      obtain rfl := withSign_eq_zero_iff.mp none
      cases negative with
      | false => rfl
      | true => exact absurd rfl other
    · rename_i count
      have kept : (ofQuanta (withSign negative magnitude)).quanta? =
          some (withSign negative magnitude) :=
        quanta?_ofQuanta (by rw [natAbs_withSign]; exact representable)
      exact eq_of_quanta? kept rfl count

/-- What is no zero is not rounded to one. -/
theorem ofQuanta_ne_zero {quanta : Int} (count : quanta ≠ 0) (negative : Bool) :
    ofQuanta quanta ≠ zero negative := by
  have kept : roundSignificant 1 1 = 1 := roundSignificant_one (by decide)
  have least := roundSignificant_mono (show 1 ≤ quanta.natAbs by omega) 1
  rw [ofQuanta, ofQuotient]
  split
  · intro same
    have none := (Binary64.finite.inj same).2
    omega
  · exact nofun

/-- A sum that does not start from the negative zero does not end there. -/
theorem add_ne_zero_true {x y : Binary64} (other : x ≠ zero true) : x + y ≠ zero true := by
  change Binary64.add x y ≠ zero true
  cases x with
  | nan => cases y <;> exact nofun
  | infinite a =>
    cases y with
    | infinite b =>
      simp only [Binary64.add]
      split <;> exact nofun
    | _ => exact nofun
  | finite a m _ =>
    cases y with
    | finite b n _ =>
      simp only [Binary64.add]
      split
      · rename_i none
        intro same
        have signs : (a && b) = true := (Binary64.finite.inj same).1
        obtain ⟨rfl, rfl⟩ := Bool.and_eq_true_iff.mp signs
        have zero : m = 0 := by
          simp only [withSign, if_true] at none
          omega
        subst zero
        exact other rfl
      · rename_i count
        exact ofQuanta_ne_zero count true
    | _ => exact nofun

/-! ### Magnitudes -/

theorem abs_ofQuotient (negative : Bool) (numerator denominator : Nat) :
    (ofQuotient negative numerator denominator).abs = ofQuotient false numerator denominator := by
  unfold ofQuotient
  split <;> rfl

/-- Exchanging the terms of a difference changes no more than its sign. -/
theorem abs_sub_comm (x y : Binary64) : (x - y).abs = (y - x).abs := by
  change (Binary64.add x y.neg).abs = (Binary64.add y x.neg).abs
  cases x with
  | nan => cases y <;> rfl
  | infinite a =>
    cases y with
    | infinite b => cases a <;> cases b <;> rfl
    | _ => rfl
  | finite a m _ =>
    cases y with
    | finite b n _ =>
      have negated : withSign b n + withSign (!a) m = -(withSign a m + withSign (!b) n) := by
        cases a <;> cases b <;> simp [withSign]
      simp only [Binary64.neg, Binary64.add, negated, Int.neg_eq_zero]
      split
      · rfl
      · rw [ofQuanta, ofQuanta, abs_ofQuotient, abs_ofQuotient, Int.natAbs_neg]
    | _ => rfl

theorem abs_mul_abs_self (x : Binary64) : x.abs * x.abs = x * x := by
  cases x with
  | nan => rfl
  | infinite negative => cases negative <;> rfl
  | finite negative quanta _ => cases negative <;> rfl

end Binary64
end FactoryBlueprint
