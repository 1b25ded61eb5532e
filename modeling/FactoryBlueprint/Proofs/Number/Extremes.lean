import FactoryBlueprint.Proofs.Number.Order
import Mathlib.Data.Option.Basic

/-! # The least and the greatest of several numbers

The smaller and the larger of two numbers are those of a total order in which the negative zero comes
before the positive one, and `nan` stands aside (`total?_min`, `total?_max`). So neither the order nor
the grouping of the numbers matters.
-/

namespace FactoryBlueprint.Binary64

/-- Place in a total order of the numbers. -/
def total? (x : Binary64) : Option Int :=
  x.rank?.map fun rank => 2 * rank + if x.isNegative then 0 else 1

theorem rank?_eq_none_iff {x : Binary64} : x.rank? = none ↔ x = .nan := by
  cases x <;> simp [rank?]

/-- Numbers of the same rank and sign are the same. -/
theorem eq_of_rank? {x y : Binary64} {rank : Int} (first : x.rank? = some rank)
    (second : y.rank? = some rank) (sign : x.isNegative = y.isNegative) : x = y := by
  cases x with
  | nan => exact nomatch first
  | infinite s =>
    obtain rfl := Option.some.inj first
    cases y with
    | nan => exact nomatch second
    | infinite t => exact congrArg infinite sign
    | finite t n hn =>
      have within := hn.lt
      have size := congrArg Int.natAbs (Option.some.inj second)
      rw [natAbs_withSign, natAbs_withSign] at size
      omega
  | finite s m hm =>
    obtain rfl := Option.some.inj first
    cases y with
    | nan => exact nomatch second
    | infinite t =>
      have within := hm.lt
      have size := congrArg Int.natAbs (Option.some.inj second)
      rw [natAbs_withSign, natAbs_withSign] at size
      omega
    | finite t n hn =>
      have size := congrArg Int.natAbs (Option.some.inj second)
      rw [natAbs_withSign, natAbs_withSign] at size
      subst size
      obtain rfl : s = t := sign
      rfl

/-- Place of a number of the given rank. -/
def place (x : Binary64) (rank : Int) : Int := 2 * rank + if x.isNegative then 0 else 1

theorem total?_eq_some {x : Binary64} {rank : Int} (known : x.rank? = some rank) :
    x.total? = some (x.place rank) := by
  rw [total?, known, Option.map_some, place]

theorem total?_injective : Function.Injective total? := by
  intro x y same
  cases first : x.rank? with
  | none =>
    cases second : y.rank? with
    | none => rw [rank?_eq_none_iff.mp first, rank?_eq_none_iff.mp second]
    | some j => simp [total?, first, second] at same
  | some i =>
    cases second : y.rank? with
    | none => simp [total?, first, second] at same
    | some j =>
      rw [total?_eq_some first, total?_eq_some second, Option.some.injEq, place, place] at same
      have signs : x.isNegative = y.isNegative := by
        cases h : x.isNegative <;> cases h' : y.isNegative <;> simp [h, h'] at same ⊢ <;> omega
      rw [signs] at same
      obtain rfl : i = j := by omega
      exact eq_of_rank? first second signs

/-- Less, or the same and negative: the condition by which one of two numbers is taken. -/
def Precedes (a b : Binary64) : Prop := a < b ∨ (a.sameValue b ∧ a.isNegative)

instance (a b : Binary64) : Decidable (Precedes a b) :=
  inferInstanceAs (Decidable (a < b ∨ (a.sameValue b ∧ a.isNegative)))

theorem Precedes.place_le {a b : Binary64} {i j : Int} (first : a.rank? = some i)
    (second : b.rank? = some j) (precedes : Precedes a b) : a.place i ≤ b.place j := by
  unfold place
  rcases precedes with less | ⟨same, negative⟩
  · have below := (lt_iff first second).mp less
    split <;> split <;> omega
  · have equal := (sameValue_iff first second).mp same
    rw [if_pos negative]
    split <;> omega

theorem place_le_of_not_precedes {a b : Binary64} {i j : Int} (first : a.rank? = some i)
    (second : b.rank? = some j) (stays : ¬ Precedes a b) : b.place j ≤ a.place i := by
  obtain ⟨notLess, notNegative⟩ := not_or.mp stays
  have ranks := mt (lt_iff first second).mpr notLess
  unfold place
  by_cases equal : i = j
  · rw [if_neg fun negative => notNegative ⟨(sameValue_iff first second).mpr equal, negative⟩]
    split <;> omega
  · split <;> split <;> omega

theorem sameValue_comm (a b : Binary64) : a.sameValue b = b.sameValue a := by
  unfold sameValue
  cases a.rank? <;> cases b.rank? <;> simp [eq_comm]

theorem total?_min (a b : Binary64) : total? (min a b) = Option.merge min (total? a) (total? b) := by
  have taken : min a b = if a.isNaN ∨ Precedes b a then b else a := by
    rw [min_eq, sameValue_comm]
    rfl
  rw [taken]
  cases first : a.rank? with
  | none =>
    obtain rfl := rank?_eq_none_iff.mp first
    exact (Option.merge_none_left ..).symm
  | some i =>
    have number := isNaN_of_rank? first
    cases second : b.rank? with
    | none =>
      obtain rfl := rank?_eq_none_iff.mp second
      rw [if_neg (by simp [number, Precedes, LT.lt, lt, sameValue, rank?])]
      exact (Option.merge_none_right ..).symm
    | some j =>
      rw [total?_eq_some first, total?_eq_some second, Option.merge_some_some]
      by_cases precedes : Precedes b a
      · rw [if_pos (.inr precedes), total?_eq_some second,
          Int.min_eq_right (precedes.place_le second first)]
      · rw [if_neg (by simp [number, precedes]), total?_eq_some first,
          Int.min_eq_left (place_le_of_not_precedes second first precedes)]

theorem total?_max (a b : Binary64) : total? (max a b) = Option.merge max (total? a) (total? b) := by
  have taken : max a b = if a.isNaN ∨ Precedes a b then b else a := max_eq a b
  rw [taken]
  cases first : a.rank? with
  | none =>
    obtain rfl := rank?_eq_none_iff.mp first
    exact (Option.merge_none_left ..).symm
  | some i =>
    have number := isNaN_of_rank? first
    cases second : b.rank? with
    | none =>
      obtain rfl := rank?_eq_none_iff.mp second
      rw [if_neg (by simp [number, Precedes, LT.lt, lt, sameValue, rank?])]
      exact (Option.merge_none_right ..).symm
    | some j =>
      rw [total?_eq_some first, total?_eq_some second, Option.merge_some_some]
      by_cases precedes : Precedes a b
      · rw [if_pos (.inr precedes), total?_eq_some second,
          Int.max_eq_right (precedes.place_le first second)]
      · rw [if_neg (by simp [number, precedes]), total?_eq_some first,
          Int.max_eq_left (place_le_of_not_precedes first second precedes)]

/-! ### Order, grouping and repetition -/

section Laws

variable {op : Binary64 → Binary64 → Binary64} {whole : Int → Int → Int}

theorem comm_of_total? [Std.Commutative whole]
    (same : ∀ a b, total? (op a b) = Option.merge whole (total? a) (total? b)) (a b : Binary64) :
    op a b = op b a :=
  total?_injective (by rw [same, same, (Option.commutative_merge whole).comm])

theorem assoc_of_total? [Std.Associative whole]
    (same : ∀ a b, total? (op a b) = Option.merge whole (total? a) (total? b))
    (a b c : Binary64) : op (op a b) c = op a (op b c) :=
  total?_injective (by simp only [same, (Option.associative_merge whole).assoc])

theorem idempotent_of_total? [Std.IdempotentOp whole]
    (same : ∀ a b, total? (op a b) = Option.merge whole (total? a) (total? b)) (a : Binary64) :
    op a a = a :=
  total?_injective (by rw [same, (Option.idempotentOp_merge whole).idempotent])

end Laws

theorem min_comm (a b : Binary64) : min a b = min b a := comm_of_total? total?_min a b

theorem min_assoc (a b c : Binary64) : min (min a b) c = min a (min b c) :=
  assoc_of_total? total?_min a b c

theorem min_self (a : Binary64) : min a a = a := idempotent_of_total? total?_min a

theorem max_comm (a b : Binary64) : max a b = max b a := comm_of_total? total?_max a b

theorem max_assoc (a b c : Binary64) : max (max a b) c = max a (max b c) :=
  assoc_of_total? total?_max a b c

theorem max_self (a : Binary64) : max a a = a := idempotent_of_total? total?_max a

end FactoryBlueprint.Binary64
