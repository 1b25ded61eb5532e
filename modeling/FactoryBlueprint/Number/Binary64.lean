import FactoryBlueprint.Number.Rounding

/-! # Double precision numbers, exactly

Coordinates, wire reaches and colour channels are double precision numbers. Every finite one is a
whole multiple of the least positive number `2 ^ -1074`, here called the *quantum*, so it is stored
as a sign and a count of quanta. Order and sums are then those of the integers, and every operation
is exact arithmetic followed by one rounding (`Binary64.ofQuotient`).

The two zeros differ as values and compare as equal, a comparison with `nan` is false.
-/

namespace FactoryBlueprint

-- Powers are those of the core library wherever this is imported.
attribute [local instance (high)] instPowNat

/-- A double precision number. -/
inductive Binary64 where
  /-- The result of an undefined operation. -/
  | nan
  /-- Beyond the finite range. -/
  | infinite (negative : Bool)
  /-- A sign and a count of quanta. -/
  | finite (negative : Bool) (quanta : Nat) (representable : Representable quanta)
  deriving DecidableEq

/-- Exponent of the number of quanta in one. -/
def unitExponent : Nat := 1074

/-- The number of quanta in one. -/
def unitQuanta : Nat := 2 ^ unitExponent

/-- `magnitude` with a minus sign if `negative`. -/
def withSign (negative : Bool) (magnitude : Nat) : Int :=
  if negative then -(magnitude : Int) else magnitude

namespace Binary64

/-- The zero of the given sign. -/
def zero (negative : Bool) : Binary64 := .finite negative 0 representable_zero

instance : Inhabited Binary64 := ⟨zero false⟩

/-- The number nearest to `numerator / denominator` quanta, infinite beyond the finite range. -/
def ofQuotient (negative : Bool) (numerator denominator : Nat) : Binary64 :=
  if h : roundSignificant numerator denominator < overflowQuanta then
    .finite negative _ (representable_roundSignificant h)
  else .infinite negative

/-- The number nearest to a whole number of quanta. -/
def ofQuanta (quanta : Int) : Binary64 := ofQuotient (quanta < 0) quanta.natAbs 1

/-- The number nearest to an integer. -/
def ofInt (n : Int) : Binary64 := ofQuotient (n < 0) (n.natAbs * unitQuanta) 1

instance (n : Nat) : OfNat Binary64 n := ⟨ofInt n⟩

/-- The number nearest to `digits * 10 ^ exponent`. Exponents far outside the range are decided
without computing the power. -/
def ofDecimal (negative : Bool) (digits : Nat) (exponent : Int) : Binary64 :=
  if digits = 0 then zero negative
  else if 400 < exponent then .infinite negative
  else if exponent < -(400 + (digits.log2 : Int)) then zero negative
  else if 0 ≤ exponent then ofQuotient negative (digits * 10 ^ exponent.toNat * unitQuanta) 1
  else ofQuotient negative (digits * unitQuanta) (10 ^ (-exponent).toNat)

instance : OfScientific Binary64 where
  ofScientific digits isFraction exponent :=
    ofDecimal false digits (if isFraction then -(exponent : Int) else exponent)

/-! ### Signs and order -/

/-- True of the numbers that count quanta. -/
def isFinite : Binary64 → Bool
  | .finite .. => true
  | _ => false

def isNaN : Binary64 → Bool
  | .nan => true
  | _ => false

/-- The signed count of quanta of a finite number. -/
def quanta? : Binary64 → Option Int
  | .finite negative quanta _ => some (withSign negative quanta)
  | _ => none

/-- Place of a number in the order: its count of quanta, the infinities at the ends of the range. -/
def rank? : Binary64 → Option Int
  | .nan => none
  | .infinite negative => some (withSign negative overflowQuanta)
  | .finite negative quanta _ => some (withSign negative quanta)

/-- Strictly less; false if either is `nan`. -/
def lt (a b : Binary64) : Bool :=
  match a.rank?, b.rank? with
  | some i, some j => i < j
  | _, _ => false

/-- Less or equal; false if either is `nan`. -/
def le (a b : Binary64) : Bool :=
  match a.rank?, b.rank? with
  | some i, some j => i ≤ j
  | _, _ => false

/-- Numerically equal: the zeros are, `nan` is equal to nothing. -/
def sameValue (a b : Binary64) : Bool :=
  match a.rank?, b.rank? with
  | some i, some j => i = j
  | _, _ => false

instance : LT Binary64 := ⟨fun a b => a.lt b⟩
instance : LE Binary64 := ⟨fun a b => a.le b⟩
instance (a b : Binary64) : Decidable (a < b) := inferInstanceAs (Decidable (a.lt b = true))
instance (a b : Binary64) : Decidable (a ≤ b) := inferInstanceAs (Decidable (a.le b = true))

/-- The sign; `nan` has none. -/
def isNegative : Binary64 → Bool
  | .nan => false
  | .infinite negative => negative
  | .finite negative .. => negative

/-- The smaller number, of two zeros the negative one; `nan` yields to the other. -/
instance : Min Binary64 where
  min a b := if a.isNaN ∨ b < a ∨ (a.sameValue b ∧ b.isNegative) then b else a

/-- The larger number, of two zeros the positive one; `nan` yields to the other. -/
instance : Max Binary64 where
  max a b := if a.isNaN ∨ a < b ∨ (a.sameValue b ∧ a.isNegative) then b else a

/-! ### Arithmetic -/

protected def neg : Binary64 → Binary64
  | .nan => .nan
  | .infinite negative => .infinite !negative
  | .finite negative quanta h => .finite (!negative) quanta h

instance : Neg Binary64 := ⟨Binary64.neg⟩

def abs : Binary64 → Binary64
  | .nan => .nan
  | .infinite _ => .infinite false
  | .finite _ quanta h => .finite false quanta h

/-- An exact zero sum is negative only if both terms are. -/
protected def add : Binary64 → Binary64 → Binary64
  | .nan, _ | _, .nan => .nan
  | .infinite a, .infinite b => if a = b then .infinite a else .nan
  | .infinite a, .finite .. => .infinite a
  | .finite .., .infinite b => .infinite b
  | .finite a m _, .finite b n _ =>
    let sum := withSign a m + withSign b n
    if sum = 0 then zero (a && b) else ofQuanta sum

instance : Add Binary64 := ⟨Binary64.add⟩
instance : Sub Binary64 := ⟨fun a b => a + -b⟩

protected def mul : Binary64 → Binary64 → Binary64
  | .nan, _ | _, .nan => .nan
  | .infinite a, .infinite b => .infinite (a != b)
  | .infinite a, .finite b n _ | .finite b n _, .infinite a =>
    if n = 0 then .nan else .infinite (a != b)
  | .finite a m _, .finite b n _ => ofQuotient (a != b) (m * n) unitQuanta

instance : Mul Binary64 := ⟨Binary64.mul⟩

protected def div : Binary64 → Binary64 → Binary64
  | .nan, _ | _, .nan => .nan
  | .infinite _, .infinite _ => .nan
  | .infinite a, .finite b _ _ => .infinite (a != b)
  | .finite a _ _, .infinite b => zero (a != b)
  | .finite a m _, .finite b n _ =>
    if n = 0 then (if m = 0 then .nan else .infinite (a != b))
    else ofQuotient (a != b) (m * unitQuanta) n

instance : Div Binary64 := ⟨Binary64.div⟩

/-- The largest number whose square is at most `n`, by Newton's iteration from above. -/
def wholeRoot (n : Nat) : Nat :=
  go (n.log2 + 2) (2 ^ (n.log2 / 2 + 1))
where
  /-- Improves `guess` until it no longer falls; each step at least halves its excess. -/
  go : Nat → Nat → Nat
    | 0, guess => guess
    | fuel + 1, guess =>
      let next := (guess + n / guess) / 2
      if next < guess then go fuel next else guess

/-- The square root. A root that is not whole in quanta lies strictly between two whole counts; the
half between them rounds as it does, because the places of a root's rounding are far above one. -/
def sqrt : Binary64 → Binary64
  | .nan => .nan
  | .infinite negative => if negative then .nan else .infinite false
  | .finite negative quanta _ =>
    if quanta = 0 then zero negative
    else if negative then .nan
    else
      let square := quanta * unitQuanta
      let root := wholeRoot square
      ofQuotient false (2 * root + if root * root = square then 0 else 1) 2

/-! ### Whole numbers -/

/-- `n` moved into the interval from `low` to `high`. -/
def clamp (low high n : Int) : Int := max low (min high n)

/-- The greatest integer not above the number, within `low` and `high`; `nan` gives zero. -/
def floor (low high : Int) : Binary64 → Int
  | .nan => 0
  | .infinite negative => if negative then low else high
  | .finite negative quanta _ => clamp low high ((withSign negative quanta).fdiv unitQuanta)

/-- The least integer not below the number, within `low` and `high`; `nan` gives zero. -/
def ceil (low high : Int) : Binary64 → Int
  | .nan => 0
  | .infinite negative => if negative then low else high
  | .finite negative quanta _ => clamp low high (-((-withSign negative quanta).fdiv unitQuanta))

/-- The integer that a number is, if it is one. -/
def whole? : Binary64 → Option Int
  | .finite negative quanta _ =>
    if quanta % unitQuanta = 0 then some (withSign negative (quanta / unitQuanta)) else none
  | _ => none

end Binary64
end FactoryBlueprint
