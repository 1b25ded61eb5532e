import FactoryBlueprint.Number.Binary64

/-! # Decimal text of a number

`shortest` finds the fewest decimal digits that still read back as the number, and of those the
nearest. A `NumberLayout` decides how they are spelled: where positional notation ends, whether a
whole number keeps `.0`, and which way a tie between two nearest digits goes. `documentLayout` is
the spelling of documents, `messageLayout` that of messages.
-/

namespace FactoryBlueprint

-- Powers are those of the core library wherever this is imported.
attribute [local instance (high)] instPowNat

/-- Where a tie between two equally near decimals goes. -/
inductive TieRule where
  | toEven
  | up
  deriving DecidableEq

/-- The decimal `coefficient * 10 ^ exponent`. -/
structure Decimal where
  coefficient : Nat
  exponent : Int
  deriving DecidableEq

namespace Decimal

/-- `quanta` divided by `10 ^ exponent` quanta per unit, as numerator and denominator. -/
def scaled (quanta : Nat) (exponent : Int) : Nat × Nat :=
  (quanta * 10 ^ (-exponent).toNat, unitQuanta * 10 ^ exponent.toNat)

/-- Greatest `e` such that `10 ^ e` is at most the positive number of `quanta`. The estimate from
the binary logarithm is at most one off. -/
def leadingExponent (quanta : Nat) : Int :=
  let estimate := (((quanta.log2 : Int) - unitExponent) * 30103).fdiv 100000
  let reaches (e : Int) : Bool := let (n, d) := scaled quanta e; d ≤ n
  if !reaches estimate then estimate - 1
  else if reaches (estimate + 1) then estimate + 1
  else estimate

/-- True if the decimal lies among the numbers that round to `quanta`. The ends of that interval
belong to it if the last binary digit kept is even. -/
def readsBack (quanta : Nat) (decimal : Decimal) : Bool :=
  let above := 2 ^ lastPlace quanta
  let below := if quanta = 2 ^ quanta.log2 ∧ 1 < above then above / 2 else above
  let (unit, scale) := scaled 1 decimal.exponent
  let place := 4 * decimal.coefficient * scale
  let low := (4 * quanta - 2 * below) * unit
  let high := (4 * quanta + 2 * above) * unit
  if quanta / above % 2 = 0 then low ≤ place && place ≤ high else low < place && place < high

/-- The nearest decimal with last digit at `exponent` that reads back, if one does. -/
def onGrid (ties : TieRule) (quanta : Nat) (exponent : Int) : Option Decimal :=
  let (numerator, denominator) := scaled quanta exponent
  let below : Decimal := ⟨numerator / denominator, exponent⟩
  let above : Decimal := ⟨below.coefficient + 1, exponent⟩
  let doubled := 2 * (numerator % denominator)
  let upward := denominator < doubled ||
    (denominator = doubled && (ties = .up || below.coefficient % 2 = 1))
  match readsBack quanta below, readsBack quanta above with
  | true, true => some (if upward then above else below)
  | true, false => some below
  | false, true => some above
  | false, false => none

/-- Digits that always suffice. -/
def mostDigits : Nat := 17

/-- The fewest digits that read back as `quanta`, and of those the nearest. The search starts one
place left of the leading digit, where a value just below a power of ten may round to it. -/
def shortest (ties : TieRule) (quanta : Nat) : Decimal :=
  if quanta = 0 then ⟨0, 0⟩
  else
    let leading := leadingExponent quanta
    let grids := (List.range (mostDigits + 1)).map fun n : Nat => leading + 1 - n
    (grids.findSome? (onGrid ties quanta)).getD
      (let (numerator, denominator) := scaled quanta (leading - mostDigits)
       ⟨roundHalfEven numerator denominator, leading - mostDigits⟩)

end Decimal

/-- How a number is spelled. -/
structure NumberLayout where
  /-- Positional notation ends where the decimal point would stand further left or right. -/
  positional : Option (Int × Int)
  /-- A whole number in positional notation ends in `.0`. -/
  keepsFraction : Bool
  ties : TieRule

namespace NumberLayout

/-- Documents: positional from `1e-5` up to below `1e16`, else with an exponent. -/
def document : NumberLayout := ⟨some (-4, 16), true, .toEven⟩

/-- Messages: never an exponent, no fraction on a whole number, a tie goes up. -/
def message : NumberLayout := ⟨none, false, .up⟩

def zeros (n : Nat) : String := "".pushn '0' n

/-- `digits` with the decimal point after the first `point` of them, padded with zeros. -/
def placed (keepsFraction : Bool) (digits : String) (point : Int) : String :=
  let count : Int := digits.length
  if point ≤ 0 then "0." ++ zeros (-point).toNat ++ digits
  else if point < count then
    String.ofList (digits.toList.take point.toNat) ++ "." ++
      String.ofList (digits.toList.drop point.toNat)
  else digits ++ zeros (point - count).toNat ++ if keepsFraction then ".0" else ""

/-- `digits` with the point after the first and the exponent that puts it in place. -/
def scientific (digits : String) (point : Int) : String :=
  let head := String.ofList (digits.toList.take 1)
  let tail := String.ofList (digits.toList.drop 1)
  let fraction := if tail.isEmpty then "" else "." ++ tail
  let exponent := point - 1
  head ++ fraction ++ "e" ++ (if exponent < 0 then "-" else "+") ++ toString exponent.natAbs

def decimal (layout : NumberLayout) (d : Decimal) : String :=
  let digits := toString d.coefficient
  let point := (digits.length : Int) + d.exponent
  match layout.positional with
  | some (low, high) =>
    if low ≤ point ∧ point ≤ high then placed layout.keepsFraction digits point
    else scientific digits point
  | none => placed layout.keepsFraction digits point

def render (layout : NumberLayout) : Binary64 → String
  | .nan => "NaN"
  | .infinite negative => if negative then "-inf" else "inf"
  | .finite negative quanta _ =>
    (if negative then "-" else "") ++ layout.decimal (Decimal.shortest layout.ties quanta)

end NumberLayout

/-- The number rounded to `places` decimal places, a tie going to the even last digit. -/
def Binary64.toFixed (places : Nat) : Binary64 → String
  | .nan => "NaN"
  | .infinite negative => if negative then "-inf" else "inf"
  | .finite negative quanta _ =>
    let digits := toString (roundHalfEven (quanta * 10 ^ places) unitQuanta)
    let padded := NumberLayout.zeros (places + 1 - digits.length) ++ digits
    (if negative then "-" else "") ++
      NumberLayout.placed false padded ((padded.length : Int) - places)

end FactoryBlueprint
