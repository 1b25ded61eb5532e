import FactoryBlueprint.Document.Basic

/-! # Numbers as they are written

A numeral is a sign, whole digits, and optionally a fraction and an exponent. `Numeral.parse?` reads
the spelling that documents allow, `Numeral.document?` gives the value.

A numeral without fraction and exponent is an integer if it fits 64 bits. Any other is read as a
significand of at most 64 bits, further digits only counting as places or dropped, which is scaled
by a power of ten in one multiplication or division. Its value may thus differ from the nearest
number in the last place; `Numeral.nearest` is the nearest number.
-/

namespace FactoryBlueprint

-- Powers are those of the core library wherever this is imported.
attribute [local instance (high)] instPowNat

/-- The parts of a written number. Digits are values from 0 to 9, in order. -/
structure Numeral where
  negative : Bool
  whole : List Nat
  /-- Digits after the point. -/
  fraction : Option (List Nat)
  /-- The power of ten. -/
  exponent : Option Int
  deriving DecidableEq

namespace Numeral

/-- The value of a decimal digit. -/
def digit? (c : Char) : Option Nat := if c.isDigit then some (c.toNat - '0'.toNat) else none

/-- The leading digits and what follows them. -/
def digits (cs : List Char) : List Nat × List Char :=
  ((cs.takeWhile Char.isDigit).filterMap digit?, cs.dropWhile Char.isDigit)

/-- The number that digits spell. -/
def value (digits : List Nat) : Nat := digits.foldl (fun n d => 10 * n + d) 0

/-- An optional fraction: a point and at least one digit. -/
def fraction? : List Char → Option (Option (List Nat) × List Char)
  | '.' :: cs =>
    match digits cs with
    | ([], _) => none
    | (ds, rest) => some (some ds, rest)
  | cs => some (none, cs)

/-- Digits of an exponent with its sign. -/
def exponentDigits? (negative : Bool) (cs : List Char) : Option (Option Int × List Char) :=
  match digits cs with
  | ([], _) => none
  | (ds, rest) => some (some (withSign negative (value ds)), rest)

/-- An optional exponent: `e` or `E`, a sign, and at least one digit. -/
def exponent? : List Char → Option (Option Int × List Char)
  | c :: cs =>
    if c = 'e' ∨ c = 'E' then
      match cs with
      | '-' :: rest => exponentDigits? true rest
      | '+' :: rest => exponentDigits? false rest
      | rest => exponentDigits? false rest
    else some (none, c :: cs)
  | [] => some (none, [])

/-- A sign. -/
def sign : List Char → Bool × List Char
  | '-' :: cs => (true, cs)
  | cs => (false, cs)

/-- Reads a whole text as a numeral. The whole part is a single zero or starts with another digit.
-/
def parse? (cs : List Char) : Option Numeral := do
  let (negative, cs) := sign cs
  let (whole, cs) := digits cs
  match whole with
  | [] => none
  | 0 :: _ :: _ => none
  | _ => pure ()
  let (fraction, cs) ← fraction? cs
  let (exponent, cs) ← exponent? cs
  if cs.isEmpty then some ⟨negative, whole, fraction, exponent⟩ else none

/-- The nearest number, rounded once. -/
def nearest (n : Numeral) : Binary64 :=
  let fraction := n.fraction.getD []
  .ofDecimal n.negative (value (n.whole ++ fraction)) (n.exponent.getD 0 - fraction.length)

/-- The largest significand, `2 ^ 64 - 1`. -/
def maxSignificand : Nat := 18446744073709551615

/-- Appends digits to a significand while it stays within 64 bits; the digits left over come
second. -/
def absorb (significand : Nat) : List Nat → Nat × List Nat
  | [] => (significand, [])
  | d :: ds =>
    if 10 * significand + d ≤ maxSignificand then absorb (10 * significand + d) ds
    else (significand, d :: ds)

/-- The greatest power of ten that is applied in one step. -/
def greatestPower : Nat := 308

/-- `x / 10 ^ power`. Beyond the greatest power the division is done in steps, until nothing is
left. -/
def shiftDown (x : Binary64) (power : Nat) : Binary64 :=
  if power ≤ greatestPower then x / .ofDecimal false 1 power
  else if x.sameValue 0 then x
  else shiftDown (x / .ofDecimal false 1 greatestPower) (power - greatestPower)
termination_by power
decreasing_by simp only [greatestPower] at *; omega

/-- `significand * 10 ^ power`, if it is in the finite range. -/
def scale? (significand : Nat) (power : Int) : Option Binary64 :=
  let x := Binary64.ofInt significand
  if 0 ≤ power then
    if significand = 0 then some x
    else if power ≤ greatestPower then
      let scaled := x * .ofDecimal false 1 power
      if scaled.isFinite then some scaled else none
    else none
  else some (shiftDown x (-power).toNat)

/-- The number that a numeral is read as, if it is in the finite range. -/
def scaled? (n : Numeral) : Option Binary64 := do
  let (significand, beyond) := absorb 0 n.whole
  let fraction := n.fraction.getD []
  let (significand, dropped) := absorb significand fraction
  let places : Int := (beyond.length : Int) - ((fraction.length : Int) - dropped.length)
  let x ← scale? significand (places + n.exponent.getD 0)
  pure (if n.negative then -x else x)

/-- The value of a numeral in a document. Minus zero is no integer. -/
def document? (n : Numeral) : Option Document :=
  let magnitude := value n.whole
  let plain := n.fraction.isNone && n.exponent.isNone
  if plain && !n.negative && magnitude ≤ maxSignificand then some (.integer magnitude)
  else if plain && n.negative && 0 < magnitude && magnitude ≤ 2 ^ (63 : Nat) then
    some (.integer (-(magnitude : Int)))
  else n.scaled?.map .number

end Numeral
end FactoryBlueprint
