import FactoryBlueprint.Document.Token

/-! # Numbers in data files

Numbers may carry a plus sign, separate digits by `_` and give integers in base 16, 8 or 2. They are
rounded to the nearest number that there is.
-/

namespace FactoryBlueprint.Scalar

/-- The sign of a number, and its text without the sign. -/
def sign : List Char → Bool × List Char
  | '-' :: cs => (true, cs)
  | '+' :: cs => (false, cs)
  | cs => (false, cs)

/-- The digits of a number without the separators. -/
def withoutSeparators (cs : List Char) : List Char := cs.filter (· ≠ '_')

/-- The value of digits in a base. -/
def digitsInBase? (base : Nat) (cs : List Char) : Option Nat :=
  if cs.isEmpty then none
  else cs.foldlM (fun n c => do
    let digit ← Scanner.hexDigit? c
    if digit < base then some (base * n + digit) else none) 0

/-- The base that the first two characters of an unsigned integer tell, and its digits. -/
def base : List Char → Nat × List Char
  | '0' :: 'x' :: digits => (16, digits)
  | '0' :: 'o' :: digits => (8, digits)
  | '0' :: 'b' :: digits => (2, digits)
  | digits => (10, digits)

/-- A number that need not have digits on both sides of its point. -/
def number? (cs : List Char) : Option Binary64 := do
  let (negative, cs) := sign cs
  let (whole, cs) := Numeral.digits cs
  let (fraction, cs) := match cs with
    | '.' :: rest => Numeral.digits rest
    | _ => ([], cs)
  let (exponent, cs) ← Numeral.exponent? cs
  if (whole.isEmpty && fraction.isEmpty) || !cs.isEmpty then none
  else some (Numeral.nearest ⟨negative, whole, some fraction, exponent⟩)

end FactoryBlueprint.Scalar
