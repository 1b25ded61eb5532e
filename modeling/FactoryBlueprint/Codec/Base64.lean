/-! # Base64

Three bytes are written as four characters of six bits each; the last group is padded with `=`. The
reader takes only the canonical form: padding is required and unused bits are zero. It works on the
bytes of a text and reports the place of what it cannot read.
-/

namespace FactoryBlueprint.Base64

/-- The character of a value below 64. -/
def character (value : Nat) : Char :=
  if value < 26 then Char.ofNat (value + 'A'.toNat)
  else if value < 52 then Char.ofNat (value - 26 + 'a'.toNat)
  else if value < 62 then Char.ofNat (value - 52 + '0'.toNat)
  else if value = 62 then '+'
  else '/'

/-- The value of a byte of the alphabet. -/
def value? (byte : UInt8) : Option Nat :=
  if 65 ≤ byte ∧ byte ≤ 90 then some (byte.toNat - 65)
  else if 97 ≤ byte ∧ byte ≤ 122 then some (byte.toNat - 97 + 26)
  else if 48 ≤ byte ∧ byte ≤ 57 then some (byte.toNat - 48 + 52)
  else if byte = 43 then some 62
  else if byte = 47 then some 63
  else none

/-- The byte that pads the last group. -/
def padding : UInt8 := 61

/-- Why a text is no base64. -/
inductive Fault where
  /-- A byte that may not stand at its place. -/
  | badSymbol (byte : UInt8) (offset : Nat)
  /-- A last symbol with bits that stand for nothing. -/
  | badLastSymbol (byte : UInt8) (offset : Nat)
  /-- Too few symbols in the last group. -/
  | badLength (length : Nat)
  | badPadding
  deriving DecidableEq

def Fault.message : Fault → String
  | badSymbol byte offset => s!"Invalid symbol {byte.toNat}, offset {offset}."
  | badLastSymbol byte offset => s!"Invalid last symbol {byte.toNat}, offset {offset}."
  | badLength length => s!"Invalid input length: {length}"
  | badPadding => "Invalid padding"

/-- The characters of bytes. -/
def encode : List UInt8 → List Char
  | [] => []
  | [a] => [character (a.toNat / 4), character (a.toNat % 4 * 16), '=', '=']
  | [a, b] =>
    [character (a.toNat / 4), character (a.toNat % 4 * 16 + b.toNat / 16),
      character (b.toNat % 16 * 4), '=']
  | a :: b :: c :: rest =>
    character (a.toNat / 4) :: character (a.toNat % 4 * 16 + b.toNat / 16) ::
      character (b.toNat % 16 * 4 + c.toNat / 64) :: character (c.toNat % 64) :: encode rest

/-- The value of the byte at `offset`. -/
def symbol (byte : UInt8) (offset : Nat) : Except Fault Nat :=
  match value? byte with
  | some value => .ok value
  | none => .error (.badSymbol byte offset)

/-- The three bytes of four values. -/
def joined (a b c d : Nat) : List UInt8 :=
  [(a * 4 + b / 16).toUInt8, (b % 16 * 16 + c / 4).toUInt8, (c % 4 * 64 + d).toUInt8]

/-- What the last group may hold: its values and bytes, then padding only. -/
structure LastGroup where
  /-- The bytes before the padding with their values. -/
  symbols : List (UInt8 × Nat)
  /-- Offset of the first padding byte. -/
  firstPadding : Option Nat
  paddings : Nat

/-- Reads the last group from left to right. -/
def readLast (start : Nat) : List UInt8 → Nat → LastGroup → Except Fault LastGroup
  | [], _, group => .ok group
  | byte :: rest, place, group =>
    if byte = padding then
      if place < 2 then .error (.badSymbol byte (start + place))
      else readLast start rest (place + 1)
        { group with
          firstPadding := some (group.firstPadding.getD (start + place))
          paddings := group.paddings + 1 }
    else
      match group.firstPadding with
      | some offset => .error (.badSymbol padding offset)
      | none =>
        match symbol byte (start + place) with
        | .error fault => .error fault
        | .ok value =>
          readLast start rest (place + 1) { group with symbols := group.symbols ++ [(byte, value)] }

/-- The bytes of the last group, which starts at `start`. -/
def decodeLast (start : Nat) (bytes : List UInt8) : Except Fault (List UInt8) := do
  let group ← readLast start bytes 0 ⟨[], none, 0⟩
  let count := group.symbols.length
  if count < 2 then throw (.badLength (start + count))
  if count + group.paddings ≠ 4 then throw .badPadding
  match group.symbols with
  | [(_, a), (byte, b)] =>
    if b % 16 ≠ 0 then throw (.badLastSymbol byte (start + 1)) else pure ((joined a b 0 0).take 1)
  | [(_, a), (_, b), (byte, c)] =>
    if c % 4 ≠ 0 then throw (.badLastSymbol byte (start + 2)) else pure ((joined a b c 0).take 2)
  | [(_, a), (_, b), (_, c), (_, d)] => pure (joined a b c d)
  | _ => pure []

/-- The bytes that four or fewer bytes at a time stand for, from `offset` on. -/
def decodeFrom (offset : Nat) (done : List UInt8) : List UInt8 → Except Fault (List UInt8)
  | [] => .ok done.reverse
  | a :: b :: c :: d :: e :: rest => do
    let a ← symbol a offset
    let b ← symbol b (offset + 1)
    let c ← symbol c (offset + 2)
    let d ← symbol d (offset + 3)
    decodeFrom (offset + 4) ((joined a b c d).reverse ++ done) (e :: rest)
  | last => do pure (done.reverse ++ (← decodeLast offset last))

/-- The bytes that a text stands for. A single byte too many at the end is reported first if it is
not of the alphabet. -/
def decode (bytes : List UInt8) : Except Fault (List UInt8) :=
  match bytes.getLast? with
  | none => .ok []
  | some last =>
    if bytes.length % 4 = 1 ∧ last ≠ padding ∧ (value? last).isNone then
      .error (.badSymbol last (bytes.length - 1))
    else decodeFrom 0 [] bytes

end FactoryBlueprint.Base64
