/-! # Compressed streams

A stream is a sequence of blocks of bits, least significant bit of a byte first. A block holds bytes
as they are, or symbols of two prefix codes, the codes being fixed or given at the start of the
block: literal bytes, and copies of bytes that were written before.

`inflate?` undoes every such stream; `stored` writes bytes as they are in blocks of bounded length.
-/

namespace FactoryBlueprint.Deflate

-- Powers are those of the core library wherever this is imported.
attribute [local instance (high)] instPowNat

/-- The bits of a byte, least significant first. -/
def bitsOfByte (byte : UInt8) : List Bool := (List.range 8).map fun i => byte.toNat.testBit i

/-- The bits of bytes. -/
def bitsOfBytes (bytes : List UInt8) : List Bool := bytes.flatMap bitsOfByte

/-- The number that bits spell, least significant first. -/
def number : List Bool → Nat
  | [] => 0
  | bit :: rest => bit.toNat + 2 * number rest

/-- The number in the next `count` bits and what follows them. -/
def take? (count : Nat) (bits : List Bool) : Option (Nat × List Bool) :=
  let taken := bits.take count
  if taken.length = count then some (number taken, bits.drop count) else none

/-- The next byte. -/
def byte? (bits : List Bool) : Option (UInt8 × List Bool) :=
  (take? 8 bits).map fun (n, rest) => (n.toUInt8, rest)

/-- The next `count` bytes, appended to `output`. -/
def bytes? : Nat → ByteArray → List Bool → Option (ByteArray × List Bool)
  | 0, output, bits => some (output, bits)
  | count + 1, output, bits => do
    let (byte, bits) ← byte? bits
    bytes? count (output.push byte) bits

/-! ### Prefix codes -/

/-- A prefix code: read bit by bit down to a symbol. -/
inductive Code where
  | empty
  | symbol (value : Nat)
  | branch (zero one : Code)
  deriving Inhabited

namespace Code

/-- Adds the code word `word`, most significant of its `length` bits first. -/
def insert (value : Nat) : Nat → Nat → Code → Code
  | 0, _, _ => .symbol value
  | length + 1, word, code =>
    let (zero, one) := match code with
      | .branch zero one => (zero, one)
      | _ => (.empty, .empty)
    if word.testBit length then .branch zero (insert value length word one)
    else .branch (insert value length word zero) one

/-- The symbol of the next code word. -/
def read? : Code → List Bool → Option (Nat × List Bool)
  | .symbol value, bits => some (value, bits)
  | .branch zero one, bit :: rest => if bit then one.read? rest else zero.read? rest
  | _, _ => none

/-- Longest code word. -/
def maxLength : Nat := 15

/-- How many of the lengths are `length`. -/
def count (lengths : List Nat) (length : Nat) : Nat := lengths.countP (· = length)

/-- The first code word of every length: shorter words come first, words of one length are
consecutive. -/
def firstWords (lengths : List Nat) : List Nat :=
  ((List.range maxLength).foldl (fun (words, next) i =>
    let word := 2 * (next + if i = 0 then 0 else count lengths i)
    (words ++ [word], word)) ([0], 0)).1

/-- The part of the code space that words of these lengths take, in units of the longest word. -/
def spaceUsed (lengths : List Nat) : Nat :=
  lengths.foldl (fun used length => used + if length = 0 then 0 else 2 ^ (maxLength - length)) 0

/-- True if the words fill the code space. -/
def isComplete (lengths : List Nat) : Bool := spaceUsed lengths = 2 ^ maxLength

/-- True if there is no word, or a single one and it has one bit. -/
def isSparse (lengths : List Nat) : Bool :=
  let used := lengths.filter (· ≠ 0)
  used = [] || used = [1]

/-- The code with a word of the given length for each symbol in order, length zero meaning none. -/
def ofLengths (lengths : List Nat) : Code :=
  let (_, _, code) := lengths.foldl (fun (value, words, code) length =>
    if length = 0 then (value + 1, words, code)
    else
      let word := (words[length]?).getD 0
      (value + 1, words.set length (word + 1), code.insert value length word))
    (0, firstWords lengths, Code.empty)
  code

/-- A code that fills the code space, or that hardly has words to fill it with. -/
def ofLengths? (lengths : List Nat) : Option Code :=
  if isComplete lengths || isSparse lengths then some (ofLengths lengths) else none

end Code

/-! ### Blocks -/

/-- Bits beyond the base and the base of every copy length, from symbol 257 on. -/
def lengthTable : List (Nat × Nat) :=
  [(0, 3), (0, 4), (0, 5), (0, 6), (0, 7), (0, 8), (0, 9), (0, 10), (1, 11), (1, 13), (1, 15),
    (1, 17), (2, 19), (2, 23), (2, 27), (2, 31), (3, 35), (3, 43), (3, 51), (3, 59), (4, 67),
    (4, 83), (4, 99), (4, 115), (5, 131), (5, 163), (5, 195), (5, 227), (0, 258)]

/-- Bits beyond the base and the base of every copy distance. -/
def distanceTable : List (Nat × Nat) :=
  [(0, 1), (0, 2), (0, 3), (0, 4), (1, 5), (1, 7), (2, 9), (2, 13), (3, 17), (3, 25), (4, 33),
    (4, 49), (5, 65), (5, 97), (6, 129), (6, 193), (7, 257), (7, 385), (8, 513), (8, 769),
    (9, 1025), (9, 1537), (10, 2049), (10, 3073), (11, 4097), (11, 6145), (12, 8193), (12, 12289),
    (13, 16385), (13, 24577)]

/-- The number of an entry of a table, its further bits read. -/
def tableValue? (table : List (Nat × Nat)) (entry : Nat) (bits : List Bool) :
    Option (Nat × List Bool) := do
  let (extra, base) ← table[entry]?
  let (n, bits) ← take? extra bits
  pure (base + n, bits)

/-- The byte that stands `distance` before the end. Zeros stand before the first byte. -/
def byteBefore (output : ByteArray) (distance : Nat) : UInt8 :=
  if output.size < distance then 0 else output[output.size - distance]?.getD 0

/-- Appends `length` bytes that stand `distance` before the end. -/
def copy (output : ByteArray) (distance : Nat) : Nat → ByteArray
  | 0 => output
  | length + 1 => copy (output.push (byteBefore output distance)) distance length

/-- Symbol that ends a block. -/
def endOfBlock : Nat := 256

/-- Reads symbols up to the end of the block. Every symbol takes a bit, so there are at most `fuel`
of them if the bits are. -/
def symbols? (literals distances : Code) :
    Nat → ByteArray → List Bool → Option (ByteArray × List Bool)
  | 0, _, _ => none
  | fuel + 1, output, bits => do
    let (value, bits) ← literals.read? bits
    if value < endOfBlock then symbols? literals distances fuel (output.push value.toUInt8) bits
    else if value = endOfBlock then some (output, bits)
    else
      let (length, bits) ← tableValue? lengthTable (value - 257) bits
      let (entry, bits) ← distances.read? bits
      let (distance, bits) ← tableValue? distanceTable entry bits
      symbols? literals distances fuel (copy output distance length) bits

/-- The code lengths of the fixed code for literals and lengths. -/
def fixedLiteralLengths : List Nat :=
  List.replicate 144 8 ++ List.replicate 112 9 ++ List.replicate 24 7 ++ List.replicate 8 8

/-- The code lengths of the fixed code for distances. -/
def fixedDistanceLengths : List Nat := List.replicate 32 5

/-- The order in which the lengths of the code for code lengths are given. -/
def lengthOrder : List Nat := [16, 17, 18, 0, 8, 7, 9, 6, 10, 5, 11, 4, 12, 3, 13, 2, 14, 1, 15]

/-- Reads `count` numbers of three bits. -/
def triples? : Nat → List Bool → Option (List Nat × List Bool)
  | 0, bits => some ([], bits)
  | count + 1, bits => do
    let (n, bits) ← take? 3 bits
    let (rest, bits) ← triples? count bits
    pure (n :: rest, bits)

/-- Reads code lengths, repeated ones abbreviated, until there are `total`; `done` is kept last
first. -/
def codeLengths? (code : Code) (total : Nat) :
    Nat → List Nat → List Bool → Option (List Nat × List Bool)
  | 0, _, _ => none
  | fuel + 1, done, bits =>
    if total ≤ done.length then
      if done.length = total then some (done.reverse, bits) else none
    else do
      let (value, bits) ← code.read? bits
      if value < 16 then codeLengths? code total fuel (value :: done) bits
      else if value = 16 then
        let previous ← done.head?
        let (n, bits) ← take? 2 bits
        codeLengths? code total fuel (List.replicate (n + 3) previous ++ done) bits
      else if value = 17 then
        let (n, bits) ← take? 3 bits
        codeLengths? code total fuel (List.replicate (n + 3) 0 ++ done) bits
      else
        let (n, bits) ← take? 7 bits
        codeLengths? code total fuel (List.replicate (n + 11) 0 ++ done) bits

/-- The most literals and lengths that a given code has words for. -/
def maxLiterals : Nat := 286

/-- The most distances that a given code has words for. -/
def maxDistances : Nat := 30

/-- Reads the codes that are given at the start of a block. The code in which their lengths are
written fills the code space. -/
def givenCodes? (bits : List Bool) : Option (Code × Code × List Bool) := do
  let (literals, bits) ← take? 5 bits
  let (distances, bits) ← take? 5 bits
  let literals := literals + 257
  let distances := distances + 1
  guard (literals ≤ maxLiterals ∧ distances ≤ maxDistances)
  let (count, bits) ← take? 4 bits
  let (given, bits) ← triples? (count + 4) bits
  let ownLengths := (List.range 19).map fun symbol =>
    ((lengthOrder.zip given).lookup symbol).getD 0
  guard (Code.isComplete ownLengths)
  let total := literals + distances
  let (lengths, bits) ← codeLengths? (Code.ofLengths ownLengths) total (total + 1) [] bits
  let literalCode ← Code.ofLengths? (lengths.take literals)
  let distanceCode ← Code.ofLengths? (lengths.drop literals)
  pure (literalCode, distanceCode, bits)

/-- Reads a block of bytes as they are, which starts at a whole byte. -/
def storedBlock? (output : ByteArray) (bits : List Bool) : Option (ByteArray × List Bool) := do
  let bits := bits.drop (bits.length % 8)
  let (length, bits) ← take? 16 bits
  let (complement, bits) ← take? 16 bits
  if length + complement = 65535 then bytes? length output bits else none

/-- Reads the content of a block of the given type. -/
def block? (type : Nat) (output : ByteArray) (bits : List Bool) :
    Option (ByteArray × List Bool) := do
  if type = 0 then storedBlock? output bits
  else if type = 1 then
    symbols? (Code.ofLengths fixedLiteralLengths) (Code.ofLengths fixedDistanceLengths)
      (bits.length + 1) output bits
  else if type = 2 then
    let (literals, distances, bits) ← givenCodes? bits
    symbols? literals distances (bits.length + 1) output bits
  else none

/-- Reads blocks up to the last one. Every block takes a bit, so there are at most `fuel` of them if
the bits are. -/
def blocks? : Nat → ByteArray → List Bool → Option (ByteArray × List Bool)
  | 0, _, _ => none
  | fuel + 1, output, bits => do
    let (last, bits) ← take? 1 bits
    let (type, bits) ← take? 2 bits
    let (output, bits) ← block? type output bits
    if last = 1 then some (output, bits) else blocks? fuel output bits

/-- The bytes of a compressed stream, and the bits after it. -/
def inflate? (bits : List Bool) : Option (ByteArray × List Bool) :=
  blocks? (bits.length + 1) ByteArray.empty bits

/-! ### Writing -/

/-- The most bytes that a stored block holds. -/
def maxStored : Nat := 65535

/-- Two bytes of a number, the lower first. -/
def littleEndian (n : Nat) : List UInt8 := [n.toUInt8, (n / 256).toUInt8]

/-- A block that holds bytes as they are. -/
def storedBlock (last : Bool) (bytes : List UInt8) : List UInt8 :=
  (if last then 1 else 0) :: (littleEndian bytes.length ++
    littleEndian (maxStored - bytes.length) ++ bytes)

/-- A stream that holds bytes as they are. -/
def stored (bytes : List UInt8) : List UInt8 :=
  if _ : bytes.length ≤ maxStored then storedBlock true bytes
  else storedBlock false (bytes.take maxStored) ++ stored (bytes.drop maxStored)
termination_by bytes.length
decreasing_by simp only [maxStored, List.length_drop] at *; omega

end FactoryBlueprint.Deflate
