import FactoryBlueprint.Codec.Deflate

/-! # Checked compressed streams

A compressed stream between a header of two bytes and a checksum of four. The checksum is that of
the uncompressed bytes; what follows it is ignored.
-/

namespace FactoryBlueprint.Zlib

/-- Modulus of the checksum. -/
def modulus : Nat := 65521

/-- The checksum of bytes: their sum and the sum of all partial sums. -/
def checksum (bytes : List UInt8) : Nat :=
  let (low, high) := bytes.foldl (fun (low, high) byte =>
    let low := (low + byte.toNat) % modulus
    (low, (high + low) % modulus)) (1, 0)
  high * 65536 + low

/-- The four bytes of a number, the highest first. -/
def bigEndian (n : Nat) : List UInt8 :=
  [(n / 16777216).toUInt8, (n / 65536).toUInt8, (n / 256).toUInt8, n.toUInt8]

/-- True of a header that announces a compressed stream without a preset dictionary. -/
def isHeader (method flags : UInt8) : Bool :=
  method.toNat % 16 = 8 && method.toNat / 16 ≤ 7 &&
    (method.toNat * 256 + flags.toNat) % 31 = 0 && !flags.toNat.testBit 5

/-- The bytes in a checked stream. -/
def decode? : List UInt8 → Option (List UInt8)
  | method :: flags :: rest => do
    guard (isHeader method flags)
    let (output, bits) ← Deflate.inflate? (Deflate.bitsOfBytes rest)
    let (check, _) ← Deflate.bytes? 4 ByteArray.empty (bits.drop (bits.length % 8))
    let bytes := output.toList
    guard (check.toList = bigEndian (checksum bytes))
    pure bytes
  | _ => none

/-- A checked stream that holds bytes as they are. -/
def encode (bytes : List UInt8) : List UInt8 :=
  0x78 :: 0x01 :: (Deflate.stored bytes ++ bigEndian (checksum bytes))

end FactoryBlueprint.Zlib
