import FactoryBlueprint.Codec.Zlib
import FactoryBlueprint.Proofs.Codec.Text

/-! # Reading back a compressed stream

A stream of stored blocks gives back the bytes that it was written from
(`Deflate.inflate?_stored`). A block starts at a whole byte: three bits of its first byte say what
follows, the other five are skipped (`Deflate.blocks?_storedBlock`). With a header that the reader
takes and the checksum at the next whole byte after the blocks, so does a checked stream
(`Zlib.decode?_encode`).
-/

namespace FactoryBlueprint

namespace Deflate

-- Powers are those of the core library wherever this is imported.
attribute [local instance (high)] instPowNat

theorem bitsOfBytes_cons (byte : UInt8) (bytes : List UInt8) :
    bitsOfBytes (byte :: bytes) = bitsOfByte byte ++ bitsOfBytes bytes := rfl

@[simp] theorem length_bitsOfByte (byte : UInt8) : (bitsOfByte byte).length = 8 := rfl

@[simp] theorem length_bitsOfBytes (bytes : List UInt8) :
    (bitsOfBytes bytes).length = 8 * bytes.length := by
  induction bytes with
  | nil => rfl
  | cons byte bytes ih =>
    rw [bitsOfBytes_cons, List.length_append, ih, length_bitsOfByte, List.length_cons]
    omega

/-! ### Numbers -/

/-- The lowest bits of a number spell its remainder. -/
theorem number_testBit (count n : Nat) :
    number ((List.range count).map n.testBit) = n % 2 ^ count := by
  induction count generalizing n with
  | zero => simp [number, Nat.mod_one]
  | succ count ih =>
    have shifted : n.testBit ∘ Nat.succ = (n / 2).testBit :=
      funext fun i => Nat.testBit_succ n i
    have lowest : (n.testBit 0).toNat = n % 2 := by
      rw [Nat.testBit_zero]
      rcases Nat.mod_two_eq_zero_or_one n with even | odd
      · simp [even]
      · simp [odd]
    rw [List.range_succ_eq_map, List.map_cons, List.map_map, shifted, number, ih, lowest,
      Nat.pow_succ, Nat.mul_comm _ 2, Nat.mod_mul]

theorem number_append (low high : List Bool) :
    number (low ++ high) = number low + 2 ^ low.length * number high := by
  induction low with
  | nil => simp [number]
  | cons bit low ih =>
    rw [List.cons_append, number, number, ih, List.length_cons, Nat.pow_succ,
      Nat.mul_comm _ 2, Nat.mul_assoc]
    omega

theorem number_bitsOfByte_append (byte : UInt8) (bits : List Bool) :
    number (bitsOfByte byte ++ bits) = byte.toNat + 256 * number bits := by
  have alone : number (bitsOfByte byte) = byte.toNat :=
    (number_testBit 8 byte.toNat).trans (Nat.mod_eq_of_lt byte.toNat_lt)
  rw [number_append, alone, length_bitsOfByte]

theorem take?_append (taken rest : List Bool) :
    take? taken.length (taken ++ rest) = some (number taken, rest) := by
  simp [take?]

theorem byte?_append (byte : UInt8) (rest : List Bool) :
    byte? (bitsOfByte byte ++ rest) = some (byte, rest) := by
  have whole := number_bitsOfByte_append byte []
  rw [List.append_nil] at whole
  rw [byte?, ← length_bitsOfByte byte, take?_append, whole]
  simp [number]

theorem take?_littleEndian {n : Nat} (small : n ≤ maxStored) (rest : List UInt8) :
    take? 16 (bitsOfBytes (littleEndian n ++ rest)) = some (n, bitsOfBytes rest) := by
  have taken := take?_append (bitsOfByte n.toUInt8 ++ bitsOfByte (n / 256).toUInt8)
    (bitsOfBytes rest)
  have whole := number_bitsOfByte_append (n / 256).toUInt8 []
  rw [List.append_nil] at whole
  rw [number_bitsOfByte_append, whole] at taken
  have value : n.toUInt8.toNat + 256 * ((n / 256).toUInt8.toNat + 256 * number []) = n := by
    simp only [maxStored] at small
    -- the upper byte does not overflow, since the number is below 65536
    simp only [Nat.toUInt8_eq, UInt8.toNat_ofNat', number]
    omega
  rw [value, List.append_assoc] at taken
  exact taken

theorem bytes?_append (bytes rest : List UInt8) (output : ByteArray) :
    bytes? bytes.length output (bitsOfBytes (bytes ++ rest)) =
      some (bytes.foldl ByteArray.push output, bitsOfBytes rest) := by
  induction bytes generalizing output with
  | nil => rfl
  | cons byte bytes ih =>
    rw [List.length_cons, bytes?, List.cons_append, bitsOfBytes_cons, byte?_append]
    exact ih (output.push byte)

/-! ### Blocks -/

/-- A first byte announces a stored block in its three lowest bits. -/
theorem bitsOfByte_first (last : Bool) : bitsOfByte (if last then 1 else 0) =
    [last] ++ ([false, false] ++ List.replicate 5 false) := by
  cases last <;> decide

/-- The content of a block: the rest of its first byte is skipped, and the length is given twice. -/
theorem storedBlock?_storedBlock {bytes : List UInt8} (fits : bytes.length ≤ maxStored)
    (rest : List UInt8) (output : ByteArray) :
    storedBlock? output (List.replicate 5 false ++ bitsOfBytes (littleEndian bytes.length ++
        (littleEndian (maxStored - bytes.length) ++ (bytes ++ rest)))) =
      some (bytes.foldl ByteArray.push output, bitsOfBytes rest) := by
  have aligned : ∀ body : List UInt8,
      (List.replicate 5 false ++ bitsOfBytes body).drop
        ((List.replicate 5 false ++ bitsOfBytes body).length % 8) = bitsOfBytes body := by
    intro body
    have skipped : (List.replicate 5 false ++ bitsOfBytes body).length % 8 = 5 := by
      rw [List.length_append, length_bitsOfBytes, List.length_replicate]
      omega
    rw [skipped]
    rfl
  have sum : bytes.length + (maxStored - bytes.length) = 65535 := Nat.add_sub_cancel' fits
  rw [storedBlock?]
  simp only [aligned, take?_littleEndian fits, take?_littleEndian (Nat.sub_le ..),
    Option.bind_eq_bind, Option.bind_some, if_pos sum, bytes?_append]

theorem blocks?_storedBlock (last : Bool) {bytes : List UInt8} (fits : bytes.length ≤ maxStored)
    (rest : List UInt8) (fuel : Nat) (output : ByteArray) :
    blocks? (fuel + 1) output (bitsOfBytes (storedBlock last bytes ++ rest)) =
      if last then some (bytes.foldl ByteArray.push output, bitsOfBytes rest)
      else blocks? fuel (bytes.foldl ByteArray.push output) (bitsOfBytes rest) := by
  have announced (bits : List Bool) : take? 1 ([last] ++ bits) = some (last.toNat, bits) :=
    take?_append [last] bits
  have type (bits : List Bool) : take? 2 ([false, false] ++ bits) = some (0, bits) :=
    take?_append [false, false] bits
  rw [storedBlock, List.cons_append, bitsOfBytes_cons, bitsOfByte_first, blocks?]
  simp only [List.append_assoc, announced, type, Option.bind_eq_bind, Option.bind_some, block?,
    if_pos, storedBlock?_storedBlock fits]
  cases last <;> rfl

theorem length_le_length_stored (bytes : List UInt8) : bytes.length ≤ (stored bytes).length := by
  induction bytes using stored.induct with
  | case1 bytes fits =>
    rw [stored, dif_pos fits, storedBlock]
    simp
    omega
  | case2 bytes more ih =>
    rw [stored, dif_neg more, storedBlock]
    rw [List.length_drop] at ih
    simp
    omega

/-- Blocks are read one after the other; each but the last holds some of the bytes. -/
theorem blocks?_stored (bytes rest : List UInt8) (fuel : Nat) (enough : bytes.length < fuel)
    (output : ByteArray) : blocks? fuel output (bitsOfBytes (stored bytes ++ rest)) =
      some (bytes.foldl ByteArray.push output, bitsOfBytes rest) := by
  induction bytes using stored.induct generalizing fuel output with
  | case1 bytes fits =>
    obtain ⟨fuel, rfl⟩ := Nat.exists_eq_add_one_of_ne_zero (Nat.ne_zero_of_lt enough)
    rw [stored, dif_pos fits, blocks?_storedBlock true fits, if_pos rfl]
  | case2 bytes more ih =>
    obtain ⟨fuel, rfl⟩ := Nat.exists_eq_add_one_of_ne_zero (Nat.ne_zero_of_lt enough)
    have fewer : (bytes.drop maxStored).length < fuel := by
      rw [List.length_drop]
      simp only [maxStored] at more ⊢
      omega
    rw [stored, dif_neg more, List.append_assoc,
      blocks?_storedBlock false (List.length_take_le _ _), if_neg (by decide), ih fuel fewer,
      ← List.foldl_append, List.take_append_drop]

/-- A stream of stored blocks gives back the bytes and what follows them. -/
theorem inflate?_stored (bytes rest : List UInt8) :
    inflate? (bitsOfBytes (stored bytes ++ rest)) =
      some (bytes.foldl ByteArray.push ByteArray.empty, bitsOfBytes rest) := by
  have enough := length_le_length_stored bytes
  refine blocks?_stored bytes rest _ ?_ ByteArray.empty
  rw [length_bitsOfBytes, List.length_append]
  omega

end Deflate

namespace Zlib

theorem isHeader_written : isHeader 0x78 0x01 = true := by decide

/-- A stream is read if its header announces one, its blocks are read, and the checksum of what they
hold stands at the next whole byte. -/
theorem decode?_eq_some {method flags : UInt8} {rest : List UInt8} {output check : ByteArray}
    {bits ignored : List Bool} (header : isHeader method flags = true)
    (inflated : Deflate.inflate? (Deflate.bitsOfBytes rest) = some (output, bits))
    (checked : Deflate.bytes? 4 ByteArray.empty (bits.drop (bits.length % 8)) =
      some (check, ignored))
    (same : check.toList = bigEndian (checksum output.toList)) :
    decode? (method :: flags :: rest) = some output.toList := by
  have passed {condition : Prop} [Decidable condition] (holds : condition) :
      (guard condition : Option Unit) = some () := if_pos holds
  rw [decode?, passed header, inflated]
  dsimp only [bind, Option.bind]
  rw [checked]
  dsimp only
  rw [passed same]
  rfl

/-- A checked stream gives back its bytes. -/
theorem decode?_encode (bytes : List UInt8) : decode? (encode bytes) = some bytes := by
  have output (written : List UInt8) :
      (written.foldl ByteArray.push ByteArray.empty).toList = written := by
    rw [toList_foldl_push, toList_eq_toList_data]
    rfl
  have aligned (check : List UInt8) :
      (Deflate.bitsOfBytes check).drop ((Deflate.bitsOfBytes check).length % 8) =
        Deflate.bitsOfBytes (check ++ []) := by
    rw [Deflate.length_bitsOfBytes, Nat.mul_mod_right, List.drop_zero, List.append_nil]
  have checked := Deflate.bytes?_append (bigEndian (checksum bytes)) [] ByteArray.empty
  rw [← aligned] at checked
  have decoded := decode?_eq_some isHeader_written (Deflate.inflate?_stored bytes _) checked
    (by rw [output, output])
  rwa [output] at decoded

end Zlib
end FactoryBlueprint
