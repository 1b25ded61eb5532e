import FactoryBlueprint.Codec.Base64
import FactoryBlueprint.Proofs.Codec.Text

/-! # Reading back base64

The characters of bytes read back as the bytes (`decode_encode`): every group of four characters
stands for three bytes, and the padded last one for those that are left.
-/

namespace FactoryBlueprint.Base64

/-- The characters of the text are those of the alphabet and the padding. -/
theorem forall_mem_encode {property : Char → Prop} (alphabet : ∀ n < 64, property (character n))
    (padding : property '=') : (bytes : List UInt8) → ∀ c ∈ encode bytes, property c
  | [] => nofun
  | [a] => by
    have := a.toNat_lt
    simp only [encode, List.forall_mem_cons]
    exact ⟨alphabet _ (by omega), alphabet _ (by omega), padding, padding, nofun⟩
  | [a, b] => by
    have := a.toNat_lt
    have := b.toNat_lt
    simp only [encode, List.forall_mem_cons]
    exact ⟨alphabet _ (by omega), alphabet _ (by omega), alphabet _ (by omega), padding, nofun⟩
  | a :: b :: c :: rest => by
    have := a.toNat_lt
    have := b.toNat_lt
    have := c.toNat_lt
    simp only [encode, List.forall_mem_cons]
    exact ⟨alphabet _ (by omega), alphabet _ (by omega), alphabet _ (by omega),
      alphabet _ (by omega), forall_mem_encode alphabet padding rest⟩

/-- Every value is read back from its character, which is no padding. -/
theorem value?_character : ∀ n < 64, value? (character n).toUInt8 = some n ∧
    (character n).toUInt8 ≠ padding := by decide +kernel

theorem symbol_character {n : Nat} (small : n < 64) (offset : Nat) :
    symbol (character n).toUInt8 offset = .ok n := by
  rw [symbol, (value?_character n small).1]

theorem toUInt8_padding : '='.toUInt8 = padding := by decide

theorem joined_split (a b c : UInt8) :
    joined (a.toNat / 4) (a.toNat % 4 * 16 + b.toNat / 16) (b.toNat % 16 * 4 + c.toNat / 64)
      (c.toNat % 64) = [a, b, c] := by
  have := a.toNat_lt
  have := b.toNat_lt
  have := c.toNat_lt
  have first : a.toNat / 4 * 4 + (a.toNat % 4 * 16 + b.toNat / 16) / 16 = a.toNat := by omega
  have second : (a.toNat % 4 * 16 + b.toNat / 16) % 16 * 16 +
      (b.toNat % 16 * 4 + c.toNat / 64) / 4 = b.toNat := by omega
  have third : (b.toNat % 16 * 4 + c.toNat / 64) % 4 * 64 + c.toNat % 64 = c.toNat := by omega
  rw [joined, first, second, third]
  simp

/-! ### The last group -/

theorem readLast_character {n : Nat} (small : n < 64) (start place : Nat) (rest : List UInt8)
    (symbols : List (UInt8 × Nat)) (paddings : Nat) :
    readLast start ((character n).toUInt8 :: rest) place ⟨symbols, none, paddings⟩ =
      readLast start rest (place + 1) ⟨symbols ++ [((character n).toUInt8, n)], none, paddings⟩ := by
  rw [readLast, if_neg (value?_character n small).2, symbol_character small]

theorem readLast_padding (start : Nat) {place : Nat} (late : 2 ≤ place) (rest : List UInt8)
    (group : LastGroup) : readLast start (padding :: rest) place group =
      readLast start rest (place + 1) { group with
        firstPadding := some (group.firstPadding.getD (start + place))
        paddings := group.paddings + 1 } := by
  rw [readLast, if_pos rfl, if_neg (by omega)]

/-- A last group of one, two or three bytes reads back. -/
theorem decodeLast_encode (start : Nat) {bytes : List UInt8} (nonempty : bytes ≠ [])
    (few : bytes.length ≤ 3) : decodeLast start ((encode bytes).map Char.toUInt8) = .ok bytes := by
  match bytes with
  | [a] =>
    have := a.toNat_lt
    have whole : joined (a.toNat / 4) (a.toNat % 4 * 16) 0 0 = [a, 0, 0] := by
      simpa using joined_split a 0 0
    have unused : a.toNat % 4 * 16 % 16 = 0 := by omega
    simp only [encode, List.map_cons, List.map_nil, toUInt8_padding, decodeLast]
    rw [readLast_character (by omega), readLast_character (by omega), readLast_padding _ (by omega),
      readLast_padding _ (by omega), readLast]
    simp [bind, Except.bind, pure, Except.pure, unused, whole]
  | [a, b] =>
    have := a.toNat_lt
    have := b.toNat_lt
    have whole : joined (a.toNat / 4) (a.toNat % 4 * 16 + b.toNat / 16) (b.toNat % 16 * 4) 0 =
        [a, b, 0] := by
      simpa using joined_split a b 0
    have unused : b.toNat % 16 * 4 % 4 = 0 := by omega
    simp only [encode, List.map_cons, List.map_nil, toUInt8_padding, decodeLast]
    rw [readLast_character (by omega), readLast_character (by omega),
      readLast_character (by omega), readLast_padding _ (by omega), readLast]
    simp [bind, Except.bind, pure, Except.pure, unused, whole]
  | [a, b, c] =>
    have := a.toNat_lt
    have := b.toNat_lt
    have := c.toNat_lt
    simp only [encode, List.map_cons, List.map_nil, decodeLast]
    rw [readLast_character (by omega), readLast_character (by omega),
      readLast_character (by omega), readLast_character (by omega), readLast]
    simp [bind, Except.bind, pure, Except.pure, joined_split]

/-! ### All groups -/

/-- A group with something after it. -/
theorem decodeFrom_group {a b c d : Nat} (first : a < 64) (second : b < 64) (third : c < 64)
    (fourth : d < 64) (offset : Nat) (done : List UInt8) {rest : List UInt8} (more : rest ≠ []) :
    decodeFrom offset done ((character a).toUInt8 :: (character b).toUInt8 ::
        (character c).toUInt8 :: (character d).toUInt8 :: rest) =
      decodeFrom (offset + 4) ((joined a b c d).reverse ++ done) rest := by
  cases rest with
  | nil => contradiction
  | cons e rest =>
    simp only [decodeFrom, symbol_character first, symbol_character second, symbol_character third,
      symbol_character fourth, bind, Except.bind]

theorem decodeFrom_last (offset : Nat) (done : List UInt8) {bytes : List UInt8}
    (nonempty : bytes ≠ []) (few : bytes.length ≤ 3) :
    decodeFrom offset done ((encode bytes).map Char.toUInt8) = .ok (done.reverse ++ bytes) := by
  have last := decodeLast_encode offset nonempty few
  match bytes with
  | [_] | [_, _] | [_, _, _] =>
    simp only [encode, List.map_cons, List.map_nil] at last ⊢
    rw [decodeFrom, last]
    · rfl
    all_goals simp

theorem map_encode_ne_nil {bytes : List UInt8} (nonempty : bytes ≠ []) :
    (encode bytes).map Char.toUInt8 ≠ [] := by
  match bytes with
  | [_] | [_, _] | _ :: _ :: _ :: _ => simp [encode]

theorem decodeFrom_encode : (bytes : List UInt8) → bytes ≠ [] → (offset : Nat) →
    (done : List UInt8) →
    decodeFrom offset done ((encode bytes).map Char.toUInt8) = .ok (done.reverse ++ bytes)
  | [], nonempty, _, _ => absurd rfl nonempty
  | [_], nonempty, offset, done => decodeFrom_last offset done nonempty (by simp)
  | [_, _], nonempty, offset, done => decodeFrom_last offset done nonempty (by simp)
  | [_, _, _], nonempty, offset, done => decodeFrom_last offset done nonempty (by simp)
  | a :: b :: c :: d :: rest, _, offset, done => by
    have := a.toNat_lt
    have := b.toNat_lt
    have := c.toNat_lt
    have more : (encode (d :: rest)).map Char.toUInt8 ≠ [] := map_encode_ne_nil (by simp)
    rw [encode]
    simp only [List.map_cons]
    rw [decodeFrom_group (by omega) (by omega) (by omega) (by omega) offset done more, joined_split,
      decodeFrom_encode (d :: rest) (by simp)]
    simp

theorem length_encode : (bytes : List UInt8) → (encode bytes).length % 4 = 0
  | [] | [_] | [_, _] => by simp [encode]
  | _ :: _ :: _ :: rest => by
    have := length_encode rest
    simp only [encode, List.length_cons]
    omega

/-- The text of bytes reads back as the bytes. -/
theorem decode_encode (bytes : List UInt8) : decode ((encode bytes).map Char.toUInt8) = .ok bytes := by
  have even : ((encode bytes).map Char.toUInt8).length % 4 = 0 := by
    rw [List.length_map]
    exact length_encode bytes
  rw [decode]
  split
  · rename_i none
    have empty : (encode bytes).map Char.toUInt8 = [] := List.getLast?_eq_none_iff.mp none
    cases bytes with
    | nil => rfl
    | cons a rest => exact absurd empty (map_encode_ne_nil (by simp))
  · rename_i last
    have nonempty : bytes ≠ [] := by
      rintro rfl
      simp [encode] at last
    rw [if_neg (by omega), decodeFrom_encode bytes nonempty]
    rfl

end FactoryBlueprint.Base64
