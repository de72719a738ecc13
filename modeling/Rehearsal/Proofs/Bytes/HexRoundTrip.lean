import Rehearsal.Identifier

namespace Rehearsal

namespace Hex

theorem value_digit : ∀ n < 16, value? (digit n) = some n := by decide

theorem digit_not_blank : ∀ n < 16, isBlank (digit n) = false := by decide

theorem decodeChars_digits {c d : Char} {b : UInt8} (notBlank : isBlank c = false)
    (high : value? c = some (b.toNat / 16)) (low : value? d = some (b.toNat % 16)) (rest : List Char) :
    decodeChars? (c :: d :: rest) = (decodeChars? rest).map (b :: ·) := by
  have whole : UInt8.ofNat (b.toNat / 16 * 16 + b.toNat % 16) = b := by
    rw [Nat.div_add_mod', UInt8.ofNat_toNat]
  simp only [decodeChars?, notBlank, high, low, Bool.false_eq_true, ↓reduceIte, bind, pure,
    Option.bind_some, whole]
  cases decodeChars? rest <;> rfl

theorem decodeChars_pair (b : UInt8) (rest : List Char) :
    decodeChars? (pair b ++ rest) = (decodeChars? rest).map (b :: ·) := by
  have bound : b.toNat < 256 := b.toNat_lt
  have high : b.toNat / 16 < 16 := by omega
  have low : b.toNat % 16 < 16 := by omega
  exact decodeChars_digits (digit_not_blank _ high) (value_digit _ high) (value_digit _ low) rest

theorem decodeChars_flatMap_pair (bytes : Bytes) :
    decodeChars? (bytes.flatMap pair) = some bytes := by
  induction bytes with
  | nil => rfl
  | cons b rest ih => rw [List.flatMap_cons, decodeChars_pair, ih, Option.map_some]

theorem digit_code : ∀ n < 16,
    (digit n).toNat = 48 + n ∧ n < 10 ∨ (digit n).toNat = 87 + n ∧ 10 ≤ n := by decide

theorem code_of_value {c : Char} {n : Nat} (read : value? c = some n) : c.toNat < 0x67 := by
  unfold value? at read
  split at read
  · rename_i range
    have most : c.toNat ≤ 0x39 := range.2
    omega
  split at read
  · rename_i range
    have most : c.toNat ≤ 0x66 := range.2
    omega
  split at read
  · rename_i range
    have most : c.toNat ≤ 0x46 := range.2
    omega
  · cases read

theorem value_capital : ∀ n < 16, 10 ≤ n →
    value? (Char.ofNat (55 + n)) = some n ∧ isBlank (Char.ofNat (55 + n)) = false := by decide

/-- A character that is a digit in lower case is that digit or its capital. -/
theorem value_of_toLower {c : Char} {n : Nat} (bound : n < 16) (lower : c.toLower = digit n) :
    value? c = some n ∧ isBlank c = false := by
  unfold Char.toLower at lower
  split at lower
  · rename_i capital
    have least : 65 ≤ c.toNat := capital.1
    have most : c.toNat ≤ 90 := capital.2
    have moved : c.toNat + 32 = (digit n).toNat := by
      rw [← lower]
      show c.toNat + 32 = (c.val + 32).toNat
      rw [UInt32.toNat_add]
      show c.toNat + 32 = (c.toNat + 32) % 2 ^ 32
      omega
    have code := digit_code n bound
    have letter : c = Char.ofNat (55 + n) := by
      rw [← Char.ofNat_toNat c]
      congr 1
      omega
    rw [letter]
    exact value_capital n bound (by omega)
  · rw [lower]
    exact ⟨value_digit n bound, digit_not_blank n bound⟩

theorem decodeChars_of_toLower (bytes : Bytes) {cs : List Char}
    (lower : cs.map Char.toLower = bytes.flatMap pair) : decodeChars? cs = some bytes := by
  induction bytes generalizing cs with
  | nil =>
    rw [List.map_eq_nil_iff.mp lower]
    rfl
  | cons b rest ih =>
    obtain ⟨c, _, rfl, first, after⟩ := List.map_eq_cons_iff.mp lower
    obtain ⟨d, cs, rfl, second, later⟩ := List.map_eq_cons_iff.mp after
    have bound : b.toNat < 256 := b.toNat_lt
    obtain ⟨high, notBlank⟩ := value_of_toLower (show b.toNat / 16 < 16 by omega) first
    obtain ⟨low, _⟩ := value_of_toLower (show b.toNat % 16 < 16 by omega) second
    rw [decodeChars_digits notBlank high low, ih later, Option.map_some]

theorem length_encode (bytes : Bytes) : (encode bytes).toList.length = 2 * bytes.length := by
  rw [encode, String.toList_ofList]
  induction bytes with
  | nil => rfl
  | cons b rest ih =>
    rw [List.flatMap_cons, List.length_append, ih, List.length_cons]
    change 2 + 2 * rest.length = 2 * (rest.length + 1)
    omega

theorem digit_lower : ∀ n < 16, digit n ∈ "0123456789abcdef".toList := by decide

theorem encode_lower (bytes : Bytes) : ∀ c ∈ (encode bytes).toList, c ∈ "0123456789abcdef".toList := by
  intro c member
  rw [encode, String.toList_ofList, List.mem_flatMap] at member
  obtain ⟨b, _, inside⟩ := member
  have bound : b.toNat < 256 := b.toNat_lt
  simp only [pair, List.mem_cons, List.not_mem_nil, or_false] at inside
  rcases inside with rfl | rfl
  · exact digit_lower _ (by omega)
  · exact digit_lower _ (by omega)

theorem decode_encode (bytes : Bytes) : decode? (encode bytes) = some bytes := by
  rw [decode?, encode, String.toList_ofList, decodeChars_flatMap_pair]

theorem encode_injective {x y : Bytes} (same : encode x = encode y) : x = y := by
  have read := decode_encode x
  rw [same, decode_encode] at read
  exact (Option.some.inj read).symm

end Hex

namespace Block

theorem ofBytes_bytes (b : Block) : ofBytes? b.bytes = some b := by
  simp [ofBytes?, b.length_bytes]

theorem decode_text (b : Block) : Hex.decode? b.text = some b.bytes := Hex.decode_encode b.bytes

theorem text_ne_empty (b : Block) : b.text ≠ "" := by
  intro empty
  have read := b.decode_text
  rw [empty] at read
  have none : b.bytes = [] := (Option.some.inj read).symm
  have length := b.length_bytes
  rw [none] at length
  cases length

theorem text_injective {x y : Block} (same : x.text = y.text) : x = y := by
  obtain ⟨xs, _⟩ := x
  obtain ⟨ys, _⟩ := y
  have bytes : xs = ys := Hex.encode_injective same
  subst bytes
  rfl

end Block

end Rehearsal
