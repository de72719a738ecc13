import Rehearsal.Bytes.Base64

namespace Rehearsal.Base64

theorem value_digit : ∀ n < 64, value? (digit n) = some n := by decide

theorem digit_ne_pad : ∀ n < 64, digit n ≠ '=' := by decide

theorem digit_ascii : ∀ n < 64, (digit n).toNat < 0x80 := by decide

/-- A digit goes on with its group: all but the first complete a byte, and the fourth ends the group. -/
theorem decodeFrom_digit {n : Nat} (bound : n < 64) (digits left count : Nat) (rest : List Char) :
    decodeFrom true { digits, left } count (digit n :: rest) =
      match digits with
      | 0 => decodeFrom true { digits := 1, left := n } count rest
      | 1 => (decodeFrom true { digits := 2, left := n % 16 } (count + 1) rest).map
          (UInt8.ofNat (left * 4 + n / 16) :: ·)
      | 2 => (decodeFrom true { digits := 3, left := n % 4 } (count + 1) rest).map
          (UInt8.ofNat (left * 16 + n / 4) :: ·)
      | _ => (decodeFrom true {} (count + 1) rest).map (UInt8.ofNat (left * 64 + n) :: ·) := by
  rw [decodeFrom]
  · rw [value_digit n bound]
    rcases digits with _ | _ | _ | _ <;> rfl
  · exact digit_ne_pad n bound

theorem decodeFrom_encodeBytes (count : Nat) (bytes : Bytes) :
    decodeFrom true {} count (encodeBytes bytes) = .ok bytes := by
  induction bytes using encodeBytes.induct generalizing count with
  | case1 => rfl
  | case2 a =>
    have bound := a.toNat_lt
    have whole : a.toNat / 4 * 4 + a.toNat % 4 * 16 / 16 = a.toNat := by omega
    simp (disch := omega) only [encodeBytes, decodeFrom_digit, whole, UInt8.ofNat_toNat]
    rfl
  | case3 a b =>
    have boundA := a.toNat_lt
    have boundB := b.toNat_lt
    have first : a.toNat / 4 * 4 + (a.toNat % 4 * 16 + b.toNat / 16) / 16 = a.toNat := by omega
    have second : (a.toNat % 4 * 16 + b.toNat / 16) % 16 * 16 + b.toNat % 16 * 4 / 4 = b.toNat := by
      omega
    simp (disch := omega) only [encodeBytes, decodeFrom_digit, first, second, UInt8.ofNat_toNat]
    rfl
  | case4 a b c rest ih =>
    have boundA := a.toNat_lt
    have boundB := b.toNat_lt
    have boundC := c.toNat_lt
    have first : a.toNat / 4 * 4 + (a.toNat % 4 * 16 + b.toNat / 16) / 16 = a.toNat := by omega
    have second : (a.toNat % 4 * 16 + b.toNat / 16) % 16 * 16 + (b.toNat % 16 * 4 + c.toNat / 64) / 4 =
        b.toNat := by omega
    have third : (b.toNat % 16 * 4 + c.toNat / 64) % 4 * 64 + c.toNat % 64 = c.toNat := by omega
    simp (disch := omega) only [encodeBytes, decodeFrom_digit, first, second, third, ih,
      UInt8.ofNat_toNat]
    rfl

theorem encodeBytes_ascii (bytes : Bytes) : ∀ c ∈ encodeBytes bytes, c.toNat < 0x80 := by
  have pad : ('=' : Char).toNat < 0x80 := by decide
  induction bytes using encodeBytes.induct with
  | case1 => simp [encodeBytes]
  | case2 a =>
    have bound := a.toNat_lt
    simp only [encodeBytes, List.forall_mem_cons]
    exact ⟨digit_ascii _ (by omega), digit_ascii _ (by omega), pad, pad, by simp⟩
  | case3 a b =>
    have boundA := a.toNat_lt
    have boundB := b.toNat_lt
    simp only [encodeBytes, List.forall_mem_cons]
    exact ⟨digit_ascii _ (by omega), digit_ascii _ (by omega), digit_ascii _ (by omega), pad, by simp⟩
  | case4 a b c rest ih =>
    have boundA := a.toNat_lt
    have boundB := b.toNat_lt
    have boundC := c.toNat_lt
    simp only [encodeBytes, List.forall_mem_cons]
    exact ⟨digit_ascii _ (by omega), digit_ascii _ (by omega), digit_ascii _ (by omega),
      digit_ascii _ (by omega), ih⟩

theorem encodeBytes_head (bytes : Bytes) (rest : List Char) : encodeBytes bytes ≠ '=' :: rest := by
  match bytes with
  | [] => simp [encodeBytes]
  | [a] | [a, b] | a :: b :: c :: _ =>
    have bound := a.toNat_lt
    have digital := digit_ne_pad (a.toNat / 4) (by omega)
    intro padded
    simp only [encodeBytes, List.cons.injEq] at padded
    exact digital padded.1

theorem decode_encode (bytes : Bytes) : decode (encode bytes) = .ok bytes := by
  rw [decode, encode, String.toList_ofList]
  split
  · rename_i rest padded
    exact absurd padded (encodeBytes_head bytes rest)
  · exact decodeFrom_encodeBytes 0 bytes

end Rehearsal.Base64
