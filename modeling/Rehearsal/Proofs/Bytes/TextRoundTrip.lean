import Rehearsal.Proofs.Bytes.PlainText

namespace Rehearsal.Utf8

theorem item_two {lead b : UInt8} {rest : Bytes} (low : 0xC2 ≤ lead.toNat) (high : lead.toNat < 0xE0)
    (tail : isTail b = true) :
    item lead (b :: rest) = .char (Char.ofNat ((lead.toNat - 0xC0) * 0x40 + b.toNat % 0x40)) 1 := by
  have notOne : ¬ lead.toNat < 0x80 := by omega
  have begins : ¬ lead.toNat < 0xC2 := by omega
  simp only [item, notOne, begins, high, tail, ↓reduceIte]
  rfl

theorem item_three {lead b c : UInt8} {rest : Bytes} (low : 0xE0 ≤ lead.toNat) (high : lead.toNat < 0xF0)
    (second : isTail b = true) (third : isTail c = true)
    (short : lead.toNat = 0xE0 → 0xA0 ≤ b.toNat) (surrogate : lead.toNat = 0xED → b.toNat < 0xA0) :
    item lead (b :: c :: rest) = .char (Char.ofNat
      ((lead.toNat - 0xE0) * 0x1000 + b.toNat % 0x40 * 0x40 + c.toNat % 0x40)) 2 := by
  have notOne : ¬ lead.toNat < 0x80 := by omega
  have begins : ¬ lead.toNat < 0xC2 := by omega
  have notTwo : ¬ lead.toNat < 0xE0 := by omega
  have allowed : (!isTail b || (lead.toNat == 0xE0 && b < 0xA0) || (lead.toNat == 0xED && !(b < 0xA0))) =
      false := by
    simp only [second, Bool.not_true, Bool.false_or, Bool.or_eq_false_iff, Bool.and_eq_false_iff,
      beq_eq_false_iff_ne, decide_eq_false_iff_not, Bool.not_eq_false', decide_eq_true_eq,
      UInt8.lt_iff_toNat_lt, UInt8.reduceToNat]
    omega
  simp only [item, notOne, begins, notTwo, high, allowed, third, Bool.false_eq_true, ↓reduceIte]
  rfl

theorem item_four {lead b c d : UInt8} {rest : Bytes} (low : 0xF0 ≤ lead.toNat)
    (high : lead.toNat < 0xF5) (second : isTail b = true) (third : isTail c = true)
    (fourth : isTail d = true) (short : lead.toNat = 0xF0 → 0x90 ≤ b.toNat)
    (last : lead.toNat = 0xF4 → b.toNat < 0x90) :
    item lead (b :: c :: d :: rest) = .char (Char.ofNat
      ((lead.toNat - 0xF0) * 0x40000 + b.toNat % 0x40 * 0x1000 + c.toNat % 0x40 * 0x40 +
        d.toNat % 0x40)) 3 := by
  have notOne : ¬ lead.toNat < 0x80 := by omega
  have begins : ¬ lead.toNat < 0xC2 := by omega
  have notTwo : ¬ lead.toNat < 0xE0 := by omega
  have notThree : ¬ lead.toNat < 0xF0 := by omega
  have allowed : (!isTail b || (lead.toNat == 0xF0 && b < 0x90) || (lead.toNat == 0xF4 && !(b < 0x90))) =
      false := by
    simp only [second, Bool.not_true, Bool.false_or, Bool.or_eq_false_iff, Bool.and_eq_false_iff,
      beq_eq_false_iff_ne, decide_eq_false_iff_not, Bool.not_eq_false', decide_eq_true_eq,
      UInt8.lt_iff_toNat_lt, UInt8.reduceToNat]
    omega
  simp only [item, notOne, begins, notTwo, notThree, high, allowed, third, fourth, Bool.not_true,
    Bool.false_eq_true, ↓reduceIte]
  rfl

theorem toNat_byte {n : Nat} (bound : n < 0x100) : (UInt8.ofNat n).toNat = n := by
  rw [UInt8.toNat_ofNat']
  omega

theorem isTail_byte {n : Nat} (low : 0x80 ≤ n) (high : n < 0xC0) : isTail (UInt8.ofNat n) = true := by
  have byte := toNat_byte (n := n) (by omega)
  simp only [isTail, Bool.and_eq_true, decide_eq_true_eq, UInt8.le_iff_toNat_le, UInt8.lt_iff_toNat_lt,
    byte, UInt8.reduceToNat]
  exact ⟨low, high⟩

theorem toNat_bounds (c : Char) : c.toNat < 0xD800 ∨ 0xDFFF < c.toNat ∧ c.toNat < 0x110000 := c.valid

/-- The bytes of a character read as that character, whatever follows them. -/
theorem item_encodeChar (c : Char) (rest : Bytes) :
    ∃ lead more, encodeChar c = lead :: more ∧ item lead (more ++ rest) = .char c more.length := by
  have valid := toNat_bounds c
  by_cases one : c.toNat < 0x80
  · refine ⟨UInt8.ofNat c.toNat, [], encodeChar_ascii one, ?_⟩
    have byte := toNat_byte (n := c.toNat) (by omega)
    rw [item_ascii (by omega), byte, Char.ofNat_toNat]
    rfl
  by_cases two : c.toNat < 0x800
  · refine ⟨_, _, by simp only [encodeChar, one, two, ↓reduceIte]; rfl, ?_⟩
    have lead := toNat_byte (n := 0xC0 + c.toNat / 0x40) (by omega)
    have second := toNat_byte (n := 0x80 + c.toNat % 0x40) (by omega)
    have whole : (0xC0 + c.toNat / 0x40 - 0xC0) * 0x40 + (0x80 + c.toNat % 0x40) % 0x40 = c.toNat := by
      omega
    rw [List.cons_append, item_two (by omega) (by omega) (isTail_byte (by omega) (by omega)), lead,
      second, whole, Char.ofNat_toNat]
    rfl
  by_cases three : c.toNat < 0x10000
  · refine ⟨_, _, by simp only [encodeChar, one, two, three, ↓reduceIte]; rfl, ?_⟩
    have lead := toNat_byte (n := 0xE0 + c.toNat / 0x1000) (by omega)
    have second := toNat_byte (n := 0x80 + c.toNat / 0x40 % 0x40) (by omega)
    have third := toNat_byte (n := 0x80 + c.toNat % 0x40) (by omega)
    have whole : (0xE0 + c.toNat / 0x1000 - 0xE0) * 0x1000 + (0x80 + c.toNat / 0x40 % 0x40) % 0x40 * 0x40 +
        (0x80 + c.toNat % 0x40) % 0x40 = c.toNat := by omega
    rw [List.cons_append, List.cons_append, item_three (by omega) (by omega)
      (isTail_byte (by omega) (by omega)) (isTail_byte (by omega) (by omega)) (by omega) (by omega), lead,
      second, third, whole, Char.ofNat_toNat]
    rfl
  · refine ⟨_, _, by simp only [encodeChar, one, two, three, ↓reduceIte]; rfl, ?_⟩
    have lead := toNat_byte (n := 0xF0 + c.toNat / 0x40000) (by omega)
    have second := toNat_byte (n := 0x80 + c.toNat / 0x1000 % 0x40) (by omega)
    have third := toNat_byte (n := 0x80 + c.toNat / 0x40 % 0x40) (by omega)
    have fourth := toNat_byte (n := 0x80 + c.toNat % 0x40) (by omega)
    have whole : (0xF0 + c.toNat / 0x40000 - 0xF0) * 0x40000 +
        (0x80 + c.toNat / 0x1000 % 0x40) % 0x40 * 0x1000 + (0x80 + c.toNat / 0x40 % 0x40) % 0x40 * 0x40 +
        (0x80 + c.toNat % 0x40) % 0x40 = c.toNat := by omega
    rw [List.cons_append, List.cons_append, List.cons_append, item_four (by omega) (by omega)
      (isTail_byte (by omega) (by omega)) (isTail_byte (by omega) (by omega))
      (isTail_byte (by omega) (by omega)) (by omega) (by omega), lead, second, third, fourth, whole,
      Char.ofNat_toNat]
    rfl

theorem decodeFrom_encode (position : Nat) (cs : List Char) :
    decodeFrom position (cs.flatMap encodeChar) = .ok cs := by
  induction cs generalizing position with
  | nil => rw [List.flatMap_nil, decodeFrom]
  | cons c rest ih =>
    obtain ⟨lead, more, bytes, read⟩ := item_encodeChar c (rest.flatMap encodeChar)
    rw [List.flatMap_cons, bytes, List.cons_append, decodeFrom, read]
    simp only [List.drop_left, ih]

theorem decode_ok (s : String) : decode (encode s) = .ok s := by
  rw [decode, encode, decodeFrom_encode]
  simp [Except.map]

theorem decode_encode (s : String) : decode? (encode s) = some s := by
  rw [decode?, decode_ok]
  rfl

theorem encode_injective {s t : String} (same : encode s = encode t) : s = t := by
  have read := decode_encode s
  rw [same, decode_encode] at read
  exact (Option.some.inj read).symm

theorem prefix_of_encode {start cs : List Char}
    (same : start.flatMap encodeChar <+: cs.flatMap encodeChar) : start <+: cs := by
  obtain ⟨rest, same⟩ := same
  induction start generalizing cs with
  | nil => exact List.nil_prefix
  | cons a start ih =>
    obtain ⟨lead, more, bytes, read⟩ := item_encodeChar a (start.flatMap encodeChar ++ rest)
    cases cs with
    | nil => simp [bytes] at same
    | cons c cs =>
      obtain ⟨lead', more', bytes', read'⟩ := item_encodeChar c (cs.flatMap encodeChar)
      rw [List.flatMap_cons, List.flatMap_cons, bytes, bytes', List.append_assoc, List.cons_append,
        List.cons_append] at same
      -- The first item of the same bytes is one character.
      obtain ⟨rfl, tail⟩ := List.cons.inj same
      rw [tail, read'] at read
      obtain ⟨rfl, -⟩ := Item.char.inj read
      cases bytes.symm.trans bytes'
      exact (List.prefix_cons_inj c).mpr (ih (List.append_cancel_left tail))

end Rehearsal.Utf8
