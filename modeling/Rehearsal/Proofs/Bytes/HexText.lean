import Rehearsal.Proofs.Bytes.HexRoundTrip

namespace Rehearsal.Hex

/-- Text of pairs of digits in letters of either case, with so many blanks before, between and after
the pairs. -/
inductive Spaced : List Char → Bytes → Nat → Prop
  | nil : Spaced [] [] 0
  | blank {c : Char} {cs : List Char} {bytes : Bytes} {n : Nat} (blank : isBlank c = true)
      (rest : Spaced cs bytes n) : Spaced (c :: cs) bytes (n + 1)
  | pair {c d : Char} {cs : List Char} {b : UInt8} {bytes : Bytes} {n : Nat}
      (digits : [c, d].map Char.toLower = pair b) (rest : Spaced cs bytes n) :
      Spaced (c :: d :: cs) (b :: bytes) n

theorem value_codes : ∀ code < 0x67, ∀ n ∈ value? (Char.ofNat code),
    n < 16 ∧ (Char.ofNat code).toLower = digit n := by decide +kernel

theorem lower_of_value {c : Char} {n : Nat} (read : value? c = some n) : n < 16 ∧ c.toLower = digit n := by
  have digit := value_codes c.toNat (code_of_value read) n
  rw [Char.ofNat_toNat] at digit
  exact digit read

theorem code_of_blank {c : Char} (blank : isBlank c = true) : c.toNat < 0x67 := by
  simp only [isBlank, Bool.or_eq_true, beq_iff_eq, Bool.and_eq_true, decide_eq_true_eq] at blank
  rcases blank with rfl | ⟨_, most⟩
  · decide
  · have range : c.toNat ≤ 0x0d := most
    omega

variable {c d : Char} {cs : List Char} {b : UInt8} {bytes : Bytes} {n : Nat}

theorem digits_of_values {high low : Nat} (first : value? c = some high) (second : value? d = some low) :
    [c, d].map Char.toLower = pair (UInt8.ofNat (high * 16 + low)) := by
  obtain ⟨most, upper⟩ := lower_of_value first
  obtain ⟨least, lower⟩ := lower_of_value second
  have whole : (UInt8.ofNat (high * 16 + low)).toNat = high * 16 + low := by
    rw [UInt8.toNat_ofNat']
    omega
  have quotient : (high * 16 + low) / 16 = high := by omega
  have remainder : (high * 16 + low) % 16 = low := by omega
  simp only [List.map_cons, List.map_nil, pair, whole, quotient, remainder, upper, lower]

theorem spaced_of_decodeChars (read : decodeChars? cs = some bytes) : ∃ n, Spaced cs bytes n := by
  fun_induction decodeChars? cs generalizing bytes with
  | case1 =>
    cases read
    exact ⟨0, .nil⟩
  | case2 c rest blank ih =>
    obtain ⟨n, spaced⟩ := ih read
    exact ⟨n + 1, .blank blank spaced⟩
  | case3 => cases read
  | case4 c notBlank d rest ih =>
    obtain ⟨high, first, read⟩ := Option.bind_eq_some_iff.mp read
    obtain ⟨low, second, read⟩ := Option.bind_eq_some_iff.mp read
    obtain ⟨bytes, later, same⟩ := Option.bind_eq_some_iff.mp read
    cases same
    obtain ⟨n, spaced⟩ := ih later
    exact ⟨n, .pair (digits_of_values first second) spaced⟩

namespace Spaced

theorem read (spaced : Spaced cs bytes n) : decodeChars? cs = some bytes := by
  induction spaced with
  | nil => rfl
  | @blank c cs bytes n blank rest ih =>
    unfold decodeChars?
    rw [if_pos blank, ih]
  | @pair c d cs b bytes n digits rest ih =>
    have bound : b.toNat < 256 := b.toNat_lt
    obtain ⟨upper, lower⟩ := List.cons.inj digits
    obtain ⟨high, notBlank⟩ := value_of_toLower (show b.toNat / 16 < 16 by omega) upper
    obtain ⟨low, _⟩ := value_of_toLower (show b.toNat % 16 < 16 by omega) (List.cons.inj lower).1
    rw [decodeChars_digits notBlank high low, ih, Option.map_some]

theorem length (spaced : Spaced cs bytes n) : cs.length = 2 * bytes.length + n := by
  induction spaced with
  | nil => rfl
  | blank _ _ ih | pair _ _ ih =>
    simp only [List.length_cons, ih]
    omega

theorem codes (spaced : Spaced cs bytes n) : ∀ c ∈ cs, c.toNat < 0x67 := by
  induction spaced with
  | nil => simp
  | blank blank _ ih => simpa [code_of_blank blank] using ih
  | @pair c d cs b bytes n digits rest ih =>
    have bound : b.toNat < 256 := b.toNat_lt
    obtain ⟨upper, lower⟩ := List.cons.inj digits
    have high := value_of_toLower (show b.toNat / 16 < 16 by omega) upper
    have low := value_of_toLower (show b.toNat % 16 < 16 by omega) (List.cons.inj lower).1
    simpa [code_of_value high.1, code_of_value low.1] using ih

end Spaced

theorem spaced_zero : Spaced cs bytes 0 ↔ cs.map Char.toLower = bytes.flatMap pair := by
  constructor
  · intro spaced
    generalize none : 0 = n at spaced
    induction spaced with
    | nil => rfl
    | blank _ _ => cases none
    | pair digits _ ih =>
      rw [List.flatMap_cons, ← digits, ← ih none]
      rfl
  · intro lower
    induction bytes generalizing cs with
    | nil =>
      rw [List.map_eq_nil_iff.mp lower]
      exact .nil
    | cons b bytes ih =>
      obtain ⟨c, _, rfl, first, after⟩ := List.map_eq_cons_iff.mp lower
      obtain ⟨d, cs, rfl, second, later⟩ := List.map_eq_cons_iff.mp after
      refine .pair ?_ (ih later)
      rw [List.map_cons, List.map_cons, first, second]
      rfl

theorem spaced_lower {t : String} : Spaced t.toList bytes 0 ↔ t.toLower = encode bytes := by
  rw [spaced_zero, ← String.toList_inj, encode, String.toList_ofList]
  show _ ↔ (String.map Char.toLower t).toList = _
  rw [String.toList_map]

theorem spaced_encode (bytes : Bytes) : Spaced (encode bytes).toList bytes 0 := by
  obtain ⟨n, spaced⟩ := spaced_of_decodeChars (decode_encode bytes)
  have length := spaced.length
  rw [length_encode] at length
  obtain rfl : n = 0 := by omega
  exact spaced

theorem spaced_of_digits (even : cs.length = 2 * n) (digits : ∀ c ∈ cs, (value? c).isSome = true) :
    ∃ bytes, Spaced cs bytes 0 := by
  induction n generalizing cs with
  | zero =>
    rw [List.length_eq_zero_iff.mp even]
    exact ⟨[], .nil⟩
  | succ n ih =>
    obtain ⟨c, d, cs, rfl⟩ : ∃ c d rest, cs = c :: d :: rest := by
      match cs, even with
      | c :: d :: rest, _ => exact ⟨c, d, rest, rfl⟩
      | [_], even => simp at even; omega
    obtain ⟨high, first⟩ := Option.isSome_iff_exists.mp (digits c (by simp))
    obtain ⟨low, second⟩ := Option.isSome_iff_exists.mp (digits d (by simp))
    simp only [List.length_cons] at even
    have fewer : cs.length = 2 * n := by omega
    obtain ⟨bytes, spaced⟩ := ih fewer fun c member => digits c (by simp [member])
    exact ⟨_, .pair (digits_of_values first second) spaced⟩

theorem digits_of_spaced (spaced : Spaced cs bytes 0) : ∀ c ∈ cs, (value? c).isSome = true := by
  intro c member
  have lowered := List.mem_map_of_mem (f := Char.toLower) member
  rw [spaced_zero.mp spaced] at lowered
  obtain ⟨byte, _, digit⟩ := List.mem_flatMap.mp lowered
  have bound : byte.toNat < 256 := byte.toNat_lt
  simp only [pair, List.mem_cons, List.not_mem_nil, or_false] at digit
  rcases digit with high | low
  · exact Option.isSome_of_eq_some (value_of_toLower (by omega) high).1
  · exact Option.isSome_of_eq_some (value_of_toLower (by omega) low).1

theorem decodeChars_iff : decodeChars? cs = some bytes ↔ ∃ n, Spaced cs bytes n :=
  ⟨spaced_of_decodeChars, fun ⟨_, spaced⟩ => spaced.read⟩

end Rehearsal.Hex
