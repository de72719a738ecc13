import Mathlib.Data.List.Basic
import Mathlib.Data.List.Induction
import Rehearsal.Proofs.Bytes.TextRoundTrip
import Rehearsal.Reference

namespace Rehearsal

namespace Decimal

theorem isDigit_of_isDigit {c : Char} (digit : c.isDigit = true) : isDigit c = true := by
  simpa [isDigit, Char.isDigit, Char.le_def, UInt32.le_iff_toNat_le] using digit

theorem value_eq_ofDigitChars {digits : List Char} (all : ∀ d ∈ digits, isDigit d = true) :
    value 10 digits = Nat.ofDigitChars 10 digits 0 := by
  refine List.foldl_ext _ _ 0 fun n d member => ?_
  simp only [all d member, ↓reduceIte]
  omega

theorem isDigit_of_mem_toDigits (n : Nat) : ∀ d ∈ Nat.toDigits 10 n, isDigit d = true :=
  fun _ member => isDigit_of_isDigit (Nat.isDigit_of_mem_toDigits (by decide) (by decide) member)

theorem value_toDigits (n : Nat) : value 10 (Nat.toDigits 10 n) = n := by
  rw [value_eq_ofDigitChars (isDigit_of_mem_toDigits n), Nat.ofDigitChars_ten_toDigits]

abbrev digitValue (c : Char) : Nat :=
  if isDigit c then c.toNat - '0'.toNat
  else if 'a' ≤ c then c.toNat - 'a'.toNat + 10
  else c.toNat - 'A'.toNat + 10

theorem value_lt {base : Nat} {digits : List Char} (small : ∀ c ∈ digits, digitValue c < base) :
    value base digits < base ^ digits.length := by
  induction digits using List.reverseRecOn with
  | nil => exact Nat.one_pos
  | append_singleton digits c ih =>
    have before := ih fun d member => small d (List.mem_append_left _ member)
    have last := small c (List.mem_append_right _ List.mem_cons_self)
    calc value base (digits ++ [c])
        = value base digits * base + digitValue c := by
          simp only [value, List.foldl_append, List.foldl_cons, List.foldl_nil]
      _ < (value base digits + 1) * base := by rw [Nat.succ_mul]; omega
      _ ≤ base ^ (digits ++ [c]).length := by
          rw [List.length_append, List.length_singleton, Nat.pow_succ]
          exact Nat.mul_le_mul_right _ before

end Decimal

namespace Reference

/-- Text that is a number: an optional sign and digits. -/
structure Spells (text : List Char) (negative : Bool) (digits : List Char) : Prop where
  signed : text = digits ∧ negative = false ∨ text = '+' :: digits ∧ negative = false ∨
    text = '-' :: digits ∧ negative = true
  some : digits ≠ []
  all : ∀ d ∈ digits, Decimal.isDigit d = true

def written (text : List Char) : Bytes := Utf8.encode (opening ++ String.ofList text)

def number (negative : Bool) (digits : List Char) : Int :=
  if negative then -(Decimal.value 10 digits : Int) else Decimal.value 10 digits

theorem isDigit_bounds {d : Char} (digit : Decimal.isDigit d = true) : 48 ≤ d.toNat ∧ d.toNat ≤ 57 := by
  simpa [Decimal.isDigit, Char.le_def, UInt32.le_iff_toNat_le] using digit

theorem Spells.plain {text : List Char} {negative : Bool} {digits : List Char}
    (spells : Spells text negative digits) : ∀ c ∈ text, Text.isPlain c = true := by
  have plain : ∀ d ∈ digits, Text.isPlain d = true := by
    intro d member
    have bounds := isDigit_bounds (spells.all d member)
    have notEscape : d ≠ '\\' := by
      rintro rfl
      revert bounds
      decide
    simp only [Text.isPlain, Bool.and_eq_true, decide_eq_true_eq, bne_iff_ne]
    exact ⟨⟨by omega, by omega⟩, notEscape⟩
  have plus : Text.isPlain '+' = true := by decide
  have minus : Text.isPlain '-' = true := by decide
  rcases spells.signed with ⟨rfl, _⟩ | ⟨rfl, _⟩ | ⟨rfl, _⟩
  · exact plain
  · exact List.forall_mem_cons.mpr ⟨plus, plain⟩
  · exact List.forall_mem_cons.mpr ⟨minus, plain⟩

theorem readIndex_spelled {text : List Char} {negative : Bool} {digits : List Char}
    (spells : Spells text negative digits) :
    readIndex text =
      if Decimal.maxDigits < digits.length then .oversized digits.length
      else .index (number negative digits) := by
  have nonempty : digits.isEmpty = false := by simpa using spells.some
  have digital : digits.all Decimal.isDigit = true := List.all_eq_true.mpr spells.all
  rcases spells.signed with ⟨rfl, rfl⟩ | ⟨rfl, rfl⟩ | ⟨rfl, rfl⟩
  · unfold readIndex
    split
    rename_i negative digits matched
    split at matched
    · simp [Decimal.isDigit] at digital
    · simp [Decimal.isDigit] at digital
    · cases matched
      simp [nonempty, digital, number]
  · simp [readIndex, nonempty, digital, number]
  · simp [readIndex, nonempty, digital, number]

theorem readIndex_cases (text : List Char) :
    readIndex text = .malformed ∨ ∃ negative digits, Spells text negative digits := by
  unfold readIndex
  split
  rename_i negative digits matched
  cases rejected : digits.isEmpty || !digits.all Decimal.isDigit with
  | true => exact .inl rfl
  | false =>
    right
    simp only [Bool.or_eq_false_iff, Bool.not_eq_false', List.all_eq_true] at rejected
    refine ⟨negative, digits, ?_, by simpa using rejected.1, rejected.2⟩
    split at matched <;> cases matched
    · exact .inr (.inr ⟨rfl, rfl⟩)
    · exact .inr (.inl ⟨rfl, rfl⟩)
    · exact .inl ⟨rfl, rfl⟩

theorem written_eq (text : List Char) :
    written text = Utf8.encode opening ++ Utf8.encode (String.ofList text) := by
  simp only [written, Utf8.encode, String.toList_append, List.flatMap_append]

theorem isClaimed_iff {value : Bytes} :
    isClaimed value = true ↔ ∃ tail, value = Utf8.encode opening ++ tail := by
  rw [isClaimed, List.isPrefixOf_iff_prefix]
  exact ⟨fun ⟨tail, same⟩ => ⟨tail, same.symm⟩, fun ⟨tail, same⟩ => ⟨tail, same.symm⟩⟩

theorem isClaimed_encode {t : String} :
    isClaimed (Utf8.encode t) = true ↔ opening.toList <+: t.toList := by
  rw [isClaimed, List.isPrefixOf_iff_prefix]
  constructor
  · exact Utf8.prefix_of_encode
  · rintro ⟨rest, same⟩
    rw [Utf8.encode, Utf8.encode, ← same, List.flatMap_append]
    exact List.prefix_append _ _

theorem decodeEscaped_opening (tail : Bytes) :
    Text.decodeEscaped (Utf8.encode opening ++ tail) = opening.toList ++ Text.decodeEscaped tail := by
  have plain : opening.toList.all Text.isPlain = true := by decide
  have ascii : ∀ c ∈ opening.toList, c.toNat < 0x80 := fun c member =>
    (Text.isPlain_bounds (List.all_eq_true.mp plain c member)).2
  exact Text.decodeEscaped_encode ascii tail

theorem read_opening (tail : Bytes) :
    read (Utf8.encode opening ++ tail) = readIndex (Text.decodeEscaped tail) := by
  rw [read, decodeEscaped_opening]
  rfl

theorem read_cases {value : Bytes} (claimed : isClaimed value = true) :
    read value = .malformed ∨
      ∃ text negative digits, Spells text negative digits ∧ value = written text := by
  obtain ⟨tail, rfl⟩ := isClaimed_iff.mp claimed
  rw [read_opening]
  rcases readIndex_cases (Text.decodeEscaped tail) with malformed | ⟨negative, digits, spells⟩
  · exact .inl malformed
  · right
    have bytes := Text.decodeEscaped_eq_plain spells.plain rfl
    exact ⟨_, negative, digits, spells, by rw [written_eq, ← bytes]⟩

section Spelled

variable {text : List Char} {negative : Bool} {digits : List Char}

theorem isClaimed_written (text : List Char) : isClaimed (written text) = true :=
  isClaimed_iff.mpr ⟨_, written_eq text⟩

theorem decodeEscaped_spelled (spells : Spells text negative digits) :
    Text.decodeEscaped (Utf8.encode (String.ofList text)) = text := by
  have ascii : ∀ c ∈ text, c.toNat < 0x80 := fun c member =>
    (Text.isPlain_bounds (spells.plain c member)).2
  have decoded := Text.decodeEscaped_encode ascii []
  simpa [Text.decodeEscaped] using decoded

theorem read_written (spells : Spells text negative digits) :
    read (written text) =
      if Decimal.maxDigits < digits.length then .oversized digits.length
      else .index (number negative digits) := by
  rw [written_eq, read_opening, decodeEscaped_spelled spells, readIndex_spelled spells]

theorem shown_written (spells : Spells text negative digits) :
    shown (written text) = opening ++ String.ofList text := by
  rw [shown, written_eq, decodeEscaped_opening, decodeEscaped_spelled spells, String.ofList_append,
    String.ofList_toList]

end Spelled

/-- What claims to be a reference has too many digits just if it is written as a number of that many
digits. -/
theorem read_oversized_iff {value : Bytes} {n : Nat} :
    isClaimed value = true ∧ read value = .oversized n ↔
      ∃ text negative digits, Spells text negative digits ∧ value = written text ∧
        Decimal.maxDigits < digits.length ∧ n = digits.length := by
  constructor
  · rintro ⟨claimed, oversized⟩
    rcases read_cases claimed with malformed | ⟨text, negative, digits, spells, rfl⟩
    · rw [malformed] at oversized
      cases oversized
    · rw [read_written spells] at oversized
      split at oversized
      · rename_i long
        cases oversized
        exact ⟨text, negative, digits, spells, rfl, long, rfl⟩
      · cases oversized
  · rintro ⟨text, negative, digits, spells, rfl, long, rfl⟩
    refine ⟨isClaimed_written text, ?_⟩
    rw [read_written spells]
    simp only [long, ↓reduceIte]

section Printed

theorem spells_toDigits (n : Nat) : Spells (Nat.toDigits 10 n) false (Nat.toDigits 10 n) :=
  ⟨.inl ⟨rfl, rfl⟩, Nat.toDigits_ne_nil, Decimal.isDigit_of_mem_toDigits n⟩

theorem text_natCast (n : Nat) : text ⟨n⟩ = s!"step_{n}" := rfl

theorem encode_text (n : Nat) : Utf8.encode (text ⟨n⟩) = written (Nat.toDigits 10 n) := rfl

theorem shown_text (n : Nat) : shown (Utf8.encode (text ⟨n⟩)) = text ⟨n⟩ :=
  shown_written (spells_toDigits n)

theorem read_text {n : Nat} (short : n < 10 ^ Decimal.maxDigits) :
    read (Utf8.encode (text ⟨n⟩)) = .index n := by
  have fits : (Nat.toDigits 10 n).length ≤ Decimal.maxDigits :=
    (Nat.length_toDigits_le_iff (by decide) (by decide)).mpr short
  rw [encode_text, read_written (spells_toDigits n), if_neg (by omega)]
  simp [number, Decimal.value_toDigits]

end Printed

end Reference

end Rehearsal
