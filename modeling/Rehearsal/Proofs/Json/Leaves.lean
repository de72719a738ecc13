import Mathlib.Data.List.TakeWhile
import Rehearsal.Proofs.Json.ReadBack

namespace Rehearsal.Json

variable {look : List Char → Nat} {start s rest left : List Char} {negative : Bool} {d : Datum} {n : Nat}

theorem skipBlanks_length_le (s : List Char) : (skipBlanks s).length ≤ s.length :=
  (List.dropWhile_suffix isBlank).length_le

theorem readPoints_error {stop : Stop} (stops : readPoints look start s = .error stop) :
    ∃ f left, stop = .fault f left := by
  fun_induction readPoints look start s generalizing stop with
  | case1 | case3 | case4 | case7 | case10 =>
    cases stops
    exact ⟨_, _, rfl⟩
  | case2 | case5 | case8 | case11 => cases stops
  | case6 _ _ _ _ _ found ih | case9 _ _ _ _ _ _ found ih | case12 _ _ _ _ _ _ _ _ found ih =>
    cases stops
    exact ih found

theorem readPoints_length_le {points : List Nat} (read : readPoints look start s = .ok (points, left)) :
    left.length ≤ s.length := by
  fun_induction readPoints look start s generalizing points left with
  | case1 | case3 | case4 | case7 | case10 | case6 | case9 | case12 => cases read
  | case2 =>
    cases read
    simp
  | case5 _ _ _ _ _ _ found ih | case8 _ _ _ _ _ _ _ found ih | case11 _ _ _ _ _ _ _ _ _ found ih =>
    cases read
    have shorter := ih found
    simp only [List.length_drop, List.length_cons] at shorter ⊢
    omega

theorem takeDigits_append (s : List Char) : (takeDigits s).1 ++ (takeDigits s).2 = s :=
  List.takeWhile_append_dropWhile

theorem takeDigits_all (s : List Char) : ∀ c ∈ (takeDigits s).1, Decimal.isDigit c = true :=
  List.all_eq_true.mp List.all_takeWhile

theorem takeDigits_behind (s : List Char) : takeDigits (takeDigits s).2 = ([], (takeDigits s).2) := by
  have none : (takeDigits s).2.takeWhile Decimal.isDigit = [] :=
    List.takeWhile_eq_nil_iff.mpr fun some => List.dropWhile_get_zero_not _ _ some
  have all := List.takeWhile_append_dropWhile (p := Decimal.isDigit) (l := (takeDigits s).2)
  rw [none, List.nil_append] at all
  rw [takeDigits, none, all]

theorem takeWhole_some {whole : List Char} (taken : takeWhole? s = some (whole, rest)) :
    s = whole ++ rest ∧ (∀ c ∈ whole, Decimal.isDigit c = true) ∧
      (whole = ['0'] ∨ whole.head? ≠ some '0' ∧ takeDigits rest = ([], rest)) := by
  unfold takeWhole? at taken
  split at taken
  · cases taken
    exact ⟨rfl, by simp; decide, .inl rfl⟩
  · rename_i noZero
    have split := takeDigits_append s
    have all := takeDigits_all s
    have behind := takeDigits_behind s
    obtain same : takeDigits s = (whole, rest) := by
      split at taken <;> simp_all
    rw [same] at split all behind
    refine ⟨split.symm, all, .inr ⟨?_, behind⟩⟩
    intro zero
    obtain ⟨more, rfl⟩ := List.head?_eq_some_iff.mp zero
    exact noZero (more ++ rest) split.symm

theorem takeWhole_append {digits : List Char} (all : ∀ c ∈ digits, Decimal.isDigit c = true)
    (lead : digits.head? ≠ some '0') (some : digits ≠ []) (behind : takeDigits rest = ([], rest)) :
    takeWhole? (digits ++ rest) = Option.some (digits, rest) := by
  have taken : takeDigits (digits ++ rest) = (digits, rest) := by
    obtain ⟨none, whole⟩ := Prod.mk.inj behind
    rw [takeDigits, List.takeWhile_append_of_pos all, List.dropWhile_append_of_pos all, none, whole,
      List.append_nil]
  obtain ⟨d, more, rfl⟩ := List.exists_cons_of_ne_nil some
  rw [List.cons_append] at taken ⊢
  rw [takeWhole?, taken]
  intro _ same
  exact lead (congrArg Option.some (List.head_eq_of_cons_eq same))

theorem takeFraction_nil (none : (takeFraction s).1 = []) : takeFraction s = ([], s) := by
  unfold takeFraction at none ⊢
  split
  · rename_i rest
    simp only at none ⊢
    split
    · rfl
    · rename_i some
      split at none
      · rename_i found
        exact absurd found (some _)
      · exact (some (takeDigits rest).2 (Prod.ext none rfl)).elim
  · rfl

theorem takeFraction_length_le (s : List Char) : (takeFraction s).2.length ≤ s.length := by
  unfold takeFraction
  split
  · split
    · exact Nat.le_refl _
    · rename_i rest _ _
      exact Nat.le_succ_of_le (List.dropWhile_suffix _).length_le
  · exact Nat.le_refl _

theorem takeExponent_length_le {e : Int} (taken : takeExponent? s = some (e, left)) :
    left.length ≤ s.length := by
  unfold takeExponent? at taken
  split at taken
  · split at taken
    · simp only at taken
      split at taken
      · cases taken
      · rename_i found
        cases taken
        have behind := congrArg Prod.snd found
        change _ = left at behind
        rw [← behind]
        refine Nat.le_succ_of_le ((List.dropWhile_suffix _).length_le.trans ?_)
        split <;> simp
    · cases taken
  · cases taken

theorem isTooLong_value {digits : List Char} (all : ∀ c ∈ digits, Decimal.isDigit c = true)
    (fits : digits.length ≤ Decimal.maxDigits) :
    (Datum.int (if negative then -(Decimal.value 10 digits : Int) else Decimal.value 10 digits)).isTooLong =
      false := by
  have less : Decimal.value 10 digits < 10 ^ digits.length := Decimal.value_lt fun c member => by
    have bounds := Reference.isDigit_bounds (all c member)
    have zero : '0'.toNat = 48 := rfl
    simp only [Decimal.digitValue, all c member, ↓reduceIte]
    omega
  have small : Decimal.value 10 digits < 10 ^ Decimal.maxDigits :=
    less.trans_le (Nat.pow_le_pow_right (by decide) fits)
  have size : (if negative then -(Decimal.value 10 digits : Int) else Decimal.value 10 digits).natAbs =
      Decimal.value 10 digits := by
    split <;> simp
  rw [Datum.isTooLong, Decimal.isTooLong, size, decide_eq_false_iff_not, Nat.not_le]
  exact small

/-- A number that is read is no longer than the text and has no more digits than a numeral may have. -/
theorem readNumber_ok (read : readNumber start negative s = .ok (d, left)) :
    left.length ≤ s.length ∧ d.isTooLong = false := by
  unfold readNumber at read
  split at read
  · cases read
  · rename_i whole rest taken
    obtain ⟨split, all, _⟩ := takeWhole_some taken
    have shorter : (takeFraction rest).2.length ≤ s.length := by
      rw [split, List.length_append]
      exact (takeFraction_length_le rest).trans (Nat.le_add_left _ _)
    simp only at read
    split at read
    · split at read
      · cases read
      · rename_i fits
        cases read
        exact ⟨shorter, isTooLong_value all (by omega)⟩
    · cases read
      refine ⟨?_, rfl⟩
      cases exponent : takeExponent? (takeFraction rest).2 with
      | none => exact shorter
      | some parts => exact (takeExponent_length_le exponent).trans shorter

/-- What stands at the front of a text, if that is a whole number of so many digits, more than a numeral may
have. -/
inductive LongNumeral : List Char → Nat → Prop
  | intro {sign digits rest : List Char} (signed : sign = [] ∨ sign = ['-'])
      (all : ∀ c ∈ digits, Decimal.isDigit c = true) (lead : digits.head? ≠ some '0')
      (long : Decimal.maxDigits < digits.length) (whole : takeDigits rest = ([], rest))
      (noFraction : takeFraction rest = ([], rest)) (noExponent : takeExponent? rest = none) :
      LongNumeral (sign ++ (digits ++ rest)) digits.length

theorem readNumber_digits :
    readNumber start negative s = .error (.digits n) ↔
      ∃ digits rest, s = digits ++ rest ∧ (∀ c ∈ digits, Decimal.isDigit c = true) ∧
        digits.head? ≠ some '0' ∧ Decimal.maxDigits < digits.length ∧ takeDigits rest = ([], rest) ∧
        takeFraction rest = ([], rest) ∧ takeExponent? rest = none ∧ n = digits.length := by
  constructor
  · intro stops
    unfold readNumber at stops
    split at stops
    · cases stops
    · rename_i whole rest taken
      obtain ⟨split, all, zero | ⟨lead, behind⟩⟩ := takeWhole_some taken
      · simp only [zero] at stops
        split at stops
        · cases stops
        · cases stops
      · simp only at stops
        split at stops
        · rename_i noFraction noExponent
          have fraction := takeFraction_nil noFraction
          rw [fraction] at noExponent
          split at stops
          · rename_i long
            cases stops
            exact ⟨whole, rest, split, all, lead, long, behind, fraction, noExponent, rfl⟩
          · cases stops
        · cases stops
  · rintro ⟨digits, rest, rfl, all, lead, long, behind, fraction, exponent, rfl⟩
    have whole := takeWhole_append all lead (List.length_pos_iff.mp (Nat.zero_lt_of_lt long)) behind
    simp only [readNumber, whole, fraction, exponent, long, ↓reduceIte]

theorem afterWord_length_le {word : List Char} (found : afterWord? word s = some left) :
    left.length ≤ s.length := by
  fun_induction afterWord? word s with
  | case1 =>
    cases found
    exact Nat.le_refl _
  | case2 _ _ _ _ _ ih => exact Nat.le_succ_of_le (ih found)
  | case3 | case4 => cases found

theorem readAtom_cases (s : List Char) :
    (∃ d left, readAtom s = .ok (d, left) ∧ left.length ≤ s.length ∧ d.isTooLong = false) ∨
      (∃ rest, s = '-' :: rest ∧ readAtom s = readNumber s true rest) ∨
      readAtom s = readNumber s false s := by
  unfold readAtom
  simp only
  split
  · rename_i result found
    left
    refine ⟨result.1, result.2, rfl, ?_⟩
    simp only [Option.orElse_eq_orElse, Option.orElse_eq_or, Option.or_eq_some_iff,
      Option.map_eq_some_iff] at found
    rcases found with ⟨_, word, rfl⟩ | ⟨_, ⟨_, word, rfl⟩ | ⟨_, ⟨_, word, rfl⟩ | ⟨_, ⟨_, word, rfl⟩ |
      ⟨_, ⟨_, word, rfl⟩ | ⟨_, ⟨_, word, rfl⟩⟩⟩⟩⟩⟩
    all_goals exact ⟨afterWord_length_le word, rfl⟩
  · split
    · exact .inr (.inl ⟨_, rfl, rfl⟩)
    · exact .inr (.inr rfl)

theorem readAtom_digits : readAtom s = .error (.digits n) ↔ LongNumeral s n := by
  constructor
  · intro stops
    rcases readAtom_cases s with ⟨_, _, word, _⟩ | ⟨rest, rfl, number⟩ | number
    · cases word.symm.trans stops
    · obtain ⟨digits, rest, rfl, all, lead, long, behind, fraction, exponent, rfl⟩ :=
        readNumber_digits.mp (number.symm.trans stops)
      exact .intro (.inr rfl) all lead long behind fraction exponent
    · obtain ⟨digits, rest, rfl, all, lead, long, behind, fraction, exponent, rfl⟩ :=
        readNumber_digits.mp (number.symm.trans stops)
      exact .intro (.inl rfl) all lead long behind fraction exponent
  · rintro ⟨signed, all, lead, long, behind, fraction, exponent⟩
    rename_i sign digits rest
    obtain ⟨d, more, rfl⟩ := List.exists_cons_of_ne_nil (List.length_pos_iff.mp (Nat.zero_lt_of_lt long))
    have digit := all d List.mem_cons_self
    have number (start : List Char) (negative : Bool) :
        readNumber start negative (d :: more ++ rest) = .error (.digits (d :: more).length) :=
      readNumber_digits.mpr ⟨_, rest, rfl, all, lead, long, behind, fraction, exponent, rfl⟩
    rcases signed with rfl | rfl
    · exact (readAtom_digit digit (more ++ rest)).trans (number _ false)
    · exact (readAtom_minus digit (more ++ rest)).trans (number _ true)

theorem readAtom_ok (read : readAtom s = .ok (d, left)) :
    left.length ≤ s.length ∧ d.isTooLong = false := by
  rcases readAtom_cases s with ⟨_, _, word, bounds⟩ | ⟨rest, rfl, number⟩ | number
  · cases word.symm.trans read
    exact bounds
  · obtain ⟨shorter, shown⟩ := readNumber_ok (number.symm.trans read)
    exact ⟨Nat.le_succ_of_le shorter, shown⟩
  · exact readNumber_ok (number.symm.trans read)

end Rehearsal.Json
