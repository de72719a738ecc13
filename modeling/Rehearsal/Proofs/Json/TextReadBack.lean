import Mathlib.Tactic.SplitIfs
import Rehearsal.Bytes.Hex
import Rehearsal.Json.Writer
import Rehearsal.Proofs.Text.Whole

namespace Rehearsal

theorem Text.toList_hexPadded (width n : Nat) : (hexPadded width n).toList =
    List.replicate (width - (Nat.toDigits 16 n).length) '0' ++ Nat.toDigits 16 n := by
  have zeros (k : Nat) : ("".pushn '0' k).toList = List.replicate k '0' := by
    rw [String.pushn_eq_repeat_push]
    induction k with
    | zero => rfl
    | succ k ih => rw [Nat.repeat, String.toList_push, ih, List.replicate_succ']
  rw [hexPadded, String.toList_append, zeros, String.toList_ofList, String.length_ofList]

theorem Text.hexPadded_succ {width : Nat} (wide : 0 < width) (n : Nat) :
    (hexPadded (width + 1) n).toList = (hexPadded width (n / 16)).toList ++ [(n % 16).digitChar] := by
  obtain ⟨width, rfl⟩ := Nat.exists_eq_succ_of_ne_zero (Nat.ne_of_gt wide)
  simp only [toList_hexPadded]
  rcases Nat.lt_or_ge n 16 with small | large
  · rw [Nat.div_eq_of_lt small, Nat.mod_eq_of_lt small, Nat.toDigits_of_lt_base small,
      Nat.toDigits_of_lt_base (by decide)]
    simp only [List.length_singleton, Nat.succ_sub_one, Nat.succ_eq_add_one, List.replicate_succ',
      List.append_assoc]
    rfl
  · rw [Nat.toDigits_of_base_le (by decide) large, List.length_append, List.length_singleton,
      Nat.add_sub_add_right, List.append_assoc]

namespace Json

def Ascii (c : Char) : Prop := ' ' ≤ c ∧ c ≤ '~'

instance : DecidablePred Ascii := fun _ => inferInstanceAs (Decidable (_ ∧ _))

section Point

theorem escapePoint_digits {n : Nat} (small : n < 0x10000) :
    escapePoint n = ['\\', 'u', (n / 0x1000).digitChar, (n / 0x100 % 16).digitChar,
      (n / 0x10 % 16).digitChar, (n % 16).digitChar] := by
  have first : (Text.hexPadded 1 (n / 16 / 16 / 16)).toList = [(n / 0x1000).digitChar] := by
    rw [Text.toList_hexPadded, Nat.toDigits_of_lt_base (by omega), Nat.div_div_eq_div_mul,
      Nat.div_div_eq_div_mul]
    rfl
  rw [escapePoint, Text.hexPadded_succ (by decide), Text.hexPadded_succ (by decide),
    Text.hexPadded_succ (by decide), first, Nat.div_div_eq_div_mul]
  rfl

theorem hexValue_digitChar : ∀ n < 16, hexValue? n.digitChar = some n := by decide

theorem point_digits {n : Nat} (small : n < 0x10000) :
    point? (n / 0x1000).digitChar (n / 0x100 % 16).digitChar (n / 0x10 % 16).digitChar
      (n % 16).digitChar = some n := by
  have whole : (((n / 0x1000) * 16 + n / 0x100 % 16) * 16 + n / 0x10 % 16) * 16 + n % 16 = n := by omega
  simp only [point?, hexValue_digitChar _ (show n / 0x1000 < 16 by omega),
    hexValue_digitChar _ (Nat.mod_lt _ (show 16 > 0 by decide)), bind, Option.bind, pure, whole]

theorem digitChar_ascii : ∀ n < 16, Ascii n.digitChar := by decide

theorem escapePoint_ascii {n : Nat} (small : n < 0x10000) : ∀ d ∈ escapePoint n, Ascii d := by
  have digit (m : Nat) : Ascii (m % 16).digitChar := digitChar_ascii _ (Nat.mod_lt m (by decide))
  rw [escapePoint_digits small]
  simp only [List.forall_mem_cons]
  exact ⟨by decide, by decide, digitChar_ascii _ (by omega), digit _, digit _, digit _, by simp⟩

end Point

inductive Form (c : Char) : List Char → Prop
  | plain (quote : c ≠ '"') (escape : c ≠ '\\') (printed : ' ' ≤ c) : Form c [c]
  | letter {x : Char} (printed : ' ' ≤ x) (short : escaped? x = some c) : Form c ['\\', x]
  | control (low : c.toNat < 0x20) : Form c (escapePoint c.toNat)

theorem writeChar_form (c : Char) : Form c (writeChar .wire c) := by
  have named {x : Char} (same : c.toNat = x.toNat) : c = x := Char.toNat_inj.mp same
  simp only [writeChar, Style.wire, Bool.false_and, Bool.false_eq_true, if_false, beq_iff_eq]
  split_ifs with quote escape feed back tab bell form low
  · subst quote
    exact .letter (by decide) rfl
  · subst escape
    exact .letter (by decide) rfl
  · subst feed
    exact .letter (by decide) rfl
  · subst back
    exact .letter (by decide) rfl
  · subst tab
    exact .letter (by decide) rfl
  · cases named (x := '\x08') bell
    exact .letter (by decide) rfl
  · cases named (x := '\x0c') form
    exact .letter (by decide) rfl
  · exact .control low
  · refine .plain quote escape ?_
    rw [Char.le_def, UInt32.le_iff_toNat_le]
    show 0x20 ≤ c.toNat
    omega

section Text

variable {start rest left : List Char} {points : List Nat}

theorem readPoints_plain {c : Char} (quote : c ≠ '"') (escape : c ≠ '\\') (printed : ' ' ≤ c)
    (read : readPoints front start rest = .ok (points, left)) :
    readPoints front start (c :: rest) = .ok (c.toNat :: points, left) := by
  have allowed : ¬ c < ' ' := Char.not_lt.mpr printed
  rw [readPoints]
  · rw [if_neg allowed, read]
    rfl
  · exact quote
  · rintro rfl
    exact absurd rfl escape
  · rintro _ rfl
    exact absurd rfl escape
  · rintro _ _ rfl
    exact absurd rfl escape

theorem readPoints_escaped {c x : Char} (short : escaped? c = some x)
    (read : readPoints front start rest = .ok (points, left)) :
    readPoints front start ('\\' :: c :: rest) = .ok (x.toNat :: points, left) := by
  have letter : c ≠ 'u' := by
    rintro rfl
    cases short
  rw [readPoints]
  · simp only [short, read]
  · exact letter

theorem readPoints_point {n : Nat} (small : n < 0x10000)
    (alone : isHighSurrogate n = true → secondHalf rest = .ok none) (more : rest ≠ [])
    (read : readPoints front start rest = .ok (points, left)) :
    readPoints front start (escapePoint n ++ rest) = .ok (n :: points, left) := by
  obtain ⟨c, rest, rfl⟩ := List.exists_cons_of_ne_nil more
  rw [escapePoint_digits small]
  simp only [List.cons_append, List.nil_append]
  rw [readPoints]
  by_cases high : isHighSurrogate n = true
  · simp only [readEscape, point_digits small, high, alone high, ↓reduceIte, List.drop_succ_cons,
      List.drop_zero, read]
  · simp only [readEscape, point_digits small, high, Bool.false_eq_true, ↓reduceIte,
      List.drop_succ_cons, List.drop_zero, read]

/-- The two halves of a surrogate pair are read as one number. -/
theorem readPoints_pair {high low : Nat} (first : isHighSurrogate high = true)
    (second : isLowSurrogate low = true) (more : rest ≠ [])
    (read : readPoints front start rest = .ok (points, left)) :
    readPoints front start (escapePoint high ++ escapePoint low ++ rest) =
      .ok (joinSurrogates high low :: points, left) := by
  obtain ⟨c, rest, rfl⟩ := List.exists_cons_of_ne_nil more
  have high_small : high < 0x10000 := by
    simp only [isHighSurrogate, Bool.and_eq_true, decide_eq_true_eq] at first
    omega
  have low_small : low < 0x10000 := by
    simp only [isLowSurrogate, Bool.and_eq_true, decide_eq_true_eq] at second
    omega
  rw [escapePoint_digits high_small, escapePoint_digits low_small]
  simp only [List.cons_append, List.nil_append]
  rw [readPoints]
  simp only [readEscape, secondHalf, point_digits high_small, point_digits low_small, first, second,
    ↓reduceIte, List.drop_succ_cons, List.drop_zero, read]

theorem readPoints_wire (c : Char) (more : rest ≠ [])
    (read : readPoints front start rest = .ok (points, left)) :
    readPoints front start (writeChar .wire c ++ rest) = .ok (c.toNat :: points, left) := by
  have form := writeChar_form c
  generalize writeChar .wire c = written at form ⊢
  cases form with
  | plain quote escape printed => exact readPoints_plain quote escape printed read
  | letter _ short => exact readPoints_escaped short read
  | control low =>
    refine readPoints_point (by omega) (fun high => ?_) more read
    simp only [isHighSurrogate, Bool.and_eq_true, decide_eq_true_eq] at high
    omega

end Text

section Styles

variable {style : Style} {c : Char}

theorem writeChar_plain (plain : style.ascii = false ∨ c.toNat < 0x7F) :
    writeChar style c = writeChar .wire c := by
  have kept : (style.ascii && decide (0x7F ≤ c.toNat)) = false := by
    rcases plain with any | low
    · rw [any, Bool.false_and]
    · rw [decide_eq_false (by omega), Bool.and_false]
  simp only [writeChar, kept, Style.wire, Bool.false_and]

theorem writeChar_escaped (ascii : style.ascii = true) (high : 0x7F ≤ c.toNat) :
    writeChar style c =
      if c.toNat < 0x10000 then escapePoint c.toNat
      else escapePoint (0xD800 + (c.toNat - 0x10000) / 0x400) ++
        escapePoint (0xDC00 + (c.toNat - 0x10000) % 0x400) := by
  have apart {x : Char} (low : x.toNat < 0x7F) : (c == x) = false := by
    rw [beq_eq_false_iff_ne]
    rintro rfl
    omega
  have other {n : Nat} (low : n < 0x7F) : (c.toNat == n) = false := by
    rw [beq_eq_false_iff_ne]
    omega
  have above : ¬ c.toNat < 0x20 := by omega
  simp only [writeChar, apart (x := '"') (by decide), apart (x := '\\') (by decide),
    apart (x := '\n') (by decide), apart (x := '\r') (by decide), apart (x := '\t') (by decide),
    other (n := 0x08) (by decide), other (n := 0x0C) (by decide), above, ascii, high, decide_true,
    Bool.and_self, Bool.false_eq_true, ↓reduceIte]

theorem code_range (c : Char) : c.toNat < 0xD800 ∨ 0xDFFF < c.toNat ∧ c.toNat < 0x110000 := c.valid

theorem surrogates {n : Nat} (large : 0x10000 ≤ n) (bound : n < 0x110000) :
    isHighSurrogate (0xD800 + (n - 0x10000) / 0x400) = true ∧
    isLowSurrogate (0xDC00 + (n - 0x10000) % 0x400) = true ∧
    joinSurrogates (0xD800 + (n - 0x10000) / 0x400) (0xDC00 + (n - 0x10000) % 0x400) = n := by
  obtain ⟨k, rfl⟩ := Nat.exists_eq_add_of_le large
  rw [Nat.add_sub_cancel_left]
  refine ⟨?_, ?_, ?_⟩
  · simp only [isHighSurrogate, Bool.and_eq_true, decide_eq_true_eq]
    omega
  · simp only [isLowSurrogate, Bool.and_eq_true, decide_eq_true_eq]
    omega
  · have whole : k / 0x400 * 0x400 + k % 0x400 = k := Nat.div_add_mod' k 0x400
    unfold joinSurrogates
    omega

variable {start rest left : List Char} {points : List Nat}

theorem readPoints_writeChar (style : Style) (c : Char) (more : rest ≠ [])
    (read : readPoints front start rest = .ok (points, left)) :
    readPoints front start (writeChar style c ++ rest) = .ok (c.toNat :: points, left) := by
  by_cases plain : style.ascii = false ∨ c.toNat < 0x7F
  · rw [writeChar_plain plain]
    exact readPoints_wire c more read
  · obtain ⟨ascii, high⟩ := not_or.mp plain
    rw [writeChar_escaped (Bool.of_not_eq_false ascii) (by omega)]
    split
    · rename_i small
      refine readPoints_point small (fun high => ?_) more read
      have range := code_range c
      simp only [isHighSurrogate, Bool.and_eq_true, decide_eq_true_eq] at high
      omega
    · rename_i large
      have range := code_range c
      obtain ⟨first, second, whole⟩ := surrogates (n := c.toNat) (by omega) (by omega)
      rw [readPoints_pair first second more read, whole]

theorem readPoints_text (s left : List Char) :
    readPoints front start (s.flatMap (writeChar style) ++ '"' :: left) = .ok (s.map Char.toNat, left) := by
  induction s with
  | nil => simp [readPoints]
  | cons c s ih =>
    rw [List.flatMap_cons, List.append_assoc]
    exact readPoints_writeChar style c (by simp) ih

end Styles

theorem ofPoints_points (t : Text) : Datum.ofPoints t.points = .ofText t := by
  rw [Datum.ofPoints, Text.ofPoints_points]

theorem ofPoints_text (s : String) : Datum.ofPoints (s.toList.map Char.toNat) = .text s :=
  ofPoints_points s

theorem escaped_ascii {x c : Char} (short : escaped? x = some c) : Ascii x := by
  unfold escaped? at short
  split at short
  case h_9 => cases short
  all_goals decide

theorem writeChar_printed (c : Char) : ∀ d ∈ writeChar .wire c, ' ' ≤ d := by
  have backslash : ' ' ≤ '\\' := by decide
  have form := writeChar_form c
  generalize writeChar .wire c = written at form ⊢
  cases form with
  | plain _ _ printed => simpa using printed
  | letter printed _ => exact List.forall_mem_cons.mpr ⟨backslash, by simpa using printed⟩
  | control low => exact fun d member => (escapePoint_ascii (by omega) d member).1

theorem writeText_printed (s : String) : ∀ c ∈ writeText .wire s, ' ' ≤ c := by
  have quote : ' ' ≤ '"' := by decide
  intro c member
  simp only [writeText, List.cons_append, List.mem_cons, List.mem_append, List.mem_flatMap,
    List.not_mem_nil, or_false] at member
  rcases member with rfl | ⟨d, _, inside⟩ | rfl
  · exact quote
  · exact writeChar_printed d c inside
  · exact quote

theorem writeChar_ascii {style : Style} (ascii : style.ascii = true) (c : Char) :
    ∀ d ∈ writeChar style c, Ascii d := by
  by_cases low : c.toNat < 0x7F
  · rw [writeChar_plain (.inr low)]
    have form := writeChar_form c
    generalize writeChar .wire c = written at form ⊢
    cases form with
    | plain _ _ printed =>
      have most : c ≤ '~' := by
        rw [Char.le_def, UInt32.le_iff_toNat_le]
        show c.toNat ≤ 0x7E
        omega
      exact List.forall_mem_singleton.mpr ⟨printed, most⟩
    | letter _ short => exact List.forall_mem_cons.mpr ⟨by decide, by simpa using escaped_ascii short⟩
    | control low => exact escapePoint_ascii (by omega)
  · rw [writeChar_escaped ascii (by omega)]
    split
    · rename_i small
      exact escapePoint_ascii small
    · intro d member
      have range := code_range c
      rcases List.mem_append.mp member with first | second
      · exact escapePoint_ascii (by omega) d first
      · exact escapePoint_ascii (by omega) d second

theorem writeText_ascii {style : Style} (ascii : style.ascii = true) (s : String) :
    ∀ c ∈ writeText style s, Ascii c := by
  intro c member
  simp only [writeText, List.cons_append, List.mem_cons, List.mem_append, List.mem_flatMap,
    List.not_mem_nil, or_false] at member
  rcases member with rfl | ⟨d, _, inside⟩ | rfl
  · decide
  · exact writeChar_ascii ascii d c inside
  · decide

end Json

end Rehearsal
