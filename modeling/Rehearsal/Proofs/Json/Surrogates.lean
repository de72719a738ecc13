import Mathlib.Data.List.Chain
import Rehearsal.Proofs.Json.TextReadBack

namespace Rehearsal

namespace Text

theorem toNat_ofNat {n : Nat} (valid : n.isValidChar) : (Char.ofNat n).toNat = n := by
  rw [Char.ofNat, dif_pos valid]
  rfl

theorem points_ofPoints (points : List Nat) : (ofPoints points).points = points := by
  rw [ofPoints]
  split
  · rename_i valid
    rw [Text.points, String.toList_ofList, List.map_map]
    refine (List.map_congr_left fun n member => ?_).trans points.map_id
    exact toNat_ofNat (of_decide_eq_true (List.all_eq_true.mp valid n member))
  · rfl

theorem points_take (n : Nat) (t : Text) : (t.take n).points = t.points.take n := by
  cases t with
  | whole s => rw [take, points, String.toList_ofList, List.map_take, points]
  | torn => exact points_ofPoints _

def IsOfCodes (t : Text) : Prop := ∀ n ∈ t.points, n < 0x110000

theorem IsOfCodes.whole (s : String) : (Text.whole s).IsOfCodes := by
  intro n member
  obtain ⟨c, _, rfl⟩ := List.mem_map.mp member
  have range := Json.code_range c
  omega

theorem IsOfCodes.take {t : Text} (codes : t.IsOfCodes) (n : Nat) : (t.take n).IsOfCodes := by
  intro m member
  rw [points_take] at member
  exact codes m (List.mem_of_mem_take member)

/-- Code points, each first half of a surrogate pair joined to a second half right behind it. -/
def paired : List Nat → List Nat
  | high :: low :: rest =>
    if Json.isHighSurrogate high && Json.isLowSurrogate low then
      Json.joinSurrogates high low :: paired rest
    else high :: paired (low :: rest)
  | points => points

def HoldsNoPair (points : List Nat) : Prop :=
  points.IsChain fun high low => ¬(Json.isHighSurrogate high = true ∧ Json.isLowSurrogate low = true)

theorem paired_eq_self {points : List Nat} (none : HoldsNoPair points) : paired points = points := by
  induction points using paired.induct with
  | case1 high low rest pair =>
    rw [Bool.and_eq_true] at pair
    exact absurd pair (List.isChain_cons_cons.mp none).1
  | case2 high low rest pair ih =>
    rw [paired, if_neg pair, ih (List.isChain_cons_cons.mp none).2]
  | case3 points short =>
    rw [paired]
    exact short

theorem holdsNoPair_whole (s : String) : HoldsNoPair (whole s).points := by
  refine (List.pairwise_of_forall_mem_list fun high member _ _ => ?_).isChain
  obtain ⟨c, _, rfl⟩ := List.mem_map.mp member
  have range := Json.code_range c
  simp only [Json.isHighSurrogate, Bool.and_eq_true, decide_eq_true_eq]
  omega

end Text

def Datum.mated : Datum → Datum
  | unpaired points => ofPoints (Text.paired points)
  | d => d

theorem Datum.mated_ofText {t : Text} (none : Text.HoldsNoPair t.points) :
    (Datum.ofText t).mated = .ofText t := by
  cases t with
  | whole s => rfl
  | torn points isTorn =>
    have same : Text.paired points = points := Text.paired_eq_self none
    rw [ofText, mated, same, ofPoints, Text.ofPoints_torn isTorn]
    rfl

namespace Json

variable {style : Style} {start left rest : List Char} {n : Nat}

theorem code_cases (code : n < 0x110000) : n.isValidChar ∨ 0xD800 ≤ n ∧ n < 0xE000 := by
  simp only [Nat.isValidChar]
  omega

theorem secondHalf_number {a b c d : Char} (number : point? a b c d = some n) (e : Char) :
    secondHalf ('\\' :: 'u' :: a :: b :: c :: d :: e :: rest) =
      .ok (if isLowSurrogate n then some n else none) := by
  unfold secondHalf
  simp only [number]

theorem secondHalf_point (small : n < 0x10000) (other : isLowSurrogate n = false) (more : rest ≠ []) :
    secondHalf (escapePoint n ++ rest) = .ok none := by
  obtain ⟨c, rest, rfl⟩ := List.exists_cons_of_ne_nil more
  rw [escapePoint_digits small]
  simp only [List.cons_append, List.nil_append]
  rw [secondHalf_number (point_digits small), other]
  rfl

theorem secondHalf_other {c : Char} (plain : c ≠ '\\') (s : List Char) : secondHalf (c :: s) = .ok none := by
  unfold secondHalf
  split
  · rename_i same
    exact absurd (List.head_eq_of_cons_eq same) plain
  · rfl

theorem secondHalf_letter {x : Char} (other : x ≠ 'u') (s : List Char) :
    secondHalf ('\\' :: x :: s) = .ok none := by
  unfold secondHalf
  split
  · rename_i same
    exact absurd (List.head_eq_of_cons_eq (List.tail_eq_of_cons_eq same)) other
  · rfl

theorem secondHalf_char (style : Style) (c : Char) (more : rest ≠ []) :
    secondHalf (writeChar style c ++ rest) = .ok none := by
  have range := code_range c
  have other {m : Nat} (below : m < 0xDC00 ∨ 0xDFFF < m) : isLowSurrogate m = false := by
    simp only [isLowSurrogate, Bool.and_eq_false_iff, decide_eq_false_iff_not]
    omega
  by_cases plain : style.ascii = false ∨ c.toNat < 0x7F
  · rw [writeChar_plain plain]
    have form := writeChar_form c
    generalize writeChar .wire c = written at form ⊢
    cases form with
    | plain _ escape _ => exact secondHalf_other escape rest
    | letter _ short =>
      refine secondHalf_letter ?_ rest
      rintro rfl
      cases short
    | control low => exact secondHalf_point (by omega) (other (by omega)) more
  · obtain ⟨ascii, high⟩ := not_or.mp plain
    rw [writeChar_escaped (Bool.of_not_eq_false ascii) (by omega)]
    split
    · rename_i small
      exact secondHalf_point small (other (by omega)) more
    · rw [List.append_assoc]
      exact secondHalf_point (by omega) (other (by omega)) (List.append_ne_nil_of_right_ne_nil _ more)

theorem secondHalf_written (points : List Nat) (codes : ∀ n ∈ points, n < 0x110000)
    (other : ∀ n ∈ points.head?, isLowSurrogate n = false) :
    secondHalf (points.flatMap (writePoint style) ++ '"' :: left) = .ok none := by
  cases points with
  | nil => rfl
  | cons n points =>
    rw [List.flatMap_cons, List.append_assoc, writePoint]
    split
    · exact secondHalf_char style _ (by simp)
    · rename_i invalid
      have surrogate := (code_cases (codes n List.mem_cons_self)).resolve_left invalid
      exact secondHalf_point (by omega) (other n rfl) (by simp)

/-- A code point reads back from how it is written, unless it is the first half of a surrogate pair and the
second half is behind it. -/
theorem readPoints_writePoint {points : List Nat} (code : n < 0x110000)
    (alone : isHighSurrogate n = true → secondHalf rest = .ok none) (more : rest ≠ [])
    (read : readPoints front start rest = .ok (points, left)) :
    readPoints front start (writePoint style n ++ rest) = .ok (n :: points, left) := by
  rw [writePoint]
  split
  · rename_i valid
    have same := readPoints_writeChar style (Char.ofNat n) more read
    rwa [Text.toNat_ofNat valid] at same
  · rename_i invalid
    have surrogate := (code_cases code).resolve_left invalid
    exact readPoints_point (by omega) alone more read

theorem writePoint_surrogate (surrogate : 0xD800 ≤ n ∧ n < 0xE000) : writePoint style n = escapePoint n := by
  rw [writePoint, if_neg]
  simp only [Nat.isValidChar]
  omega

theorem readPoints_written {points : List Nat} (codes : ∀ n ∈ points, n < 0x110000) :
    readPoints front start (points.flatMap (writePoint style) ++ '"' :: left) =
      .ok (Text.paired points, left) := by
  induction points using Text.paired.induct with
  | case1 high low points pair ih =>
    obtain ⟨_, _, later⟩ := List.forall_mem_cons.mp codes |>.imp id List.forall_mem_cons.mp
    obtain ⟨first, second⟩ := Bool.and_eq_true _ _ ▸ pair
    have halves : (0xD800 ≤ high ∧ high < 0xE000) ∧ 0xD800 ≤ low ∧ low < 0xE000 := by
      simp only [isHighSurrogate, isLowSurrogate, Bool.and_eq_true, decide_eq_true_eq] at first second
      omega
    rw [Text.paired, if_pos pair, List.flatMap_cons, List.flatMap_cons, writePoint_surrogate halves.1,
      writePoint_surrogate halves.2, ← List.append_assoc, List.append_assoc]
    exact readPoints_pair first second (by simp) (ih later)
  | case2 high low points pair ih =>
    obtain ⟨code, later⟩ := List.forall_mem_cons.mp codes
    rw [Text.paired, if_neg pair, List.flatMap_cons, List.append_assoc]
    refine readPoints_writePoint code (fun first => ?_) (by simp) (ih later)
    apply secondHalf_written _ later
    rintro _ ⟨⟩
    simpa [first] using pair
  | case3 points short =>
    rw [Text.paired]
    · rcases points with _ | ⟨n, _ | ⟨low, points⟩⟩
      · simp [readPoints]
      · rw [List.flatMap_singleton]
        exact readPoints_writePoint (codes n List.mem_cons_self) (fun _ => rfl) (by simp)
          (by simp [readPoints])
      · exact absurd rfl (short n low points)
    · exact short

theorem writePoints_append (style : Style) (points : List Nat) (rest : List Char) :
    writePoints style points ++ rest = '"' :: (points.flatMap (writePoint style) ++ '"' :: rest) := by
  simp [writePoints]

theorem writePoints_ascii (ascii : style.ascii = true) {points : List Nat}
    (codes : ∀ n ∈ points, n < 0x110000) : ∀ c ∈ writePoints style points, Ascii c := by
  intro c member
  simp only [writePoints, List.cons_append, List.mem_cons, List.mem_append, List.mem_flatMap,
    List.not_mem_nil, or_false] at member
  rcases member with rfl | ⟨n, among, inside⟩ | rfl
  · decide
  · rw [writePoint] at inside
    split at inside
    · exact writeChar_ascii ascii _ c inside
    · rename_i invalid
      have surrogate := (code_cases (codes n among)).resolve_left invalid
      exact escapePoint_ascii (by omega) c inside
  · decide

end Json

end Rehearsal
