import Mathlib.Data.String.Basic

namespace Rehearsal.Text

open String

section Separator

variable (mark : Char)

theorem get_singleton : Pos.Raw.get (singleton mark) 0 = mark := get_of_valid [] [mark]

theorem next_singleton : Pos.Raw.next (singleton mark) 0 = ⟨mark.utf8Size⟩ := by
  simpa using next_of_valid [] mark []

theorem atEnd_singleton : Pos.Raw.atEnd (singleton mark) ⟨mark.utf8Size⟩ = true := by
  simpa using (atEnd_of_valid [mark] []).mpr rfl

end Separator

theorem extract_middle (l m r : List Char) :
    Pos.Raw.extract (ofList (l ++ m ++ r)) ⟨utf8Len l⟩ ⟨utf8Len (l ++ m)⟩ = ofList m := by
  rw [utf8Len_append]
  exact extract_of_valid l m r

theorem next_append (l : List Char) (c : Char) (r : List Char) :
    Pos.Raw.next (ofList (l ++ c :: r)) ⟨utf8Len l⟩ = ⟨utf8Len (l ++ [c])⟩ := by
  rw [utf8Len_append, next_of_valid]
  simp

/-- Splitting goes on from behind the characters `l` of finished parts and `m` of the open one. -/
theorem splitOnAux_singleton (mark : Char) (l m r : List Char) (parts : List String) :
    splitOnAux (ofList (l ++ m ++ r)) (singleton mark) ⟨utf8Len l⟩ ⟨utf8Len (l ++ m)⟩ 0 parts =
      parts.reverse ++ (List.splitOnPPrepend (· == mark) r m.reverse).map ofList := by
  induction r generalizing l m parts with
  | nil =>
    have ends : Pos.Raw.atEnd (ofList (l ++ m ++ [])) ⟨utf8Len (l ++ m)⟩ = true :=
      (atEnd_of_valid (l ++ m) []).mpr rfl
    rw [splitOnAux, if_pos ends, extract_middle]
    simp [List.splitOnPPrepend]
  | cons c r ih =>
    have within : ¬ Pos.Raw.atEnd (ofList (l ++ m ++ c :: r)) ⟨utf8Len (l ++ m)⟩ = true := by
      rw [atEnd_of_valid]
      simp
    have here : Pos.Raw.get (ofList (l ++ m ++ c :: r)) ⟨utf8Len (l ++ m)⟩ = c :=
      get_of_valid (l ++ m) (c :: r)
    rw [splitOnAux, if_neg within]
    by_cases same : c = mark
    · subst same
      have back : (⟨utf8Len (l ++ m ++ [c])⟩ : Pos.Raw).unoffsetBy ⟨c.utf8Size⟩ = ⟨utf8Len (l ++ m)⟩ := by
        simp only [Pos.Raw.unoffsetBy, utf8Len_append, utf8Len_cons, utf8Len_nil]
        congr 1
        omega
      have later := ih (l ++ m ++ [c]) [] (ofList m :: parts)
      simp only [here, get_singleton, next_singleton, next_append, atEnd_singleton, back,
        beq_self_eq_true, ↓reduceIte, extract_middle, List.splitOnPPrepend_cons_eq_if]
      simpa using later
    · have later := ih l (m ++ [c]) parts
      have stay : (⟨utf8Len (l ++ m)⟩ : Pos.Raw).unoffsetBy 0 = ⟨utf8Len (l ++ m)⟩ := rfl
      simp only [here, get_singleton, stay, next_append, beq_iff_eq, same, ↓reduceIte,
        List.splitOnPPrepend_cons_eq_if]
      simpa using later

theorem splitOn_singleton (mark : Char) (s : String) :
    s.splitOn (singleton mark) = (s.toList.splitOn mark).map ofList := by
  have whole := splitOnAux_singleton mark [] [] s.toList []
  have filled : (singleton mark == "") = false := by
    simp
  rw [splitOn, filled]
  simp only [List.nil_append, ofList_toList, List.reverse_nil] at whole
  exact whole

theorem splitOn_lines {lines : List String} (unbroken : ∀ line ∈ lines, '\n' ∉ line.toList) :
    (String.join (lines.map (· ++ "\n"))).splitOn "\n" = lines ++ [""] := by
  have feed : "\n" = singleton '\n' := rfl
  conv_lhs => rw [feed, splitOn_singleton]
  induction lines with
  | nil => rfl
  | cons line rest ih =>
    have here := unbroken line List.mem_cons_self
    have chars : (String.join ((line :: rest).map (· ++ singleton '\n'))).toList =
        line.toList ++ '\n' :: (String.join (rest.map (· ++ singleton '\n'))).toList := by
      simp
    rw [chars, List.splitOn_append_cons_self_of_not_mem here, List.map_cons,
      ih fun other member => unbroken other (.tail _ member), ofList_toList]
    rfl

end Rehearsal.Text
