import Rehearsal.Display.Panel
import Rehearsal.Proofs.Outcome

namespace Rehearsal.Display

def IsPlain (c : Char) : Prop := 0x21 ≤ c.toNat ∧ c.toNat ≤ 0x7E

instance : DecidablePred IsPlain := fun _ => inferInstanceAs (Decidable (_ ∧ _))

section Cells

variable {c : Char} {p rest : List Char} {space : Nat}

theorem IsPlain.width (plain : IsPlain c) : width c = 1 := by
  obtain ⟨low, high⟩ := plain
  have within : (0x20 ≤ c.toNat && c.toNat < 0x7F) = true := by
    simp
    omega
  rw [Display.width, if_pos within]

theorem IsPlain.ne_of_above (plain : IsPlain c) {d : Char} (above : 0x7E < d.toNat) : (c == d) = false := by
  apply beq_eq_false_iff_ne.mpr
  rintro rfl
  exact absurd plain.2 (Nat.not_le.mpr above)

theorem IsPlain.ne_joiner (plain : IsPlain c) : (c == joiner) = false := plain.ne_of_above (by decide)

theorem IsPlain.ne_colourMark (plain : IsPlain c) : (c == colourMark) = false :=
  plain.ne_of_above (by decide)

theorem IsPlain.not_blank (plain : IsPlain c) : Text.isBlank c = false := by
  obtain ⟨low, high⟩ := plain
  simp [Text.isBlank, Text.isSpace]
  omega

theorem cellsBehind_plain (plain : ∀ c ∈ p, IsPlain c) (last : Option Char) :
    cellsBehind last p = p.length := by
  induction p generalizing last with
  | nil => rfl
  | cons c p ih =>
    obtain ⟨first, others⟩ := List.forall_mem_cons.mp plain
    rw [cellsBehind.eq_def]
    simp only [first.ne_joiner, first.ne_colourMark, first.width, ih others, List.length_cons]
    exact Nat.add_comm 1 p.length

theorem cells_plain (plain : ∀ c ∈ p, IsPlain c) : cells p = p.length := cellsBehind_plain plain none

/-- A cluster that is open goes on with what follows, and a mark of colour gives it one more cell. -/
theorem clustersBehind_head (last : Option Char) (chars : List Char) (n : Nat) (s : List Char) :
    ∃ more m others, clustersBehind last chars n s = ⟨chars.reverse ++ more, m⟩ :: others ∧
      m ≤ n + (if last.any isWidened then 1 else 0) := by
  fun_induction clustersBehind last chars n s with
  | case1 last chars n => exact ⟨[], n, [], by simp, by simp⟩
  | case2 last chars n c => exact ⟨[c], n, [], by simp, by simp⟩
  | case3 last chars n c joins d rest ih =>
    obtain ⟨more, m, others, same, bound⟩ := ih
    exact ⟨c :: d :: more, m, others, by simp [same], bound⟩
  | case4 last chars n c rest _ marks ih =>
    obtain ⟨more, m, others, same, bound⟩ := ih
    have widened : last.any isWidened = true := (Bool.and_eq_true_iff.mp marks).2
    refine ⟨c :: more, m, others, by simp [same], ?_⟩
    rw [if_pos widened]
    exact bound
  | case5 last chars n c rest _ _ _ ih =>
    obtain ⟨more, m, others, same, bound⟩ := ih
    exact ⟨c :: more, m, others, by simp [same], bound⟩
  | case6 last chars n c rest =>
    exact ⟨[], n, clustersBehind (some c) [c] (width c) rest, by rw [List.append_nil], by simp⟩

theorem fitting_behind (last : Option Char) (chars : List Char) (n : Nat) (s : List Char)
    (room : n + 1 ≤ space) : chars.reverse <+: fitting space (clustersBehind last chars n s) := by
  obtain ⟨more, m, others, same, bound⟩ := clustersBehind_head last chars n s
  have fits : m ≤ space := by
    split at bound <;> omega
  obtain ⟨k, rfl⟩ : ∃ k, space = k + 1 := ⟨space - 1, by omega⟩
  rw [same, fitting.eq_def]
  simp only [fits, ↓reduceIte, List.append_assoc]
  exact List.prefix_append _ _

theorem fitting_plain (first : IsPlain c) (plain : ∀ d ∈ p, IsPlain d) (room : p.length + 2 ≤ space)
    (last : Option Char) : c :: p <+: fitting space (clustersBehind last [c] 1 (p ++ rest)) := by
  induction p generalizing c last space with
  | nil => exact fitting_behind last [c] 1 rest room
  | cons d p ih =>
    obtain ⟨next, others⟩ := List.forall_mem_cons.mp plain
    rw [List.length_cons] at room
    obtain ⟨k, rfl⟩ : ∃ k, space = k + 1 := ⟨space - 1, by omega⟩
    have later : d :: p <+: fitting k (clustersBehind (some d) [d] 1 (p ++ rest)) :=
      ih next others (by omega) (some d)
    rw [List.cons_append, clustersBehind.eq_def, fitting.eq_def]
    simp only [next.ne_joiner, next.ne_colourMark, next.width, Bool.false_and]
    exact (List.prefix_append_right_inj [c]).mpr later

theorem exactly_plain (plain : ∀ c ∈ p, IsPlain c) (room : p.length < space) :
    p <+: exactly space (p ++ rest) := by
  unfold exactly
  split
  · rw [List.append_assoc]
    exact List.prefix_append _ _
  · cases p with
    | nil => exact List.nil_prefix
    | cons c p =>
      obtain ⟨first, others⟩ := List.forall_mem_cons.mp plain
      rw [List.cons_append, clusters, first.width]
      exact fitting_plain first others room _

end Cells

section Rows

variable {p : List Char} {space : Nat}

theorem flatten_cutFrom (cuts : List Nat) (position : Nat) (piece cs : List Char) :
    (Styled.cutFrom cuts position piece cs).flatten = piece.reverse ++ cs := by
  fun_induction Styled.cutFrom cuts position piece cs <;> simp_all

theorem flatten_row (s : Styled) : s.row.flatten = s.chars := flatten_cutFrom _ 0 [] s.chars

theorem crop_plain {r : Row} (plain : ∀ c ∈ p, IsPlain c) (opens : p <+: r.flatten)
    (room : p.length < space) : p <+: (r.crop space).flatten := by
  induction r generalizing p space with
  | nil => exact opens
  | cons segment rest ih =>
    rw [List.flatten_cons] at opens
    rcases List.prefix_or_prefix_of_prefix opens (List.prefix_append segment rest.flatten) with
      ⟨more, rfl⟩ | ⟨later, rfl⟩
    · rw [Row.crop]
      split
      · rw [List.flatten_cons, List.append_assoc]
        exact List.prefix_append _ _
      · rw [List.flatten_singleton]
        exact exactly_plain plain room
    · obtain ⟨here, there⟩ := List.forall_mem_append.mp plain
      rw [List.length_append] at room
      have narrow : cells segment < space := by
        rw [cells_plain here]
        omega
      rw [Row.crop, if_pos narrow, List.flatten_cons, cells_plain here]
      exact (List.prefix_append_right_inj segment).mpr
        (ih there ((List.prefix_append_right_inj segment).mp opens) (by omega))

theorem cropped_plain {r : Row} (plain : ∀ c ∈ p, IsPlain c) (opens : p <+: r.flatten)
    (room : p.length < space) : p <+: (r.cropped space).flatten := by
  unfold Row.cropped
  split
  · exact opens
  · exact crop_plain plain opens room

end Rows

namespace Styled

variable {p : List Char} {s : Styled}

theorem divide_head {offsets : List Nat} (opens : p <+: s.chars)
    (behind : ∀ n ∈ offsets, p.length ≤ n) :
    ∃ first others, s.divide offsets = first :: others ∧ p <+: first.chars := by
  cases offsets with
  | nil => exact ⟨s, [], rfl, opens⟩
  | cons stop offsets =>
    have far : p.length ≤ stop := behind stop List.mem_cons_self
    exact ⟨_, _, rfl, List.prefix_take_iff.mpr ⟨opens, far⟩⟩

theorem le_of_mem_positions {c : Char} (opens : p <+: s.chars) (absent : c ∉ p) :
    ∀ n ∈ s.positions c, p.length ≤ n := by
  intro n member
  obtain ⟨⟨d, k⟩, among, found⟩ := List.mem_filterMap.mp member
  have here := List.mem_zipIdx_iff_getElem?.mp among
  obtain ⟨same, found⟩ := Option.ite_none_right_eq_some.mp found
  cases found
  rcases Nat.lt_or_ge n p.length with early | late
  · obtain ⟨rest, whole⟩ := opens
    rw [← whole, List.getElem?_append_left early] at here
    exact absurd (eq_of_beq same ▸ List.mem_of_getElem? here) absent
  · exact late

theorem lines_head (opens : p <+: s.chars) (filled : p ≠ []) (unbroken : '\n' ∉ p) :
    ∃ first others, s.lines = first :: others ∧ p <+: first.chars := by
  have behind : ∀ n ∈ (s.positions '\n').flatMap fun n => [n, n + 1], p.length ≤ n := by
    intro n member
    obtain ⟨k, among, near⟩ := List.mem_flatMap.mp member
    have far := le_of_mem_positions opens unbroken k among
    simp only [List.mem_cons, List.not_mem_nil, or_false] at near
    omega
  obtain ⟨first, others, same, opensFirst⟩ := divide_head opens behind
  have kept : (first.chars != ['\n']) = true := by
    apply bne_iff_ne.mpr
    intro feed
    rw [feed] at opensFirst
    rcases List.prefix_cons_iff.mp opensFirst with none | ⟨rest, whole, _⟩
    · exact filled none
    · exact unbroken (whole ▸ List.mem_cons_self)
  refine ⟨first, others.filter (·.chars != ['\n']), ?_, opensFirst⟩
  rw [lines, same, List.filter_cons, if_pos kept]

theorem fillTabs_head {part : Styled} (opens : p <+: part.chars) (untabbed : '\t' ∉ p) (used : Nat)
    (parts : List Styled) :
    ∃ first others, fillTabs used (part :: parts) = first :: others ∧ p <+: first.chars := by
  rw [fillTabs]
  split
  · rename_i ends
    obtain ⟨body, whole⟩ := List.getLast?_eq_some_iff.mp (eq_of_beq ends)
    refine ⟨_, _, rfl, ?_⟩
    rw [whole, List.prefix_concat_iff] at opens
    rcases opens with ends | within
    · exact absurd (by simp [ends]) untabbed
    · simp only [extend, whole, List.dropLast_concat, List.append_assoc]
      exact within.trans (List.prefix_append _ _)
  · exact ⟨part, _, rfl, opens⟩

theorem foldl_append_opens (opens : p <+: s.chars) (parts : List Styled) :
    p <+: (parts.foldl append s).chars := by
  induction parts generalizing s with
  | nil => exact opens
  | cons part parts ih => exact ih (opens.trans (List.prefix_append _ _))

theorem expandTabs_opens (opens : p <+: s.chars) (untabbed : '\t' ∉ p) : p <+: s.expandTabs.chars := by
  unfold expandTabs
  simp only
  split
  · exact opens
  · have behind : ∀ n ∈ (s.positions '\t').map (· + 1), p.length ≤ n := by
      intro n member
      obtain ⟨k, among, rfl⟩ := List.mem_map.mp member
      exact Nat.le_succ_of_le (le_of_mem_positions opens untabbed k among)
    obtain ⟨first, others, same, opensFirst⟩ := divide_head opens behind
    obtain ⟨filled, more, sameFilled, opensFilled⟩ := fillTabs_head opensFirst untabbed 0 others
    rw [same, sameFilled, join, List.foldl_cons]
    exact foldl_append_opens (s := Styled.append {} filled) opensFilled more

end Styled

structure Filling.Past (n : Nat) (f : Filling) : Prop where
  position : n ≤ f.position
  breaks : ∀ b ∈ f.breaks, n ≤ b

namespace Filling

variable {n : Nat} {f : Filling}

theorem Past.breakAt (past : f.Past n) : (f.breakAt f.position).Past n := by
  unfold Filling.breakAt
  split
  · exact past
  · refine ⟨past.position, ?_⟩
    intro b member
    rcases List.mem_append.mp member with before | here
    · exact past.breaks b before
    · rw [List.mem_singleton.mp here]
      exact past.position

theorem Past.fold (past : f.Past n) (pieces : List (List Char)) : (f.fold pieces).Past n := by
  induction pieces generalizing f with
  | nil => exact past
  | cons piece rest ih =>
    apply ih
    exact ⟨Nat.le_add_right_of_le past.position, past.breakAt.breaks⟩

theorem Past.write (past : f.Past n) (space : Nat) (overflow : Overflow) (word : List Char) :
    (f.write space overflow word).Past n := by
  have on : n ≤ f.position + word.length := Nat.le_add_right_of_le past.position
  unfold Filling.write
  simp only
  split
  · exact ⟨on, past.breaks⟩
  · split
    · exact ⟨on, (past.fold _).breaks⟩
    · exact ⟨on, past.breakAt.breaks⟩

theorem Past.foldl (past : f.Past n) (space : Nat) (overflow : Overflow) (words : List (List Char)) :
    (words.foldl (Filling.write space overflow) f).Past n := by
  induction words generalizing f with
  | nil => exact past
  | cons word rest ih => exact ih (past.write space overflow word)

end Filling

section Wrapping

variable {p rest : List Char} {space : Nat} (overflow : Overflow)

theorem wordsFrom_cons (word : List Char) (phase : Phase) (c : Char) (s : List Char) :
    wordsFrom word phase (c :: s) =
      if Text.isBlank c then wordsFrom (c :: word) (if phase = .before then .before else .behind) s
      else if phase = .behind then word.reverse :: wordsFrom [c] .inside s
      else wordsFrom (c :: word) .inside s := by
  cases phase <;> rfl

theorem wordsFrom_inside (plain : ∀ c ∈ p, IsPlain c) (word : List Char) :
    wordsFrom word .inside (p ++ rest) = wordsFrom (p.reverse ++ word) .inside rest := by
  induction p generalizing word with
  | nil => rfl
  | cons c p ih =>
    obtain ⟨first, others⟩ := List.forall_mem_cons.mp plain
    rw [List.cons_append, wordsFrom_cons, first.not_blank, List.reverse_cons, List.append_assoc]
    exact ih others (c :: word)

theorem wordsFrom_behind (word s : List Char) :
    ∃ blanks others, wordsFrom word .behind s = (word.reverse ++ blanks) :: others ∧
      ∀ c ∈ blanks, Text.isBlank c = true := by
  induction s generalizing word with
  | nil => exact ⟨[], [], by rw [List.append_nil]; rfl, List.forall_mem_nil _⟩
  | cons c s ih =>
    rw [wordsFrom_cons]
    cases blank : Text.isBlank c with
    | false => exact ⟨[], wordsFrom [c] .inside s, by rw [List.append_nil]; rfl, List.forall_mem_nil _⟩
    | true =>
      obtain ⟨blanks, others, same, blanksBlank⟩ := ih (c :: word)
      refine ⟨c :: blanks, others, ?_, List.forall_mem_cons.mpr ⟨blank, blanksBlank⟩⟩
      rw [List.reverse_cons, List.append_assoc] at same
      exact same

theorem wordsFrom_first (plain : ∀ c ∈ p, IsPlain c) (filled : p ≠ []) (rest : List Char) :
    ∃ blanks others, wordsFrom [] .before (p ++ ' ' :: rest) = (p ++ blanks) :: others ∧
      ∀ c ∈ blanks, Text.isBlank c = true := by
  obtain ⟨c, q, rfl⟩ := List.exists_cons_of_ne_nil filled
  obtain ⟨first, inside⟩ := List.forall_mem_cons.mp plain
  obtain ⟨blanks, others, behind, blank⟩ := wordsFrom_behind (' ' :: (q.reverse ++ [c])) rest
  refine ⟨' ' :: blanks, others, ?_, List.forall_mem_cons.mpr ⟨rfl, blank⟩⟩
  have start : wordsFrom [] .before (c :: q ++ ' ' :: rest) = wordsFrom [c] .inside (q ++ ' ' :: rest) := by
    rw [List.cons_append, wordsFrom_cons, first.not_blank]
    rfl
  have word : (' ' :: (q.reverse ++ [c])).reverse ++ blanks = c :: q ++ ' ' :: blanks := by simp
  rw [start, wordsFrom_inside inside, ← word, ← behind]
  rfl

theorem withoutTail_plain {blanks : List Char} (plain : ∀ c ∈ p, IsPlain c)
    (blank : ∀ c ∈ blanks, Text.isBlank c = true) : Styled.withoutTail (p ++ blanks) = p := by
  have front : (blanks.reverse ++ p.reverse).dropWhile Text.isBlank = p.reverse.dropWhile Text.isBlank :=
    List.dropWhile_append_of_pos fun c member => blank c (List.mem_reverse.mp member)
  have kept : p.reverse.dropWhile Text.isBlank = p.reverse := by
    cases whole : p.reverse with
    | nil => rfl
    | cons c s =>
      have last : c ∈ p := List.mem_reverse.mp (whole ▸ List.mem_cons_self)
      rw [List.dropWhile_cons, (plain c last).not_blank]
      rfl
  rw [Styled.withoutTail, List.reverse_append, front, kept, List.reverse_reverse]

/-- The line is not broken within or before a word that it opens with. -/
theorem breaks_past (plain : ∀ c ∈ p, IsPlain c) (filled : p ≠ []) (room : p.length ≤ space)
    (rest : List Char) :
    ∀ b ∈ breaks space overflow (p ++ ' ' :: rest), p.length ≤ b := by
  obtain ⟨blanks, others, words, blank⟩ := wordsFrom_first plain filled rest
  have fits : 0 + cells (Styled.withoutTail (p ++ blanks)) ≤ space := by
    rw [withoutTail_plain plain blank, cells_plain plain, Nat.zero_add]
    exact room
  have far : p.length ≤ 0 + (p ++ blanks).length := by
    rw [Nat.zero_add, List.length_append]
    exact Nat.le_add_right _ _
  have first : (Filling.write space overflow {} (p ++ blanks)).Past p.length := by
    unfold Filling.write
    rw [if_pos fits]
    exact ⟨far, List.forall_mem_nil _⟩
  rw [breaks, words, List.foldl_cons]
  exact (first.foldl space overflow others).breaks

variable {s : Styled}

theorem trimTail_opens (opens : p <+: s.chars) (room : p.length ≤ space) :
    p <+: (s.trimTail space).chars := by
  unfold Styled.trimTail
  simp only
  split
  · exact opens
  · rename_i long
    have longer : space < s.chars.length :=
      Nat.lt_of_not_le fun short => long (by rw [decide_eq_true short, Bool.true_or])
    exact List.prefix_take_iff.mpr ⟨opens, by omega⟩

theorem truncate_opens (plain : ∀ c ∈ p, IsPlain c) (opens : p <+: s.chars)
    (room : p.length + 1 < space) : p <+: (s.truncate space overflow).chars := by
  obtain ⟨rest, whole⟩ := opens
  unfold Styled.truncate
  split
  · exact ⟨rest, whole⟩
  · rw [← whole]
    cases overflow with
    | fold => exact exactly_plain plain (by omega)
    | mark => exact (exactly_plain plain (by omega)).trans (List.prefix_append _ _)

theorem settle_opens (plain : ∀ c ∈ p, IsPlain c) (opens : p <+: s.chars)
    (room : p.length + 1 < space) : p <+: (settle space overflow s).chars := by
  have line := truncate_opens overflow plain
    (trimTail_opens opens (Nat.le_of_succ_le (Nat.le_of_lt room))) room
  unfold settle
  simp only
  split
  · exact line.trans (List.prefix_append _ _)
  · exact line

theorem wrap_head (plain : ∀ c ∈ p, IsPlain c) (filled : p ≠ []) (opens : p ++ [' '] <+: s.chars)
    (room : p.length + 1 < space) :
    ∃ first others, wrap space overflow s = first :: others ∧ p <+: first.chars := by
  have absent {c : Char} (other : ¬ IsPlain c) (noSpace : c ≠ ' ') : c ∉ p ++ [' '] := by
    intro member
    rcases List.mem_append.mp member with among | space
    · exact other (plain c among)
    · exact noSpace (List.mem_singleton.mp space)
  obtain ⟨line, lines, same, opensLine⟩ :=
    Styled.lines_head opens (by simp) (absent (c := '\n') (by decide) (by decide))
  obtain ⟨rest, whole⟩ := Styled.expandTabs_opens opensLine (absent (c := '\t') (by decide) (by decide))
  rw [List.append_assoc] at whole
  have behind := breaks_past overflow plain filled
    (Nat.le_of_succ_le (Nat.le_of_lt room)) rest
  rw [← List.singleton_append, whole] at behind
  obtain ⟨piece, pieces, divided, opensPiece⟩ := Styled.divide_head ⟨_, whole⟩ behind
  rw [wrap, same, List.flatMap_cons]
  simp only [divided, List.map_cons, List.cons_append]
  exact ⟨_, _, rfl, settle_opens overflow plain opensPiece room⟩

theorem screen_opens {r : Row} {rows : List Row} (plain : ∀ c ∈ p, IsPlain c) (opens : p <+: r.flatten)
    (room : p.length < screenWidth) : p <+: (screen (r :: rows)).toList := by
  rw [screen, String.toList_ofList, List.flatMap_cons, List.append_assoc]
  exact (cropped_plain plain opens room).trans (List.prefix_append _ _)

theorem paragraph_opens {markup text : String} (plain : ∀ c ∈ p, IsPlain c) (filled : p ≠ [])
    (room : p.length + 1 < screenWidth) (done : paragraph markup = .ok text)
    (opens : ∀ s, Markup.text markup = .ok s → p ++ [' '] <+: s.chars) : p <+: text.toList := by
  obtain ⟨s, shown, rfl⟩ := Outcome.map_ok.mp done
  obtain ⟨first, others, wrapped, opensFirst⟩ :=
    wrap_head .fold plain filled (opens s shown) room
  rw [wrapped]
  apply screen_opens plain
  · rw [flatten_row]
    exact opensFirst
  · exact Nat.lt_of_succ_lt room

end Wrapping

end Rehearsal.Display
