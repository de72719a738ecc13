import Rehearsal.Display.Panel
import Rehearsal.Proofs.Outcome

namespace Rehearsal.Display.Markup

def Part.seen : Part → List Char
  | .text t => (Emoji.replace (unescape t)).filter fun c => !isDropped c
  | .tag _ _ => []

variable {s t : Shown} {tag : Tag} {start : Nat}

theorem Shown.finish_chars (done : s.finish tag start = .ok t) : t.text.chars = s.text.chars := by
  obtain ⟨_, _, rfl⟩ := Outcome.map_ok.mp done
  rfl

theorem Shown.follow_chars {content : List Char} {position : Nat}
    (done : s.follow content position = .ok t) : t.text.chars = s.text.chars := by
  unfold Shown.follow at done
  simp only at done
  split at done
  · split at done
    · split at done
      · cases done
      · have same := Shown.finish_chars done
        exact same
    · obtain ⟨name, _, done⟩ := Outcome.bind_ok.mp done
      split at done
      · cases done
      · have same := Shown.finish_chars done
        exact same
  · obtain ⟨name, _, done⟩ := Outcome.bind_ok.mp done
    cases done
    rfl

theorem Shown.finishAll_chars {opened : List (Tag × Nat)} (done : s.finishAll opened = .ok t) :
    t.text.chars = s.text.chars := by
  induction opened generalizing s with
  | nil =>
    cases done
    rfl
  | cons first rest ih =>
    rw [Shown.finishAll] at done
    split at done
    · have later : (s.styledFrom first.2).finishAll rest = .ok t := done
      exact (ih later).trans rfl
    · obtain ⟨u, here, later⟩ := Outcome.bind_ok.mp done
      exact (ih later).trans (Shown.finish_chars here)

theorem show?_chars {parts : List Part} (shown : show? s parts = .ok t) :
    t.text.chars = s.text.chars ++ parts.flatMap Part.seen := by
  induction parts generalizing s with
  | nil =>
    cases shown
    exact (List.append_nil _).symm
  | cons part rest ih =>
    cases part with
    | text u =>
      rw [ih (s := _) shown, List.flatMap_cons, ← List.append_assoc]
      rfl
    | tag content position =>
      obtain ⟨u, followed, later⟩ := Outcome.bind_ok.mp shown
      rw [ih later, Shown.follow_chars followed, List.flatMap_cons]
      rfl

theorem text_chars {markup : String} {s : Styled} (shown : text markup = .ok s) :
    s.chars = (parts markup.toList).flatMap Part.seen := by
  obtain ⟨u, seen, rest⟩ := Outcome.bind_ok.mp shown
  obtain ⟨v, finished, returned⟩ := Outcome.bind_ok.mp rest
  cases returned
  rw [Shown.finishAll_chars finished, show?_chars seen]
  rfl

/-- The first part of markup holds the text that was read before it. -/
theorem partsFrom_head (fuel position : Nat) (plain : List Char) (slashes : Nat) (s : List Char) :
    ∃ more others, partsFrom fuel position plain slashes s = .text (plain.reverse ++ more) :: others := by
  fun_induction partsFrom fuel position plain slashes s with
  | case1 position plain slashes s => exact ⟨_, [], by rw [List.append_assoc]⟩
  | case2 fuel position plain slashes => exact ⟨_, [], rfl⟩
  | case3 fuel position plain slashes c rest _ ih => exact ih
  | case4 fuel position plain slashes c rest _ _ ih =>
    obtain ⟨more, others, same⟩ := ih
    refine ⟨List.replicate slashes '\\' ++ c :: more, others, ?_⟩
    rw [same]
    simp
  | case5 fuel position plain slashes c rest _ content after _ here ih =>
    exact ⟨[], _, by rw [List.append_nil]⟩

end Rehearsal.Display.Markup
