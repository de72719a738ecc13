import Rehearsal.Proofs.Run.LedgerProjection

namespace Rehearsal.Run

variable {σ : Type} {c : Collaborators σ}

/-- A fact about sessions that deeds and the caller's changes in a history keep. -/
structure Lasts (c : Collaborators σ) (turns : List (Turn σ)) (holds : Session σ → Prop) : Prop where
  deed : ∀ d : Deed σ, d.Genuine c → holds d.before → holds d.after
  edit : ∀ change, .edit change ∈ turns → ∀ s, holds s → holds (s.edited change)

namespace Lasts

variable {turns : List (Turn σ)} {holds : Session σ → Prop} {s : Session σ}

/-- What lasts and holds at first holds everywhere. -/
theorem throughout (lasts : Lasts c turns holds) (opened : s.ledger.IsOpen) (start : holds s) :
    holds (play c turns s) ∧ ∀ d ∈ deeds c turns s, holds d.before ∧ holds d.after := by
  have kept := (history_induction (c := c)
    (motive := fun t ds => holds t ∧ ∀ d ∈ ds, holds d.before ∧ holds d.after)
    (fun ds d genuine before => by
      have after := lasts.deed d genuine before.1
      refine ⟨after, ?_⟩
      intro e member
      rcases List.mem_append.mp member with earlier | last
      · exact before.2 e earlier
      · rw [List.mem_singleton.mp last]
        exact ⟨before.1, after⟩)
    turns [] opened
    (fun change member t ds before => ⟨lasts.edit change member t before.1, before.2⟩)
    ⟨start, fun _ none => by cases none⟩).2
  simpa using kept

theorem afterwards (lasts : Lasts c turns holds) (opened : s.ledger.IsOpen) {n : Nat} {d : Deed σ}
    (at_n : (deeds c turns s)[n]? = some d) (start : holds d.after) :
    holds (play c turns s) ∧
      ∀ n' e, n < n' → (deeds c turns s)[n']? = some e → holds e.before ∧ holds e.after := by
  have kept := (history_induction (c := c)
    (motive := fun t ds => ∀ (n : Nat) d, ds[n]? = some d → holds d.after →
      holds t ∧ ∀ (n' : Nat) e, n < n' → ds[n']? = some e → holds e.before ∧ holds e.after)
    (fun ds d genuine before n x at_n start => by
      rcases getElem_snoc at_n with ⟨bound, earlier⟩ | ⟨here, rfl⟩
      · obtain ⟨now, between⟩ := before n x earlier start
        have after := lasts.deed d genuine now
        refine ⟨after, ?_⟩
        intro n' e later at_n'
        rcases getElem_snoc at_n' with ⟨_, between'⟩ | ⟨_, rfl⟩
        · exact between n' e later between'
        · exact ⟨now, after⟩
      · refine ⟨start, ?_⟩
        intro n' e later at_n'
        rcases getElem_snoc at_n' with ⟨bound, _⟩ | ⟨there, _⟩ <;> omega)
    turns [] opened
    (fun change member t ds before n d at_n start =>
      let ⟨now, between⟩ := before n d at_n start
      ⟨lasts.edit change member t now, between⟩)
    (fun _ _ none _ => by cases none)).2
  exact kept n d (by simpa using at_n) start

end Lasts

end Rehearsal.Run
