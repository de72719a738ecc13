import Rehearsal.Proofs.Run.Records

namespace Rehearsal

theorem Endpoint.settled_of_isChecked {e : Endpoint} (checked : e.isChecked = true) : e.settled = e := by
  cases e with
  | key | execute | readonly => decide
  | unchecked label => cases checked

/-- A ledger that holds of each response, at its number, what the response reports. -/
structure Ledger.Mirrors (l : Ledger) (rs : List Response) : Prop where
  opened : l.IsOpen
  step : l.step = rs.length
  ids : ∀ (n : Nat) r, rs[n]? = some r → r.id = n
  entries : ∀ (n : Nat) r, rs[n]? = some r →
    (l.lookup n).map (fun b => .whole b.text) = Run.producedId r

namespace Ledger.Mirrors

variable {l l' : Ledger} {rs : List Response} {r : Response}

theorem fresh : Ledger.Mirrors {} [] :=
  ⟨isOpen_fresh, rfl, fun _ _ none => by simp at none, fun _ _ none => by simp at none⟩

theorem next (mirrors : l.Mirrors rs) (moved : l.Next l' r) (id : r.id = l.step) :
    l'.Mirrors (rs ++ [r]) := by
  have last := mirrors.step
  refine ⟨moved.isOpen mirrors.opened, ?_, ?_, ?_⟩
  · rw [moved.step, List.length_append, last]
    rfl
  · intro n x at_n
    rcases Run.getElem_snoc at_n with ⟨_, earlier⟩ | ⟨same, rfl⟩
    · exact mirrors.ids n x earlier
    · rw [id]
      omega
  · intro n x at_n
    rcases Run.getElem_snoc at_n with ⟨bound, earlier⟩ | ⟨same, rfl⟩
    · rw [moved.elsewhere n (by omega)]
      exact mirrors.entries n x earlier
    · have here := moved.here
      rwa [show l.step = n by omega] at here

theorem lookup_iff (mirrors : l.Mirrors rs) (i : Int) (b : Block) :
    l.lookup i = some b ↔
      ∃ (n : Nat) (r : Response), i = n ∧ rs[n]? = some r ∧ Run.producedId r = some (.whole b.text) := by
  constructor
  · intro found
    obtain ⟨nonneg, before⟩ := mirrors.opened i b found
    have last := mirrors.step
    have bound : i.toNat < rs.length := by omega
    have same : i = (i.toNat : Int) := by omega
    have entry := mirrors.entries i.toNat rs[i.toNat] (List.getElem?_eq_getElem bound)
    rw [← same, found] at entry
    exact ⟨i.toNat, rs[i.toNat], same, List.getElem?_eq_getElem bound, entry.symm⟩
  · rintro ⟨n, r, rfl, at_n, produced⟩
    have entry := mirrors.entries n r at_n
    rw [produced] at entry
    obtain ⟨x, found, text⟩ := Option.map_eq_some_iff.mp entry
    rw [found, Block.text_injective (Text.whole.inj text)]

theorem held (mirrors : l.Mirrors rs) {n : Nat} {id : Text} (at_n : rs[n]? = some r)
    (ok : r.isOk = true) (reported : r.result.id = some id) :
    ∃ b : Block, l.lookup n = some b ∧ Hex.encode b.bytes = id := by
  have entry := mirrors.entries n r at_n
  rw [Run.producedId_eq_some.mpr ⟨ok, reported⟩] at entry
  exact Option.map_eq_some_iff.mp entry

theorem contains_iff (mirrors : l.Mirrors rs) (i : Int) :
    l.contains i = true ↔ ∃ (n : Nat) (r : Response), i = n ∧ rs[n]? = some r ∧ r.isOk = true ∧
      r.result.id.isSome = true := by
  rw [Ledger.contains_iff]
  constructor
  · rintro ⟨b, found⟩
    obtain ⟨n, r, same, at_n, produced⟩ := (mirrors.lookup_iff i b).mp found
    obtain ⟨ok, id⟩ := Run.producedId_eq_some.mp produced
    exact ⟨n, r, same, at_n, ok, by rw [id]; rfl⟩
  · rintro ⟨n, r, rfl, at_n, ok, reports⟩
    obtain ⟨id, reported⟩ := Option.isSome_iff_exists.mp reports
    obtain ⟨b, found, _⟩ := mirrors.held at_n ok reported
    exact ⟨b, found⟩

end Ledger.Mirrors

namespace Run

variable {σ : Type} {c : Collaborators σ}

theorem Deed.Genuine.mirrors {past : List Response} (ds : List (Deed σ)) (d : Deed σ)
    (genuine : d.Genuine c) (before : d.before.ledger.Mirrors (past ++ responses ds)) :
    d.after.ledger.Mirrors (past ++ responses (ds ++ [d])) := by
  rw [responses_append, ← List.append_assoc]
  cases answered : d.answer with
  | ok r =>
    have single : responses [d] = [r] := by
      rw [responses_cons, Deed.response_some.mpr answered]
      rfl
    rw [single]
    exact before.next (genuine.next answered) (genuine.response_id answered)
  | error f =>
    have none : responses [d] = [] := by
      rw [responses_cons, Deed.response?, answered]
      rfl
    rw [none, List.append_nil, (genuine.lost answered).2]
    exact before

theorem Deed.Genuine.execute {d : Deed σ} {r : Response} {id : Text} (genuine : d.Genuine c)
    (answered : d.answer = .ok r) (produced : producedId r = some id) :
    d.step.endpoint = .execute := by
  have checked := genuine.carried.checked
  rcases carryOut_producedId (genuine.answer.symm.trans answered) with none | ⟨settled, _⟩
  · rw [none] at produced
    cases produced
  · rwa [Endpoint.settled_of_isChecked checked] at settled

theorem deeds_genuine (turns : List (Turn σ)) {s : Session σ} (opened : s.ledger.IsOpen) :
    ∀ d ∈ deeds c turns s, d.Genuine c := by
  have kept := (history_induction (c := c) (motive := fun _ ds => ∀ d ∈ ds, d.Genuine c)
    (fun ds d genuine before e member => by
      rcases List.mem_append.mp member with earlier | last
      · exact before e earlier
      · rw [List.mem_singleton.mp last]
        exact genuine)
    turns [] opened (fun _ _ _ _ before => before) (fun _ none => by cases none)).2
  simpa using kept

theorem play_mirrors (turns : List (Turn σ)) (m : Machine σ) :
    (play c turns ⟨m, {}⟩).ledger.Mirrors (responses (deeds c turns ⟨m, {}⟩)) := by
  have kept := (history_induction (motive := fun s ds => s.ledger.Mirrors ([] ++ responses ds))
    (Deed.Genuine.mirrors (c := c)) turns [] Ledger.isOpen_fresh (fun _ _ _ _ before => before)
    (s := ⟨m, {}⟩) Ledger.Mirrors.fresh).2
  simpa only [List.nil_append] using kept

/-- The ledger goes on as the projection of the responses before and of those since. -/
theorem deedsOf_mirrors {s : Session σ} {past : List Response} (mirrors : s.ledger.Mirrors past)
    (w : Surroundings) (steps : List Step) :
    (ended s (deedsOf c w steps s)).ledger.Mirrors (past ++ responses (deedsOf c w steps s)) := by
  have start : s.ledger.Mirrors (past ++ responses ([] : List (Deed σ))) := by
    rwa [responses, List.filterMap_nil, List.append_nil]
  exact (deedsOf_induction (motive := fun s ds => s.ledger.Mirrors (past ++ responses ds))
    (Deed.Genuine.mirrors (c := c)) steps [] mirrors.opened start).2

def sevens (_ : Call) (s : State Unit) : Except Failure CallResult × State Unit :=
  (.ok { callId := List.replicate 32 7 }, s)

theorem sevens_failRecordably : (collaborators sevens).FailRecordably :=
  collaborators_failRecordably fun _ _ _ => nofun

theorem callZeros_sevens :
    ∃ r, (carryOut (collaborators sevens) {} (callZeros .execute) [⟨.id, List.replicate 32 0⟩]
      ⟨blank, {}⟩).1 = .ok r ∧ producedId r = some (.whole (Hex.encode (List.replicate 32 7))) := by
  have done : (performed (collaborators sevens) {} (callZeros .execute) [⟨.id, List.replicate 32 0⟩]
      ⟨blank, {}⟩).1 = .ok (.call (List.replicate 32 7) none 0) := rfl
  exact ⟨_, carryOut_succeeded done, rfl⟩

end Run

end Rehearsal
