import Rehearsal.Resolve

namespace Rehearsal.Resolve

variable {σ : Type} {c : Collaborators σ} {w : Scope σ}

/-- The first of several parameters that cannot be resolved, counted from a position on. -/
structure FirstFailure (c : Collaborators σ) (w : Scope σ) (position : Nat) (params : List Parameter)
    (k : Nat) (p : Parameter) (f : Failure) : Prop where
  here : params[k]? = some p
  fails : parameter c w (position + k) p = .error f
  before : ∀ j < k, ∀ q, params[j]? = some q → ∃ r, parameter c w (position + j) q = .ok r

namespace FirstFailure

variable {position : Nat} {p : Parameter} {rest : List Parameter} {f : Failure}

theorem head (fails : parameter c w position p = .error f) :
    FirstFailure c w position (p :: rest) 0 p f :=
  ⟨rfl, fails, fun j none => absurd none (Nat.not_lt_zero j)⟩

theorem eq_of_head {g : Failure} {k : Nat} {x : Parameter} (fails : parameter c w position p = .error g)
    (failure : FirstFailure c w position (p :: rest) k x f) : g = f := by
  cases k with
  | zero =>
    cases failure.here
    exact Except.error.inj (fails.symm.trans failure.fails)
  | succ k =>
    obtain ⟨r, resolves⟩ := failure.before 0 (Nat.succ_pos k) p rfl
    cases fails.symm.trans resolves

theorem zero_of_ok {q : Parameter} {k : Nat} {x : Parameter} (first : parameter c w position p = .ok q)
    (failure : FirstFailure c w position (p :: rest) k x f) : ∃ j, k = j + 1 := by
  cases k with
  | zero =>
    cases failure.here
    cases first.symm.trans failure.fails
  | succ k => exact ⟨k, rfl⟩

theorem tail {q : Parameter} {k : Nat} {x : Parameter} (first : parameter c w position p = .ok q) :
    FirstFailure c w position (p :: rest) (k + 1) x f ↔
      FirstFailure c w (position + 1) rest k x f := by
  have shift : ∀ k, position + 1 + k = position + (k + 1) := by omega
  constructor
  · rintro ⟨here, fails, before⟩
    refine ⟨here, by rw [shift]; exact fails, ?_⟩
    intro j bound y at_j
    rw [shift]
    exact before (j + 1) (by omega) y at_j
  · rintro ⟨here, fails, before⟩
    refine ⟨here, by rw [← shift]; exact fails, ?_⟩
    intro j bound y at_j
    cases j with
    | zero =>
      cases at_j
      exact ⟨q, first⟩
    | succ j =>
      rw [← shift]
      exact before j (by omega) y at_j

end FirstFailure

theorem parametersFrom_ok {position : Nat} {params resolved : List Parameter} :
    parametersFrom c w position params = .ok resolved ↔
      resolved.length = params.length ∧
        ∀ (k : Nat) p, params[k]? = some p →
          ∃ q, resolved[k]? = some q ∧ parameter c w (position + k) p = .ok q := by
  induction params generalizing position resolved with
  | nil => cases resolved <;> simp [parametersFrom]
  | cons p rest ih =>
    have shift : ∀ k, position + 1 + k = position + (k + 1) := by omega
    constructor
    · intro done
      unfold parametersFrom at done
      cases first : parameter c w position p <;> simp only [first] at done
      · cases done
      · rename_i q
        cases later : parametersFrom c w (position + 1) rest <;> simp only [later] at done
        · cases done
        · obtain ⟨length, each⟩ := ih.mp later
          cases done
          refine ⟨by simp [length], ?_⟩
          intro k x at_k
          cases k with
          | zero =>
            cases at_k
            exact ⟨q, rfl, first⟩
          | succ k =>
            obtain ⟨y, at_y, resolves⟩ := each k x at_k
            exact ⟨y, at_y, by rw [← shift]; exact resolves⟩
    · rintro ⟨length, each⟩
      obtain ⟨q, at_q, first⟩ := each 0 p rfl
      cases resolved with
      | nil => cases at_q
      | cons x others =>
        cases at_q
        have later : parametersFrom c w (position + 1) rest = .ok others := by
          refine ih.mpr ⟨by simpa using length, ?_⟩
          intro k y at_k
          obtain ⟨z, at_z, resolves⟩ := each (k + 1) y at_k
          exact ⟨z, at_z, by rw [shift]; exact resolves⟩
        simp only [parametersFrom, show parameter c w position p = .ok q from first, later]

theorem parametersFrom_error {position : Nat} {params : List Parameter} {f : Failure} :
    parametersFrom c w position params = .error f ↔
      ∃ k p, FirstFailure c w position params k p f := by
  induction params generalizing position with
  | nil =>
    constructor
    · intro failed
      cases failed
    · rintro ⟨k, p, failure⟩
      cases failure.here
  | cons p rest ih =>
    cases first : parameter c w position p with
    | error g =>
      simp only [parametersFrom, first, Except.error.injEq]
      constructor
      · rintro rfl
        exact ⟨0, p, .head first⟩
      · rintro ⟨k, x, failure⟩
        exact failure.eq_of_head first
    | ok q =>
      have later : parametersFrom c w position (p :: rest) = .error f ↔
          parametersFrom c w (position + 1) rest = .error f := by
        simp only [parametersFrom, first]
        cases parametersFrom c w (position + 1) rest <;> simp
      rw [later, ih]
      constructor
      · rintro ⟨k, x, failure⟩
        exact ⟨k + 1, x, (FirstFailure.tail first).mpr failure⟩
      · rintro ⟨k, x, failure⟩
        obtain ⟨k, rfl⟩ := failure.zero_of_ok first
        exact ⟨k, x, (FirstFailure.tail first).mp failure⟩

theorem all_ok {params resolved : List Parameter} :
    all c w params = .ok resolved ↔
      resolved.length = params.length ∧
        ∀ (k : Nat) p, params[k]? = some p →
          ∃ q, resolved[k]? = some q ∧ parameter c w k p = .ok q := by
  rw [all, parametersFrom_ok]
  simp only [Nat.zero_add]

theorem all_error {params : List Parameter} {f : Failure} :
    all c w params = .error f ↔ ∃ k p, FirstFailure c w 0 params k p f := parametersFrom_error

end Rehearsal.Resolve
