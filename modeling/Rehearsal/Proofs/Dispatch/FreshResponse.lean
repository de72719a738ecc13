import Rehearsal.Proofs.Contract.FirstParameter
import Rehearsal.Proofs.Dispatch.Filling

namespace Rehearsal

theorem Endpoint.settled_isChecked {e : Endpoint} :
    e.settled.isChecked = true ↔ e.label ∈ ["key", "execute", "readonly"] := by
  rw [settled_eq]
  by_cases key : e.label = "key"
  · simp [key, isChecked]
  · by_cases execute : e.label = "execute"
    · simp [execute, isChecked]
    · by_cases readonly : e.label = "readonly"
      · simp [readonly, isChecked]
      · simp [key, execute, readonly, isChecked]

theorem Endpoint.settled_unknown {e : Endpoint} (unknown : e.label ∉ ["key", "execute", "readonly"]) :
    e.settled = .unchecked e.label := by
  simp only [List.mem_cons, List.not_mem_nil, or_false, not_or] at unknown
  rw [settled_eq, if_neg unknown.1, if_neg unknown.2.1, if_neg unknown.2.2]

theorem Schema.oneOf_text {α : Type} (choices : List (String × α)) (s : String) :
    oneOf choices (.text s) =
      match choices.lookup s with
      | some a => .ok a
      | none => refuse (.notOneOf (choices.map Prod.fst)) := by
  rfl

namespace Dispatch

variable {σ : Type} {c : Collaborators σ} {w : Surroundings} {endpoint : Endpoint} {maxUnits : Int}
  {method : String} {params : List Parameter} {m : Machine σ}

def Outcome.returned (o : Outcome σ) : Except Failure Response :=
  match o.failure with
  | some f => .error f
  | none => .ok o.response

theorem into_renamed (r : Response) (shown : Option Endpoint) :
    into c w endpoint maxUnits method params { r with endpoint := shown } m =
      let o := into c w endpoint maxUnits method params r m
      { o with response := { o.response with endpoint := shown } } := by
  cases performed : (perform c w.files endpoint maxUnits method params m).1 with
  | error f =>
    rw [into_error performed, into_error performed]
    rfl
  | ok success =>
    rw [into_ok performed, into_ok performed]

theorem into_settled (known : endpoint.settled.isChecked = true) (r : Response) :
    into c w endpoint.settled maxUnits method params r m =
      into c w endpoint maxUnits method params r m := by
  unfold into perform
  rw [Endpoint.settled_of_isChecked known]

theorem endpoint_checked (endpoint : Endpoint) :
    Schema.under (.key "endpoint") (Schema.oneOf Endpoint.named (.text endpoint.label)) =
      if endpoint.settled.isChecked then .ok endpoint.settled
      else .error [⟨[.key "endpoint"], .notOneOf ["key", "execute", "readonly"]⟩] := by
  cases found : Endpoint.named.lookup endpoint.label with
  | none =>
    have settled : endpoint.settled = .unchecked endpoint.label := by
      rw [Endpoint.settled, Endpoint.ofLabel, found]
      rfl
    rw [settled, Schema.oneOf_text, found]
    rfl
  | some e =>
    have settled : endpoint.settled = e := by
      rw [Endpoint.settled, Endpoint.ofLabel, found]
      rfl
    obtain ⟨before, after, split, _⟩ := List.lookup_eq_some_iff.mp found
    have known : e.isChecked = true :=
      Endpoint.named_isChecked (endpoint.label, e) (by simp [split])
    rw [settled, if_pos known, Schema.oneOf_text, found]
    rfl

theorem fresh_known (known : endpoint.settled.isChecked = true) (shown : Option Endpoint) :
    fresh c w endpoint maxUnits method params m =
      let given := into c w endpoint maxUnits method params { id := 0, endpoint := shown, method } m
      (given.returned.map fun r => { r with endpoint := some endpoint.settled }, given.machine) := by
  unfold fresh
  rw [endpoint_checked, if_pos known]
  simp only [into_settled known]
  have renamed : into c w endpoint maxUnits method params
      { id := 0, endpoint := some endpoint.settled, method } m = _ :=
    into_renamed { id := 0, endpoint := shown, method } (some endpoint.settled)
  rw [renamed]
  unfold Outcome.returned
  cases (into c w endpoint maxUnits method params { id := 0, endpoint := shown, method } m).failure <;> rfl

theorem fresh_unknown (unknown : endpoint.label ∉ ["key", "execute", "readonly"]) :
    fresh c w endpoint maxUnits method params m =
      (.error (.misshapen [⟨[.key "endpoint"], .notOneOf ["key", "execute", "readonly"]⟩]), m) := by
  unfold fresh
  rw [endpoint_checked, if_neg (fun known => unknown (Endpoint.settled_isChecked.mp known))]

theorem into_unknown (unknown : endpoint.label ∉ ["key", "execute", "readonly"]) (r : Response) :
    into c w endpoint maxUnits method params r m =
      ⟨some (.rejected ⟨.unknownEndpoint endpoint.label, none⟩), r.stamped w.second, m⟩ := by
  unfold into perform
  rw [Endpoint.settled_unknown unknown]

/-- Carrying out a step with any collaborators, in any state, once with a response made for it and once
with a new one that is given, whatever endpoint that one names. For the three endpoints, checked or not,
the machine is left the same, the failure is the same, and without a failure so is the response, but that
the made one names the endpoint of the step. For any other endpoint the machine stays as it is both times,
but the given response lets the step be rejected for its endpoint, and the made one is not even made: its
own check fails, which is no rejection. -/
theorem made_responses_agree_for_three_endpoints (c : Collaborators σ) (w : Surroundings)
    (endpoint : Endpoint) (maxUnits : Int) (method : String) (params : List Parameter) (m : Machine σ)
    (shown : Option Endpoint) :
    let given := into c w endpoint maxUnits method params { id := 0, endpoint := shown, method } m
    let made := fresh c w endpoint maxUnits method params m
    (endpoint.label ∈ ["key", "execute", "readonly"] →
      made.2 = given.machine ∧
      made.1 = given.returned.map fun r => { r with endpoint := some endpoint.settled }) ∧
    (endpoint.label ∉ ["key", "execute", "readonly"] →
      given.machine = m ∧ made.2 = m ∧
      given.returned = .error (.rejected ⟨.unknownEndpoint endpoint.label, none⟩) ∧
      made.1 = .error (.misshapen [⟨[.key "endpoint"], .notOneOf ["key", "execute", "readonly"]⟩])) := by
  intro given made
  constructor
  · intro known
    have same : made = _ := fresh_known (Endpoint.settled_isChecked.mpr known) shown
    exact ⟨congrArg Prod.snd same, congrArg Prod.fst same⟩
  · intro unknown
    have unmade : made = _ := fresh_unknown unknown
    have rejected : given = _ := into_unknown unknown _
    rw [unmade, rejected]
    exact ⟨rfl, rfl, rfl, rfl⟩

theorem plain_execute_agrees_and_bogus_differs :
    let c := Run.collaborators Run.sevens
    let zeros : List Parameter := [⟨.id, List.replicate 32 0⟩]
    let given := into c {} (.unchecked "execute") 9 "m" zeros { id := 0, method := "m" } Run.blank
    let made := fresh c {} (.unchecked "execute") 9 "m" zeros Run.blank
    given.failure = none ∧ made.2 = given.machine ∧
      made.1 = .ok { given.response with endpoint := some .execute } ∧
      (fresh c {} (.unchecked "bogus") 9 "m" zeros Run.blank).1 =
        .error (.misshapen [⟨[.key "endpoint"], .notOneOf ["key", "execute", "readonly"]⟩]) := by
  intro c zeros given made
  have done : given.failure = none := rfl
  obtain ⟨agrees, _⟩ := made_responses_agree_for_three_endpoints c {} (.unchecked "execute") 9 "m" zeros
    Run.blank none
  obtain ⟨_, differs⟩ := made_responses_agree_for_three_endpoints c {} (.unchecked "bogus") 9 "m" zeros
    Run.blank none
  obtain ⟨machine, response⟩ := agrees (by decide)
  obtain ⟨_, _, _, unmade⟩ := differs (by decide)
  refine ⟨done, machine, ?_, unmade⟩
  have returned : given.returned = .ok given.response := by rw [Outcome.returned, done]
  exact response.trans (congrArg (Except.map _) returned)

/-- A made response does not always lead to the kind of failure that a given one leads to, nor is every
step for an unknown endpoint rejected for that. -/
theorem made_responses_do_not_always_agree :
    (¬ ∀ (c : Collaborators Unit) (w : Surroundings) (endpoint : Endpoint) (method : String) (f g : Failure),
      (fresh c w endpoint 0 method [] Run.blank).1 = .error f →
        (into c w endpoint 0 method [] { id := 0, method } Run.blank).failure = some g → f.kind = g.kind) ∧
    ¬ ∀ (c : Collaborators Unit) (w : Surroundings) (endpoint : Endpoint) (method : String),
      endpoint.label ∉ ["key", "execute", "readonly"] →
        ∃ r : Rejection, (fresh c w endpoint 0 method [] Run.blank).1 = .error (.rejected r) ∧
          r.family = .invalidEndpoint := by
  have unknown : (Endpoint.unchecked "bogus").label ∉ ["key", "execute", "readonly"] := by decide
  let c : Collaborators Unit := Run.collaborators Run.noInterpreter
  have unmade : fresh c {} (.unchecked "bogus") 0 "m" [] Run.blank = _ := fresh_unknown unknown
  have rejected : into c {} (.unchecked "bogus") 0 "m" [] { id := 0, method := "m" } Run.blank = _ :=
    into_unknown unknown _
  constructor
  · intro agree
    have same := agree _ {} (.unchecked "bogus") "m" _ _ (congrArg Prod.fst unmade)
      (congrArg Outcome.failure rejected)
    exact absurd same (by decide)
  · intro typed
    obtain ⟨r, failed, _⟩ := typed c {} (.unchecked "bogus") "m" unknown
    rw [unmade] at failed
    cases failed

end Dispatch

end Rehearsal
