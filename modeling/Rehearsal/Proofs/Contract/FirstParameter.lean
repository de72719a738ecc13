import Rehearsal.Contract
import Rehearsal.Proofs.Resolve.Yields
import Rehearsal.Proofs.Run.LedgerProjection

namespace Rehearsal

theorem Kind.settled_eq_iff {k known : Kind} (checked : known.isChecked = true) :
    k.settled = known ↔ k.label = known.label := by
  constructor
  · intro same
    rw [← label_settled, same]
  · intro same
    rw [← settled_of_isChecked checked, settled, settled, same]

theorem Endpoint.settled_eq (e : Endpoint) :
    e.settled =
      if e.label = "key" then .key
      else if e.label = "execute" then .execute
      else if e.label = "readonly" then .readonly
      else .unchecked e.label := by
  unfold settled ofLabel named
  by_cases key : e.label = "key"
  · simp [key]
  · by_cases execute : e.label = "execute"
    · rw [execute]
      rfl
    · by_cases readonly : e.label = "readonly"
      · rw [readonly]
        rfl
      · simp only [List.lookup_cons, List.lookup_nil, beq_eq_false_iff_ne.mpr key,
          beq_eq_false_iff_ne.mpr execute, beq_eq_false_iff_ne.mpr readonly, key, execute, readonly,
          ↓reduceIte, Option.getD_none]

namespace Contract

/-- A row of the table: the labels that a first parameter may have, and what is demanded of it in words
if it has none of them. -/
structure Row where
  kinds : List String
  requirement : Option Requirement

/-- The table, by the labels of endpoint and method. Only the three endpoints have rows. -/
def row? (endpoint : String) (method : Text) : Option Row :=
  if endpoint = "key" then some ⟨["ed25519", "secp256k1"], none⟩
  else if endpoint = "readonly" then some ⟨["id"], some .id⟩
  else if endpoint = "execute" then
    if method = programCreate then some ⟨["string"], some .string⟩ else some ⟨["id"], some .id⟩
  else none

theorem row_eq_none {endpoint : String} {method : Text} :
    row? endpoint method = none ↔ endpoint ∉ ["key", "execute", "readonly"] := by
  unfold row?
  by_cases key : endpoint = "key"
  · simp [key]
  · by_cases readonly : endpoint = "readonly"
    · simp [readonly]
    · by_cases execute : endpoint = "execute"
      · by_cases creates : method = programCreate <;> simp [execute, creates]
      · simp [key, readonly, execute]

def Row.cause (row : Row) (label : String) : Rejection.Cause :=
  match row.requirement with
  | none => .notKey label
  | some requirement => .wrongFirst label requirement

theorem Row.family_cause (row : Row) (label : String) :
    (row.cause label).family = .invalidParamType := by
  unfold cause
  cases row.requirement <;> rfl

theorem Row.requirement_cause (row : Row) (label : String) :
    (row.cause label).requirement = row.requirement := by
  unfold cause
  cases row.requirement <;> rfl

variable {index : Int} {step : Step} {first : Parameter} {rest : List Parameter}

theorem demand_eq (first kind : Kind) (known : kind.isChecked = true) (requirement : Requirement) :
    demand index first kind requirement =
      if first.label ∈ [kind.label] then .ok ()
      else refuseKind index first (.wrongFirst · requirement) := by
  simp only [demand, Kind.settled_eq_iff known, List.mem_singleton]

theorem check_eq_row (params : step.params = first :: rest) :
    check index step =
      match row? step.endpoint.label step.method with
      | none => refuse index (.unknownEndpoint step.endpoint.label)
      | some row =>
        if first.kind.label ∈ row.kinds then .ok () else refuseKind index first.kind row.cause := by
  have ed25519 : first.kind.settled = .ed25519 ↔ first.kind.label = "ed25519" :=
    Kind.settled_eq_iff rfl
  have secp256k1 : first.kind.settled = .secp256k1 ↔ first.kind.label = "secp256k1" :=
    Kind.settled_eq_iff rfl
  rw [check, params]
  simp only [Endpoint.settled_eq, row?]
  by_cases key : step.endpoint.label = "key"
  · simp only [key, ↓reduceIte, ed25519, secp256k1, List.mem_cons, List.not_mem_nil, or_false]
    rfl
  · by_cases execute : step.endpoint.label = "execute"
    · have other : "execute" ≠ "readonly" := by decide
      have another : "execute" ≠ "key" := by decide
      simp only [execute, other, another, ↓reduceIte]
      split <;> exact demand_eq _ _ rfl _
    · by_cases readonly : step.endpoint.label = "readonly"
      · have another : "readonly" ≠ "key" := by decide
        have third : "readonly" ≠ "execute" := by decide
        simp only [readonly, another, third, ↓reduceIte]
        exact demand_eq _ _ rfl _
      · simp only [key, execute, readonly, ↓reduceIte]

def Refuses (index : Int) (step : Step) (family : Rejection.Family) (requirement : Option Requirement) :
    Prop :=
  ∃ cause, check index step = .error (.rejected ⟨cause, some index⟩) ∧ cause.family = family ∧
    cause.requirement = requirement

theorem refuses_noParams (index : Int) (none : step.params = []) : Refuses index step .invalidStep .none :=
  ⟨.noParams, by rw [check, none]; rfl, rfl, rfl⟩

theorem refuses_endpoint (index : Int) (params : step.params ≠ [])
    (unknown : step.endpoint.label ∉ ["key", "execute", "readonly"]) :
    Refuses index step .invalidEndpoint none := by
  obtain ⟨first, rest, params⟩ := List.exists_cons_of_ne_nil params
  refine ⟨.unknownEndpoint step.endpoint.label, ?_, rfl, rfl⟩
  rw [check_eq_row params, row_eq_none.mpr unknown]
  rfl

variable {row : Row}

theorem check_other (params : step.params = first :: rest)
    (known : row? step.endpoint.label step.method = some row) (other : first.kind.label ∉ row.kinds) :
    check index step = refuseKind index first.kind row.cause := by
  rw [check_eq_row params, known]
  exact if_neg other

theorem refuses_kind (params : step.params = first :: rest)
    (known : row? step.endpoint.label step.method = some row) (other : first.kind.label ∉ row.kinds)
    (checked : first.kind.isChecked = true) :
    Refuses index step .invalidParamType row.requirement := by
  refine ⟨row.cause first.kind.label, ?_, row.family_cause _, row.requirement_cause _⟩
  rw [check_other params known other, refuseKind, if_pos checked]
  rfl

theorem check_unworded (params : step.params = first :: rest)
    (known : row? step.endpoint.label step.method = some row) (other : first.kind.label ∉ row.kinds)
    (unchecked : first.kind.isChecked = false) :
    check index step = .error (.fault .uncheckedLabel) := by
  rw [check_other params known other, refuseKind, unchecked]
  rfl

theorem check_ok_iff :
    check index step = .ok () ↔
      ∃ first rest row, step.params = first :: rest ∧
        row? step.endpoint.label step.method = some row ∧ first.kind.label ∈ row.kinds := by
  constructor
  · intro met
    cases params : step.params with
    | nil =>
      obtain ⟨cause, refused, _⟩ := refuses_noParams index params
      cases met.symm.trans refused
    | cons first rest =>
      cases known : row? step.endpoint.label step.method with
      | none =>
        obtain ⟨cause, refused, _⟩ :=
          refuses_endpoint index (by simp [params]) (row_eq_none.mp known)
        cases met.symm.trans refused
      | some row =>
        by_cases among : first.kind.label ∈ row.kinds
        · exact ⟨first, rest, row, rfl, rfl, among⟩
        · rw [check_other params known among] at met
          unfold refuseKind refuse at met
          split at met <;> cases met
  · rintro ⟨first, rest, row, params, known, among⟩
    rw [check_eq_row params, known]
    exact if_pos among

/-- Any step, checked or not, meets the contract at any index just if its first parameter stands in the
row of its endpoint and method. If there is none, it is refused as incomplete, whatever its endpoint; if
its endpoint is none of the three, for that; and if its first parameter is of another kind, for
that kind with what the row demands. Each of these refusals names the index. But a kind that was never
checked has no label to word its refusal with: there the check fails, and is no refusal. -/
theorem steps_are_checked_by_their_first_parameter (index : Int) (step : Step) :
    (check index step = .ok () ↔
      ∃ first rest row, step.params = first :: rest ∧
        row? step.endpoint.label step.method = some row ∧ first.kind.label ∈ row.kinds) ∧
    (step.params = [] → Refuses index step .invalidStep none) ∧
    (step.params ≠ [] → step.endpoint.label ∉ ["key", "execute", "readonly"] →
      Refuses index step .invalidEndpoint none) ∧
    ∀ first rest row, step.params = first :: rest →
      row? step.endpoint.label step.method = some row → first.kind.label ∉ row.kinds →
        (first.kind.isChecked = true → Refuses index step .invalidParamType row.requirement) ∧
        (first.kind.isChecked = false → check index step = .error (.fault .uncheckedLabel)) := by
  refine ⟨check_ok_iff, refuses_noParams index, refuses_endpoint index, ?_⟩
  intro first rest row params known other
  exact ⟨refuses_kind params known other, check_unworded params known other⟩

def callBogus : Step :=
  { endpoint := .unchecked "readonly", method := "m", params := [⟨.unchecked "bogus", []⟩] }

theorem bogus_call_is_refused_for_its_endpoint_only :
    check (-1) callBogus = .error (.fault .uncheckedLabel) ∧
      Refuses (-1) { callBogus with endpoint := .unchecked "bogus" } .invalidEndpoint none ∧
      Refuses (-1) { callBogus with params := [⟨.string, []⟩] } .invalidParamType (some .id) ∧
      check (-1) { callBogus with params := [⟨.unchecked "id", []⟩, ⟨.unchecked "bogus", []⟩] } = .ok () := by
  obtain ⟨_, _, _, unworded⟩ := steps_are_checked_by_their_first_parameter (-1) callBogus
  obtain ⟨_, _, unknown, _⟩ :=
    steps_are_checked_by_their_first_parameter (-1) { callBogus with endpoint := .unchecked "bogus" }
  obtain ⟨_, _, _, wrong⟩ :=
    steps_are_checked_by_their_first_parameter (-1) { callBogus with params := [⟨.string, []⟩] }
  obtain ⟨met, _⟩ := steps_are_checked_by_their_first_parameter (-1)
    { callBogus with params := [⟨.unchecked "id", []⟩, ⟨.unchecked "bogus", []⟩] }
  refine ⟨?_, ?_, ?_, ?_⟩
  · exact (unworded _ _ ⟨["id"], some .id⟩ rfl rfl (by decide)).2 rfl
  · exact unknown (by decide) (by decide)
  · exact (wrong _ _ ⟨["id"], some .id⟩ rfl rfl (by decide)).1 rfl
  · exact met.mpr ⟨_, _, ⟨["id"], some .id⟩, rfl, rfl, by decide⟩

/-- Not every step that does not meet the contract is refused. -/
theorem not_every_unmet_contract_is_a_refusal :
    ¬ ∀ (index : Int) (step : Step), check index step = .ok () ∨
      ∃ r : Rejection, check index step = .error (.rejected r) ∧ r.index = some index := by
  intro typed
  have bogus : check 3 callBogus = .error (.fault .uncheckedLabel) := rfl
  rcases typed 3 callBogus with met | ⟨r, refused, _⟩
  · cases bogus.symm.trans met
  · cases bogus.symm.trans refused

end Contract

end Rehearsal
