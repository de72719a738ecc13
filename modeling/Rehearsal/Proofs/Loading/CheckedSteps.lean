import Rehearsal.Load
import Rehearsal.Proofs.Outcome

namespace Rehearsal

namespace Schema

variable {α β : Type}

theorem under_ok {part : Part} {x : Checked α} {a : α} : under part x = .ok a ↔ x = .ok a := by
  cases x <;> simp [under]

theorem both_ok {x : Checked α} {y : Checked β} {a : α} {b : β} :
    both x y = .ok (a, b) ↔ x = .ok a ∧ y = .ok b := by
  cases x <;> cases y <;> simp [both]

theorem field_ok {entries : List (Datum × Datum)} {keys : List String} {default : Option α}
    {check : Datum → Checked α} {a : α} (accepted : field entries keys default check = .ok a) :
    (∃ d, check d = .ok a) ∨ default = some a := by
  unfold field at accepted
  split at accepted
  · rename_i d _
    exact .inl ⟨d, under_ok.mp accepted⟩
  · split at accepted
    · cases accepted
      exact .inr rfl
    · cases under_ok.mp accepted
    · cases accepted

theorem each_ok {check : Datum → Checked α} {ds : List Datum} {n : Nat} {as : List α}
    (accepted : each check n ds = .ok as) : ∀ a ∈ as, ∃ d, check d = .ok a := by
  induction ds generalizing n as with
  | nil =>
    cases accepted
    intro a member
    cases member
  | cons d rest ih =>
    unfold each at accepted
    split at accepted
    · rename_i first later checked
      obtain ⟨head, tail⟩ := both_ok.mp checked
      cases accepted
      intro a member
      rcases List.mem_cons.mp member with rfl | member
      · exact ⟨d, under_ok.mp head⟩
      · exact ih tail a member
    · cases accepted

theorem list_ok {check : Datum → Checked α} {d : Datum} {as : List α}
    (accepted : list check d = .ok as) : ∀ a ∈ as, ∃ d, check d = .ok a := by
  unfold list at accepted
  split at accepted
  · exact each_ok accepted
  · exact each_ok accepted
  · exact each_ok accepted
  · cases accepted

theorem oneOf_ok {choices : List (String × α)} {d : Datum} {a : α}
    (accepted : oneOf choices d = .ok a) : ∃ name, (name, a) ∈ choices := by
  unfold oneOf at accepted
  split at accepted
  · cases accepted
  · split at accepted
    · rename_i found
      cases accepted
      obtain ⟨name, _, choice⟩ := Option.bind_eq_some_iff.mp found
      obtain ⟨before, after, split, _⟩ := List.lookup_eq_some_iff.mp choice
      exact ⟨name, by simp [split]⟩
    · cases accepted

theorem wholeWithin_ok {low high : Int} {d : Datum} {n : Int}
    (accepted : wholeWithin low high d = .ok n) : low ≤ n ∧ n ≤ high := by
  unfold wholeWithin at accepted
  split at accepted
  · cases accepted
  · split at accepted
    · cases accepted
    · split at accepted
      · cases accepted
      · cases accepted
        omega

theorem record_ok {name : String} {check : List (Datum × Datum) → Checked α} {d : Datum} {a : α}
    (accepted : record name check d = .ok a) : ∃ entries, check entries = .ok a := by
  unfold record at accepted
  split at accepted
  · rename_i entries _
    exact ⟨entries, accepted⟩
  · cases accepted

end Schema

theorem Endpoint.named_isChecked : ∀ choice ∈ named, choice.2.isChecked = true := by decide

theorem Kind.named_isChecked : ∀ choice ∈ named, choice.2.isChecked = true := by decide

theorem Parameter.check_isChecked {d : Datum} {p : Parameter} (accepted : check d = .ok p) :
    p.isChecked = true := by
  obtain ⟨entries, checked⟩ := Schema.record_ok accepted
  obtain ⟨⟨kind, value⟩, fields, rfl⟩ := Outcome.map_ok.mp checked
  obtain ⟨kindField, _⟩ := Schema.both_ok.mp fields
  rcases Schema.field_ok kindField with ⟨d, choice⟩ | none
  · obtain ⟨name, member⟩ := Schema.oneOf_ok choice
    exact Kind.named_isChecked _ member
  · cases none

namespace Step

theorem check_isChecked {d : Datum} {s : Step} (accepted : check d = .ok s) : s.isChecked = true := by
  obtain ⟨entries, checked⟩ := Schema.record_ok accepted
  obtain ⟨⟨endpoint, method, maxUnits, params, callerKey⟩, fields, rfl⟩ := Outcome.map_ok.mp checked
  obtain ⟨endpointField, fields⟩ := Schema.both_ok.mp fields
  obtain ⟨_, fields⟩ := Schema.both_ok.mp fields
  obtain ⟨budgetField, fields⟩ := Schema.both_ok.mp fields
  obtain ⟨paramsField, _⟩ := Schema.both_ok.mp fields
  have endpointChecked : endpoint.isChecked = true := by
    rcases Schema.field_ok endpointField with ⟨d, choice⟩ | none
    · obtain ⟨name, member⟩ := Schema.oneOf_ok choice
      exact Endpoint.named_isChecked _ member
    · cases none
  have budget : 0 ≤ maxUnits ∧ maxUnits ≤ maxBudget := by
    rcases Schema.field_ok budgetField with ⟨d, within⟩ | default
    · exact Schema.wholeWithin_ok within
    · cases default
      decide
  have kinds : params.all Parameter.isChecked = true := by
    rw [List.all_eq_true]
    intro p member
    rcases Schema.field_ok paramsField with ⟨d, items⟩ | default
    · obtain ⟨d, item⟩ := Schema.list_ok items p member
      exact Parameter.check_isChecked item
    · cases default
      cases member
  simp [isChecked, endpointChecked, budget, kinds]

theorem endpoint_isChecked {s : Step} (checked : s.isChecked = true) : s.endpoint.isChecked = true := by
  simp only [isChecked, Bool.and_eq_true] at checked
  exact checked.1.1.1

theorem param_isChecked {s : Step} {p : Parameter} (checked : s.isChecked = true) (member : p ∈ s.params) :
    p.kind.isChecked = true := by
  simp only [isChecked, Bool.and_eq_true, List.all_eq_true] at checked
  exact checked.1.1.2 p member

theorem budget_bounds {s : Step} (checked : s.isChecked = true) :
    0 ≤ s.maxUnits ∧ s.maxUnits ≤ maxBudget := by
  simp only [isChecked, Bool.and_eq_true, decide_eq_true_eq] at checked
  exact ⟨checked.1.2, checked.2⟩

theorem budget_short {s : Step} (checked : s.isChecked = true) :
    s.maxUnits.natAbs < 10 ^ Decimal.maxDigits := by
  obtain ⟨low, high⟩ := budget_bounds checked
  have within : s.maxUnits.natAbs < 2 ^ 64 := by
    have bound : maxBudget = 2 ^ 64 - 1 := rfl
    omega
  calc s.maxUnits.natAbs < 2 ^ 64 := within
    _ ≤ 10 ^ 20 := by decide
    _ ≤ 10 ^ Decimal.maxDigits := Nat.pow_le_pow_right (by decide) (by decide)

end Step

namespace Load

theorem stepOfData_isChecked {d : Datum} {s : Step} (loaded : stepOfData d = .ok s) :
    s.isChecked = true := by
  unfold stepOfData at loaded
  split at loaded
  · split at loaded
    · rename_i accepted
      cases loaded
      exact Step.check_isChecked accepted
    · split at loaded
      · obtain ⟨_, _, refused⟩ := Outcome.bind_ok.mp loaded
        cases refused
      · cases loaded
  · cases loaded

theorem step_isChecked {files : Files} {text file : Option Text} {s : Step}
    (loaded : step files text file = .ok s) : s.isChecked = true := by
  unfold step at loaded
  split at loaded
  · obtain ⟨_, _, made⟩ := Outcome.bind_ok.mp loaded
    exact stepOfData_isChecked made
  · obtain ⟨_, _, parsed⟩ := Outcome.bind_ok.mp loaded
    obtain ⟨_, _, made⟩ := Outcome.bind_ok.mp parsed
    exact stepOfData_isChecked made
  · cases loaded

end Load

end Rehearsal
