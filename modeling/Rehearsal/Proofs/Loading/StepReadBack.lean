import Rehearsal.Proofs.Bytes.Base64RoundTrip
import Rehearsal.Proofs.Json.ReadBack
import Rehearsal.Proofs.Loading.CheckedSteps

namespace Rehearsal

namespace Json

theorem wire_ok {texts : List Text} {d : Datum} {s : String} :
    wire texts d = .ok s ↔ (∀ t ∈ texts, t.isWhole = true) ∧ s = render .wire d := by
  unfold wire
  cases torn : texts.findSome? Text.tear? with
  | none =>
    have whole : ∀ t ∈ texts, t.isWhole = true := fun t member =>
      Text.tear?_eq_none.mp (List.findSome?_eq_none_iff.mp torn t member)
    constructor
    · rintro ⟨⟩
      exact ⟨whole, rfl⟩
    · rintro ⟨_, rfl⟩
      rfl
  | some tear =>
    obtain ⟨t, member, torn⟩ := List.exists_of_findSome?_eq_some torn
    have broken : t.isWhole ≠ true := fun whole => by
      rw [Text.tear?_eq_none.mpr whole] at torn
      cases torn
    simp only [reduceCtorEq, false_iff]
    exact fun whole => broken (whole.1 t member)

theorem ReadsBack.ofText {t : Text} (whole : t.isWhole = true) : ReadsBack (.ofText t) := by
  obtain ⟨s, rfl⟩ := Text.isWhole_iff.mp whole
  exact .text s

end Json

namespace Schema

theorem text_ofText (t : Text) : text (.ofText t) = .ok t := by
  cases t with
  | whole s => rfl
  | torn points isTorn => exact congrArg Except.ok (Text.ofPoints_torn isTorn)

theorem optional_ofText (t : Text) : optional text (.ofText t) = .ok (some t) := by
  have accepted := text_ofText t
  cases t with
  | whole s => rfl
  | torn points isTorn =>
    show (text (.unpaired points)).map some = _
    rw [show text (.unpaired points) = _ from accepted]
    rfl

variable {α : Type} {check : Datum → Checked α}

theorem field_bound {entries : List (Datum × Datum)} {key : String} {others : List String} {d : Datum}
    {default : Option α} {a : α} (bound : Datum.lookup key entries = some d)
    (accepted : check d = .ok a) : field entries (key :: others) default check = .ok a := by
  simp only [field, List.findSome?_cons, bound, Option.map_some]
  exact under_ok.mpr accepted

theorem field_unbound {entries : List (Datum × Datum)} {keys : List String}
    (unbound : ∀ key ∈ keys, Datum.lookup key entries = none) (a : α) :
    field entries keys (some a) check = .ok a := by
  have missing : keys.findSome? (fun key => (Datum.lookup key entries).map fun d => (key, d)) = none := by
    rw [List.findSome?_eq_none_iff]
    intro key member
    rw [unbound key member, Option.map_none]
  rw [field, missing]

theorem record_map (name : String) (check : List (Datum × Datum) → Checked α)
    (entries : List (Datum × Datum)) : record name check (.map entries) = check entries := rfl

theorem each_map {write : α → Datum} {as : List α} (accepted : ∀ a ∈ as, check (write a) = .ok a)
    (n : Nat) : each check n (as.map write) = .ok as := by
  induction as generalizing n with
  | nil => rfl
  | cons a rest ih =>
    have first : under (.index n) (check (write a)) = .ok a :=
      under_ok.mpr (accepted a List.mem_cons_self)
    have later := ih (fun b member => accepted b (.tail _ member)) (n + 1)
    rw [List.map_cons, each, both_ok.mpr ⟨first, later⟩]

end Schema

namespace Endpoint

theorem oneOf_label {e : Endpoint} (checked : e.isChecked = true) :
    Schema.oneOf named (.text e.label) = .ok e := by
  cases e with
  | key | execute | readonly => rfl
  | unchecked => cases checked

end Endpoint

namespace Kind

theorem oneOf_label {k : Kind} (checked : k.isChecked = true) :
    Schema.oneOf named (.text k.label) = .ok k := by
  cases k with
  | string | id | ed25519 | secp256k1 | u64 | bool => rfl
  | unchecked => cases checked

end Kind

namespace Parameter

def fields (p : Parameter) : List (String × Datum) :=
  [("type", .text p.kind.label), ("value", .text (Base64.encode p.value))]

theorem toDatum_fields (p : Parameter) : p.toDatum = .map (Json.keyed p.fields) := rfl

theorem toDatum_readsBack (p : Parameter) : Json.ReadsBack p.toDatum := by
  have names : p.fields.map Prod.fst = ["type", "value"] := rfl
  refine Json.ReadsBack.map (by rw [names]; decide) ?_
  simp [fields, Json.ReadsBack.text]

theorem checkValue_encode (value : Bytes) : checkValue (.text (Base64.encode value)) = .ok value := by
  have ascii : (Base64.encode value).toList.all (fun c => c.toNat < 0x80) = true := by
    rw [Base64.encode, String.toList_ofList, List.all_eq_true]
    intro c member
    exact decide_eq_true (Base64.encodeBytes_ascii value c member)
  rw [checkValue, if_pos ascii, Base64.decode_encode]

theorem check_toDatum {p : Parameter} (checked : p.isChecked = true) : check p.toDatum = .ok p := by
  have kind : Schema.field (Json.keyed p.fields) ["type"] none (Schema.oneOf Kind.named) = .ok p.kind :=
    Schema.field_bound rfl (Kind.oneOf_label checked)
  have value : Schema.field (Json.keyed p.fields) ["value"] (some []) checkValue = .ok p.value :=
    Schema.field_bound rfl (checkValue_encode p.value)
  rw [check, toDatum_fields, Schema.record_map, Schema.both_ok.mpr ⟨kind, value⟩]
  rfl

end Parameter

namespace Step

def fields (s : Step) : List (String × Datum) :=
  [("endpoint", .text s.endpoint.label), ("method", .ofText s.method), ("maxUnits", .int s.maxUnits),
    ("params", .list (s.params.map Parameter.toDatum))] ++
    (s.callerKey.map fun key => ("callerKey", Datum.ofText key)).toList

theorem toDatum_fields (s : Step) : s.toDatum = .map (Json.keyed s.fields) := by
  cases key : s.callerKey <;> simp [toDatum, fields, Json.keyed, key]

theorem budget_readsBack {s : Step} (checked : s.isChecked = true) : Json.ReadsBack (.int s.maxUnits) :=
  .int (budget_short checked)

theorem toDatum_readsBack {s : Step} (checked : s.isChecked = true)
    (whole : ∀ t ∈ s.texts, t.isWhole = true) : Json.ReadsBack s.toDatum := by
  rw [texts, List.forall_mem_cons] at whole
  obtain ⟨method, callerKey⟩ := whole
  rw [toDatum_fields]
  apply Json.ReadsBack.map
  · cases key : s.callerKey with
    | none =>
      have names : s.fields.map Prod.fst = ["endpoint", "method", "maxUnits", "params"] := by
        simp [fields, key]
      rw [names]
      decide
    | some _ =>
      have names : s.fields.map Prod.fst = ["endpoint", "method", "maxUnits", "params", "callerKey"] := by
        simp [fields, key]
      rw [names]
      decide
  · have params : Json.ReadsBack (.list (s.params.map Parameter.toDatum)) := by
      apply Json.ReadsBack.list
      intro d member
      obtain ⟨p, _, rfl⟩ := List.mem_map.mp member
      exact p.toDatum_readsBack
    have key : ∀ e ∈ (s.callerKey.map fun key => ("callerKey", Datum.ofText key)).toList,
        Json.ReadsBack e.2 := by
      cases given : s.callerKey with
      | none => simp
      | some key => simpa using Json.ReadsBack.ofText (callerKey key (by simp [given]))
    simp only [fields, List.forall_mem_append, List.forall_mem_cons]
    exact ⟨⟨.text _, .ofText method, budget_readsBack checked, params, by simp⟩, key⟩

theorem wholeWithin_budget {s : Step} (checked : s.isChecked = true) :
    Schema.wholeWithin 0 maxBudget (.int s.maxUnits) = .ok s.maxUnits := by
  obtain ⟨low, high⟩ := budget_bounds checked
  simp only [Schema.wholeWithin, Schema.whole]
  rw [if_neg (by omega), if_neg (by omega)]

theorem field_callerKey (s : Step) :
    Schema.field (Json.keyed s.fields) ["callerKey", "caller_key"] (some none)
      (Schema.optional Schema.text) = .ok s.callerKey := by
  cases key : s.callerKey with
  | none =>
    apply Schema.field_unbound
    simp [fields, key, Json.keyed, Datum.lookup]
  | some text =>
    have bound : Datum.lookup "callerKey" (Json.keyed s.fields) = some (.ofText text) := by
      simp [fields, key, Json.keyed, Datum.lookup]
    exact Schema.field_bound bound (Schema.optional_ofText text)

theorem check_toDatum {s : Step} (checked : s.isChecked = true) : check s.toDatum = .ok s := by
  have endpoint : Schema.field (Json.keyed s.fields) ["endpoint"] none
      (Schema.oneOf Endpoint.named) = .ok s.endpoint :=
    Schema.field_bound rfl (Endpoint.oneOf_label (endpoint_isChecked checked))
  have method : Schema.field (Json.keyed s.fields) ["method"] (some (.whole "")) Schema.text =
      .ok s.method := Schema.field_bound rfl (Schema.text_ofText s.method)
  have budget : Schema.field (Json.keyed s.fields) ["maxUnits", "max_units"] (some 0)
      (Schema.wholeWithin 0 maxBudget) = .ok s.maxUnits :=
    Schema.field_bound rfl (wholeWithin_budget checked)
  have params : Schema.field (Json.keyed s.fields) ["params"] (some [])
      (Schema.list Parameter.check) = .ok s.params := by
    have items : Schema.list Parameter.check (.list (s.params.map Parameter.toDatum)) = .ok s.params :=
      Schema.each_map (fun p member => Parameter.check_toDatum (param_isChecked checked member)) 0
    exact Schema.field_bound rfl items
  have fields := Schema.both_ok.mpr ⟨endpoint, Schema.both_ok.mpr ⟨method,
    Schema.both_ok.mpr ⟨budget, Schema.both_ok.mpr ⟨params, s.field_callerKey⟩⟩⟩⟩
  rw [check, toDatum_fields, Schema.record_map, fields]
  rfl

end Step

namespace Load

theorem stepOfData_toDatum {s : Step} (checked : s.isChecked = true) : stepOfData s.toDatum = .ok s := by
  have accepted := Step.check_toDatum checked
  rw [Step.toDatum_fields] at accepted ⊢
  simp only [stepOfData, Datum.opened, accepted]

theorem parseJson_render {d : Datum} (back : Json.ReadsBack d) :
    parseJson (Json.render .wire d) = .ok d := by
  have read : Json.readText (Json.render .wire d) = .ok d := back.read_render
  rw [parseJson, read]

end Load

end Rehearsal
