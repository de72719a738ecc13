import Rehearsal.Proofs.Loading.StepReadBack
import Rehearsal.Response

namespace Rehearsal

namespace Datum

def isPresent : Datum → Bool
  | null => false
  | _ => true

variable {entries : List (String × Datum)} {key : String} {d : Datum}

theorem lookup_keyed_unbound (unbound : key ∉ entries.map Prod.fst) :
    lookup key (Json.keyed entries) = none := by
  induction entries with
  | nil => rfl
  | cons entry rest ih =>
    rw [List.map_cons, List.mem_cons, not_or] at unbound
    have other : (entry.1 == key) = false := beq_eq_false_iff_ne.mpr (Ne.symm unbound.1)
    show (if entry.1 == key then some entry.2 else lookup key (Json.keyed rest)) = none
    rw [other]
    exact ih unbound.2

theorem lookup_keyed_bound (different : (entries.map Prod.fst).Nodup) (member : (key, d) ∈ entries) :
    lookup key (Json.keyed entries) = some d := by
  induction entries with
  | nil => cases member
  | cons entry rest ih =>
    rw [List.map_cons, List.nodup_cons] at different
    show (if entry.1 == key then some entry.2 else lookup key (Json.keyed rest)) = some d
    rcases List.mem_cons.mp member with rfl | later
    · rw [beq_self_eq_true]
      rfl
    · have other : (entry.1 == key) = false := by
        rw [beq_eq_false_iff_ne]
        rintro rfl
        exact different.1 (List.mem_map.mpr ⟨_, later, rfl⟩)
      rw [other]
      exact ih different.2 later

end Datum

def kept (fields : List (String × Datum)) : List (String × Datum) :=
  fields.filter fun field => field.2.isPresent

section Fields

variable {fields : List (String × Datum)} (different : (fields.map Prod.fst).Nodup) {key : String}

theorem dropAbsent_keyed (fields : List (String × Datum)) :
    dropAbsent (Json.keyed fields) = Json.keyed (kept fields) := by
  show (Json.keyed fields).filter (fun entry => entry.2.isPresent) = _
  rw [Json.keyed, List.filter_map]
  rfl

include different

theorem kept_nodup : ((kept fields).map Prod.fst).Nodup :=
  List.Nodup.sublist (List.Sublist.map Prod.fst List.filter_sublist) different

theorem lookup_present {d : Datum} (member : (key, d) ∈ fields) (present : d.isPresent = true) :
    Datum.lookup key (Json.keyed (kept fields)) = some d := by
  apply Datum.lookup_keyed_bound (kept_nodup different)
  exact List.mem_filter.mpr ⟨member, present⟩

theorem lookup_absent (member : (key, .null) ∈ fields) :
    Datum.lookup key (Json.keyed (kept fields)) = none := by
  apply Datum.lookup_keyed_unbound
  intro bound
  obtain ⟨⟨name, d⟩, among, rfl⟩ := List.mem_map.mp bound
  obtain ⟨inside, present⟩ := List.mem_filter.mp among
  have null := Datum.lookup_keyed_bound different member
  have same := (Datum.lookup_keyed_bound different inside).symm.trans null
  cases same
  cases present

end Fields

def Datum.ofOption {α : Type} (write : α → Datum) (value : Option α) : Datum :=
  (value.map write).getD .null

namespace Schema

variable {α : Type} {check : Datum → Checked α}

theorem field_required {fields : List (String × Datum)} (different : (fields.map Prod.fst).Nodup)
    {key : String} (d : Datum) {default : Option α} {a : α} (member : (key, d) ∈ fields)
    (present : d.isPresent = true) (accepted : check d = .ok a) :
    field (Json.keyed (kept fields)) [key] default check = .ok a :=
  field_bound (lookup_present different member present) accepted

theorem field_optional {fields : List (String × Datum)} (different : (fields.map Prod.fst).Nodup)
    {key : String} (write : α → Datum) {value : Option α}
    (member : (key, Datum.ofOption write value) ∈ fields)
    (present : ∀ a, (write a).isPresent = true)
    (accepted : ∀ a, value = some a → check (write a) = .ok a) :
    field (Json.keyed (kept fields)) [key] (some none) (optional check) = .ok value := by
  cases value with
  | none =>
    apply field_unbound
    rintro name (_ | ⟨_, _ | _⟩)
    exact lookup_absent different member
  | some a =>
    have bound := lookup_present different member (present a)
    have given : optional check (write a) = .ok (some a) := by
      have solid := present a
      have read := accepted a rfl
      cases form : write a with
      | null =>
        rw [form] at solid
        cases solid
      | _ =>
        rw [form] at read
        simp only [optional, read]
        rfl
    exact field_bound bound given

end Schema

theorem ofOption_readsBack {α : Type} {write : α → Datum} {value : Option α}
    (back : ∀ a, value = some a → Json.ReadsBack (write a))
    (present : (Datum.ofOption write value).isPresent = true) :
    Json.ReadsBack (Datum.ofOption write value) := by
  cases value with
  | none => cases present
  | some a => exact back a rfl

theorem kept_readsBack {fields : List (String × Datum)} (different : (fields.map Prod.fst).Nodup)
    (back : ∀ field ∈ fields, field.2.isPresent = true → Json.ReadsBack field.2) :
    Json.ReadsBack (.map (Json.keyed (kept fields))) := by
  apply Json.ReadsBack.map (kept_nodup different)
  intro field member
  obtain ⟨inside, present⟩ := List.mem_filter.mp member
  exact back field inside present

theorem dropAbsent_printed {entries : List (Datum × Datum)}
    (named : ∀ e ∈ entries, ∃ key, e.1 = .text key) (printed : ∀ e ∈ entries, Json.Printed e.2) :
    Json.Printed (.map (dropAbsent entries)) :=
  .map (fun e member => named e (List.mem_of_mem_filter member))
    fun e member => printed e (List.mem_of_mem_filter member)

theorem optionalEntry_printed {α : Type} (key : String) {toDatum : α → Datum}
    (printed : ∀ a, Json.Printed (toDatum a)) (value : Option α) :
    Json.Printed (optionalEntry key toDatum value).2 := by
  cases value with
  | none => exact .null
  | some a => exact printed a

theorem Datum.ofText_isPresent (t : Text) : (ofText t).isPresent = true := by cases t <;> rfl

/-- A whole number that can be written and read. -/
def IsShort (i : Int) : Prop := i.natAbs < 10 ^ Decimal.maxDigits

namespace StepResult

structure Short (r : StepResult) : Prop where
  timestamp : IsShort r.timestamp
  balance : ∀ i, r.balance = some i → IsShort i

def fields (r : StepResult) : List (String × Datum) :=
  [("id", Datum.ofOption .ofText r.id), ("msg", Datum.ofOption .ofText r.msg),
    ("timestamp", .int r.timestamp),
    ("response", Datum.ofOption (fun b => .text (Base64.encode b)) r.response),
    ("balance", Datum.ofOption .int r.balance)]

theorem entries_fields (r : StepResult) : r.entries = Json.keyed r.fields := rfl

theorem fields_different (r : StepResult) : (r.fields.map Prod.fst).Nodup := by
  show ["id", "msg", "timestamp", "response", "balance"].Nodup
  decide

theorem toDatum_readsBack {r : StepResult} (short : r.Short)
    (whole : ∀ t ∈ r.texts, t.isWhole = true) :
    Json.ReadsBack (.map (Json.keyed (kept r.fields))) := by
  rw [texts, List.forall_mem_append] at whole
  apply kept_readsBack r.fields_different
  simp only [fields, List.forall_mem_cons]
  refine ⟨?_, ?_, ?_, ?_, ?_, by simp⟩
  · exact ofOption_readsBack fun a given => .ofText (whole.1 a (by simp [given]))
  · exact ofOption_readsBack fun a given => .ofText (whole.2 a (by simp [given]))
  · exact fun _ => .int short.timestamp
  · exact ofOption_readsBack fun a _ => .text (Base64.encode a)
  · exact ofOption_readsBack fun i given => .int (short.balance i given)

theorem check_toDatum (r : StepResult) : check (.map (Json.keyed (kept r.fields))) = .ok r := by
  have different := r.fields_different
  have id : Schema.field (Json.keyed (kept r.fields)) ["id"] (some none)
      (Schema.optional Schema.text) = .ok r.id :=
    Schema.field_optional different .ofText (by simp [fields]) Datum.ofText_isPresent fun t _ =>
      Schema.text_ofText t
  have msg : Schema.field (Json.keyed (kept r.fields)) ["msg"] (some none)
      (Schema.optional Schema.text) = .ok r.msg :=
    Schema.field_optional different .ofText (by simp [fields]) Datum.ofText_isPresent fun t _ =>
      Schema.text_ofText t
  have timestamp : Schema.field (Json.keyed (kept r.fields)) ["timestamp"] (some 0) Schema.whole =
      .ok r.timestamp :=
    Schema.field_required different (.int r.timestamp) (by simp [fields]) rfl rfl
  have response : Schema.field (Json.keyed (kept r.fields)) ["response"] (some none) checkPayload =
      .ok r.response :=
    Schema.field_optional different (fun bytes => .text (Base64.encode bytes)) (by simp [fields])
      (fun _ => rfl) fun bytes _ => Parameter.checkValue_encode bytes
  have balance : Schema.field (Json.keyed (kept r.fields)) ["balance"] (some none)
      (Schema.optional Schema.whole) = .ok r.balance :=
    Schema.field_optional different .int (by simp [fields]) (fun _ => rfl) fun _ _ => rfl
  have all := Schema.both_ok.mpr ⟨id, Schema.both_ok.mpr ⟨msg, Schema.both_ok.mpr ⟨timestamp,
    Schema.both_ok.mpr ⟨response, balance⟩⟩⟩⟩
  rw [check, Schema.record_map, all]
  rfl

end StepResult

namespace Response

def isChecked (r : Response) : Bool := r.endpoint.all Endpoint.isChecked

structure Short (r : Response) : Prop where
  id : IsShort r.id
  result : r.result.Short

def fields (r : Response) : List (String × Datum) :=
  [("id", .int r.id), ("endpoint", Datum.ofOption (fun e => .text e.label) r.endpoint),
    ("method", .ofText r.method), ("error", Datum.ofOption .ofText r.error),
    ("error_kind", Datum.ofOption .ofText r.errorKind),
    ("result", .map (Json.keyed (kept r.result.fields)))]

theorem toDatum_fields (r : Response) : r.toDatum = .map (Json.keyed (kept r.fields)) := by
  have entries : r.entries (Json.keyed (kept r.result.fields)) = Json.keyed r.fields := rfl
  rw [toDatum, StepResult.entries_fields, dropAbsent_keyed, entries, dropAbsent_keyed]

theorem fields_different (r : Response) : (r.fields.map Prod.fst).Nodup := by
  show ["id", "endpoint", "method", "error", "error_kind", "result"].Nodup
  decide

def IsWhole (r : Response) : Prop := ∀ t ∈ r.texts, t.isWhole = true

instance (r : Response) : Decidable r.IsWhole :=
  inferInstanceAs (Decidable (∀ t ∈ r.texts, t.isWhole = true))

theorem toDatum_readsBack {r : Response} (short : r.Short) (whole : r.IsWhole) :
    Json.ReadsBack r.toDatum := by
  simp only [IsWhole, texts, List.forall_mem_cons, List.forall_mem_append] at whole
  obtain ⟨⟨⟨method, error⟩, errorKind⟩, result⟩ := whole
  rw [toDatum_fields]
  apply kept_readsBack r.fields_different
  simp only [fields, List.forall_mem_cons]
  refine ⟨?_, ?_, ?_, ?_, ?_, ?_, by simp⟩
  · exact fun _ => .int short.id
  · exact ofOption_readsBack fun e _ => .text e.label
  · exact fun _ => .ofText method
  · exact ofOption_readsBack fun a given => .ofText (error a (by simp [given]))
  · exact ofOption_readsBack fun a given => .ofText (errorKind a (by simp [given]))
  · exact fun _ => StepResult.toDatum_readsBack short.result result

theorem check_toDatum {r : Response} (checked : r.isChecked = true) : check r.toDatum = .ok r := by
  have different := r.fields_different
  have id : Schema.field (Json.keyed (kept r.fields)) ["id"] none Schema.whole = .ok r.id :=
    Schema.field_required different (.int r.id) (by simp [fields]) rfl rfl
  have endpoint : Schema.field (Json.keyed (kept r.fields)) ["endpoint"] (some none)
      (Schema.optional (Schema.oneOf Endpoint.named)) = .ok r.endpoint := by
    apply Schema.field_optional different (fun e => .text e.label) (by simp [fields]) fun _ => rfl
    intro e given
    rw [isChecked, given] at checked
    exact Endpoint.oneOf_label checked
  have method : Schema.field (Json.keyed (kept r.fields)) ["method"] (some (.whole "")) Schema.text =
      .ok r.method :=
    Schema.field_required different (.ofText r.method) (by simp [fields]) (Datum.ofText_isPresent _)
      (Schema.text_ofText _)
  have error : Schema.field (Json.keyed (kept r.fields)) ["error"] (some none)
      (Schema.optional Schema.text) = .ok r.error :=
    Schema.field_optional different .ofText (by simp [fields]) Datum.ofText_isPresent fun t _ =>
      Schema.text_ofText t
  have errorKind : Schema.field (Json.keyed (kept r.fields)) ["error_kind"] (some none)
      (Schema.optional Schema.text) = .ok r.errorKind :=
    Schema.field_optional different .ofText (by simp [fields]) Datum.ofText_isPresent fun t _ =>
      Schema.text_ofText t
  have result : Schema.field (Json.keyed (kept r.fields)) ["result"] (some {}) StepResult.check =
      .ok r.result :=
    Schema.field_required different (.map (Json.keyed (kept r.result.fields))) (by simp [fields]) rfl
      (StepResult.check_toDatum r.result)
  have all := Schema.both_ok.mpr ⟨id, Schema.both_ok.mpr ⟨endpoint, Schema.both_ok.mpr ⟨method,
    Schema.both_ok.mpr ⟨error, Schema.both_ok.mpr ⟨errorKind, result⟩⟩⟩⟩⟩
  rw [check, toDatum_fields, Schema.record_map, all]
  rfl

theorem toDatum_printed {r : Response} (whole : r.IsWhole) : Json.Printed r.toDatum := by
  simp only [IsWhole, texts, StepResult.texts, List.forall_mem_cons, List.forall_mem_append] at whole
  obtain ⟨⟨⟨method, error⟩, errorKind⟩, id, msg⟩ := whole
  have text {t : Text} (whole : t.isWhole = true) : Json.Printed (.ofText t) :=
    (Json.ReadsBack.ofText whole).printed
  have optional (key : String) {value : Option Text} (whole : ∀ t ∈ value.toList, t.isWhole = true) :
      Json.Printed (optionalEntry key .ofText value).2 := by
    cases value with
    | none => exact .null
    | some t => exact text (whole t (by simp))
  have result : Json.Printed (.map (dropAbsent r.result.entries)) := by
    apply dropAbsent_printed
    · simp [StepResult.entries, optionalEntry]
    · simp only [StepResult.entries, List.forall_mem_cons]
      exact ⟨optional _ id, optional _ msg, .int _, optionalEntry_printed _ (fun _ => .text _) _,
        optionalEntry_printed _ .int _, by simp⟩
  apply dropAbsent_printed
  · simp [entries, optionalEntry]
  · simp only [entries, List.forall_mem_cons]
    exact ⟨.int _, optionalEntry_printed _ (fun _ => .text _) _, text method, optional _ error,
      optional _ errorKind, result, by simp⟩

variable {r : Response} {line : String}

theorem wire_ok_iff : (∃ line, r.wire = .ok line) ↔ r.IsWhole := by
  simp [wire, Json.wire_ok, IsWhole]

theorem wire_noControl (written : r.wire = .ok line) {c : Char} (control : ¬ ' ' ≤ c) :
    c ∉ line.toList := by
  obtain ⟨whole, rfl⟩ := Json.wire_ok.mp written
  rw [Json.render, String.toList_ofList]
  exact (toDatum_printed whole).notMem control

theorem wire_unbroken (written : r.wire = .ok line) : '\n' ∉ line.toList :=
  wire_noControl written (by decide)

theorem read_wire (short : r.Short) (written : r.wire = .ok line) : Json.read line = .ok r.toDatum := by
  obtain ⟨whole, rfl⟩ := Json.wire_ok.mp written
  exact (toDatum_readsBack short whole).read_render

def ofWire? (line : String) : Option Response :=
  match Json.read line with
  | .ok d => (check d).toOption
  | .error _ => none

theorem ofWire_wire (checked : r.isChecked = true) (short : r.Short) (written : r.wire = .ok line) :
    ofWire? line = some r := by
  simp only [ofWire?, read_wire short written, check_toDatum checked]
  rfl

end Response

end Rehearsal
