import Rehearsal.Proofs.Loading.LoadErrors

namespace Rehearsal

namespace Datum

theorem isSameKey_text {k : Datum} {key : String} : isSameKey k (.text key) = true ↔ k = .text key := by
  unfold isSameKey
  cases number : keyNumber? k with
  | some n =>
    have other : k ≠ .text key := by
      rintro rfl
      cases number
    simp [keyNumber?, other]
  | none => cases k <;> simp [keyNumber?]

theorem lookup_putEntry (key other : String) (value : Datum) (entries : List (Datum × Datum)) :
    lookup key (putEntry (.text other) value entries) =
      if key = other then some value else lookup key entries := by
  induction entries with
  | nil =>
    by_cases same : key = other
    · simp [putEntry, lookup, same]
    · simp [putEntry, lookup, same, Ne.symm same]
  | cons entry rest ih =>
    obtain ⟨k, v⟩ := entry
    rw [putEntry]
    by_cases here : k = .text other
    · subst here
      rw [if_pos (isSameKey_text.mpr rfl)]
      by_cases same : key = other
      · simp [lookup, same]
      · simp [lookup, same, Ne.symm same]
    · rw [if_neg fun equal => here (isSameKey_text.mp equal)]
      cases k with
      | text t =>
        by_cases same : t = key
        · subst same
          have apart : t ≠ other := fun equal => here (congrArg Datum.text equal)
          simp [lookup, apart]
        · simp [lookup, same, ih]
      | _ => simp [lookup, ih]

end Datum

namespace Schema

variable {α β : Type} {x : Checked α} {y : Checked β} {check : Datum → Checked α} {P Q : Issue → Prop}

/-- If a check fails, then also with an issue of a certain form. -/
def Blames (P : Issue → Prop) (x : Checked α) : Prop := ∀ issues, x = .error issues → ∃ i ∈ issues, P i

def Explained (x : Checked α) : Prop := Blames (fun _ => True) x

theorem blames_ok (a : α) : Blames P (.ok a : Checked α) := nofun

theorem blames_refuse {cause : Cause} (blamed : P ⟨[], cause⟩) : Blames P (refuse cause : Checked α) := by
  rintro issues ⟨⟩
  exact ⟨_, List.mem_singleton_self _, blamed⟩

theorem explained_refuse (cause : Cause) : Explained (refuse cause : Checked α) := blames_refuse trivial

theorem Blames.mono (blames : Blames P x) (weaker : ∀ i, P i → Q i) : Blames Q x := by
  intro issues failed
  obtain ⟨i, member, blamed⟩ := blames issues failed
  exact ⟨i, member, weaker i blamed⟩

theorem Blames.under {part : Part} (blames : Blames (fun i => P { i with path := part :: i.path }) x) :
    Blames P (under part x) := by
  intro issues failed
  cases x with
  | ok a => cases failed
  | error inner =>
    cases failed
    obtain ⟨i, member, blamed⟩ := blames inner rfl
    exact ⟨_, List.mem_map_of_mem member, blamed⟩

theorem Blames.both (first : Blames P x) (second : Blames P y) : Blames P (both x y) := by
  intro issues failed
  cases x with
  | ok a =>
    cases y with
    | ok b => cases failed
    | error later =>
      cases failed
      exact second _ rfl
  | error earlier =>
    obtain ⟨i, member, blamed⟩ := first earlier rfl
    refine ⟨i, ?_, blamed⟩
    cases y with
    | ok b =>
      cases failed
      exact member
    | error later =>
      cases failed
      exact List.mem_append_left later member

theorem Blames.map (blames : Blames P x) (f : α → β) : Blames P (x.map f) := by
  intro issues failed
  cases x with
  | ok a => cases failed
  | error inner =>
    cases failed
    exact blames _ rfl

theorem each_explained (explained : ∀ d, Explained (check d)) (n : Nat) (ds : List Datum) :
    Explained (each check n ds) := by
  induction ds generalizing n with
  | nil => exact blames_ok _
  | cons d rest ih =>
    have first : Explained (Schema.under (.index n) (check d)) :=
      .under (P := fun _ => True) (explained d)
    have both := first.both (ih (n + 1))
    unfold each
    split
    · exact blames_ok _
    · rename_i inner failed
      rintro issues ⟨⟩
      exact both _ failed

theorem list_explained (explained : ∀ d, Explained (check d)) (d : Datum) : Explained (list check d) := by
  unfold list
  split
  · exact each_explained explained 0 _
  · exact each_explained explained 0 _
  · exact each_explained explained 0 _
  · exact explained_refuse _

theorem field_blames (explained : ∀ d, Explained (check d)) (entries : List (Datum × Datum))
    {keys : List String} (named : keys ≠ []) (default : Option α) :
    Blames (fun i => ∃ key ∈ keys, i.path.head? = some (.key key)) (field entries keys default check) := by
  unfold field
  split
  · rename_i key d found
    obtain ⟨k, member, held⟩ := List.exists_of_findSome?_eq_some found
    obtain ⟨_, _, same⟩ := Option.map_eq_some_iff.mp held
    cases same
    exact .under ((explained d).mono fun _ _ => ⟨key, member, rfl⟩)
  · split
    · exact blames_ok _
    · exact .under (blames_refuse ⟨_, List.mem_cons_self, rfl⟩)
    · exact absurd rfl named

theorem field_explained (explained : ∀ d, Explained (check d)) (entries : List (Datum × Datum))
    {keys : List String} (named : keys ≠ []) (default : Option α) :
    Explained (field entries keys default check) :=
  (field_blames explained entries named default).mono fun _ _ => trivial

theorem optional_explained (explained : ∀ d, Explained (check d)) (d : Datum) :
    Explained (optional check d) := by
  unfold optional
  split
  · exact blames_ok _
  · exact (explained d).map some

theorem wholeText_explained (d : Datum) : Explained (wholeText d) := by
  unfold wholeText
  split
  · exact blames_ok _
  · split
    · exact blames_ok _
    · exact explained_refuse _
  · exact explained_refuse _
  · exact explained_refuse _

theorem text_explained (d : Datum) : Explained (text d) := by
  unfold text
  split
  · exact blames_ok _
  · exact (wholeText_explained _).map _

theorem bytes_explained (d : Datum) : Explained (bytes d) := by
  unfold bytes
  split
  · exact blames_ok _
  · exact blames_ok _
  · exact explained_refuse _
  · exact explained_refuse _

theorem oneOf_explained (choices : List (String × α)) (d : Datum) : Explained (oneOf choices d) := by
  unfold oneOf
  split
  · exact explained_refuse _
  · split
    · exact blames_ok _
    · exact explained_refuse _

theorem wholeOfText_explained (s : String) : Explained (wholeOfText s) := by
  unfold wholeOfText
  split
  · exact blames_ok _
  · exact explained_refuse _
  · split
    · exact blames_ok _
    · exact explained_refuse _

theorem whole_explained (d : Datum) : Explained (whole d) := by
  unfold whole
  split
  case h_1 | h_2 => exact blames_ok _
  case h_5 => exact wholeOfText_explained _
  case h_4 =>
    split
    · exact explained_refuse _
    · split
      · exact explained_refuse _
      · split
        · exact blames_ok _
        · exact explained_refuse _
  case h_6 =>
    split
    · exact wholeOfText_explained _
    · exact explained_refuse _
  case h_3 | h_7 | h_8 => exact explained_refuse _

theorem wholeWithin_explained (low high : Int) (d : Datum) : Explained (wholeWithin low high d) := by
  unfold wholeWithin
  split
  · rename_i inner failed
    rintro issues ⟨⟩
    exact whole_explained d _ failed
  · split
    · exact explained_refuse _
    · split
      · exact explained_refuse _
      · exact blames_ok _

theorem record_explained {check : List (Datum × Datum) → Checked α}
    (explained : ∀ entries, Explained (check entries)) (name : String) (d : Datum) :
    Explained (record name check d) := by
  unfold record
  split
  · exact explained _
  · exact explained_refuse _

theorem field_congr {entries others : List (Datum × Datum)} {keys : List String}
    (same : ∀ key ∈ keys, Datum.lookup key entries = Datum.lookup key others) (default : Option α)
    (check : Datum → Checked α) : field entries keys default check = field others keys default check := by
  have found : (keys.findSome? fun key => (Datum.lookup key entries).map fun d => (key, d)) =
      keys.findSome? fun key => (Datum.lookup key others).map fun d => (key, d) := by
    induction keys with
    | nil => rfl
    | cons key rest ih =>
      have later := ih fun key member => same key (List.mem_cons_of_mem _ member)
      rw [List.findSome?_cons, List.findSome?_cons, same key List.mem_cons_self, later]
  unfold field
  rw [found]

end Schema

namespace Parameter

theorem checkValue_explained (d : Datum) : Schema.Explained (checkValue d) := by
  unfold checkValue
  split
  · split
    · split
      · exact Schema.blames_ok _
      · exact Schema.explained_refuse _
    · exact Schema.explained_refuse _
  · exact Schema.explained_refuse _
  · exact Schema.bytes_explained _

theorem check_explained (d : Datum) : Schema.Explained (check d) := by
  refine Schema.record_explained (fun entries => ?_) _ d
  have kind := Schema.field_explained (Schema.oneOf_explained Kind.named) entries
    (List.cons_ne_nil "type" []) none
  have value := Schema.field_explained checkValue_explained entries (List.cons_ne_nil "value" []) (some [])
  exact (kind.both value).map _

end Parameter

namespace Step

open Schema

variable {entries : List (Datum × Datum)}

def checkRest (entries : List (Datum × Datum)) :
    Checked (Text × Int × List Parameter × Option Text) :=
  both (field entries ["method"] (some (.whole "")) text)
    (both (field entries ["maxUnits", "max_units"] (some 0) (wholeWithin 0 maxBudget))
      (both (field entries ["params"] (some []) (list Parameter.check))
        (field entries ["callerKey", "caller_key"] (some none) (optional text))))

def checkEndpoint (entries : List (Datum × Datum)) : Checked Endpoint :=
  field entries ["endpoint"] none (oneOf Endpoint.named)

theorem check_map (entries : List (Datum × Datum)) :
    check (.map entries) = (both (checkEndpoint entries) (checkRest entries)).map
      fun (endpoint, method, maxUnits, params, callerKey) =>
        ⟨endpoint, method, maxUnits, params, callerKey⟩ :=
  rfl

theorem checkRest_blames (entries : List (Datum × Datum)) :
    Blames (fun i => Load.isEndpointIssue i = false) (checkRest entries) := by
  have spared {α : Type} {check : Datum → Checked α} (keys : List String) (default : Option α)
      (named : keys ≠ []) (other : "endpoint" ∉ keys) (explained : ∀ d, Explained (check d)) :
      Blames (fun i => Load.isEndpointIssue i = false) (field entries keys default check) := by
    refine (field_blames explained entries named default).mono ?_
    rintro ⟨path, cause⟩ ⟨key, member, head⟩
    cases path with
    | nil => cases head
    | cons part rest =>
      cases head
      unfold Load.isEndpointIssue
      split
      · rename_i same _
        cases same
        exact absurd member other
      · rfl
  exact (spared ["method"] _ (by simp) (by simp) text_explained).both
    ((spared ["maxUnits", "max_units"] _ (by simp) (by simp) (wholeWithin_explained 0 maxBudget)).both
      ((spared ["params"] _ (by simp) (by simp) (list_explained Parameter.check_explained)).both
        (spared ["callerKey", "caller_key"] _ (by simp) (by simp) (optional_explained text_explained))))

/-- A step's data with another endpoint in the place of theirs. -/
def withEndpoint (label : String) (entries : List (Datum × Datum)) : List (Datum × Datum) :=
  Datum.putEntry (.text "endpoint") (.text label) entries

theorem checkRest_withEndpoint (label : String) (entries : List (Datum × Datum)) :
    checkRest (withEndpoint label entries) = checkRest entries := by
  have same (key : String) (other : key ≠ "endpoint") :
      Datum.lookup key (withEndpoint label entries) = Datum.lookup key entries := by
    rw [withEndpoint, Datum.lookup_putEntry, if_neg other]
  unfold checkRest
  congr 1
  · exact field_congr (by simp [same]) _ _
  congr 1
  · exact field_congr (by simp [same]) _ _
  congr 1
  · exact field_congr (by simp [same]) _ _
  · exact field_congr (by simp [same]) _ _

theorem checkEndpoint_withEndpoint_key (entries : List (Datum × Datum)) :
    checkEndpoint (withEndpoint "key" entries) = .ok .key := by
  have found : Datum.lookup "endpoint" (withEndpoint "key" entries) = some (.text "key") := by
    rw [withEndpoint, Datum.lookup_putEntry, if_pos rfl]
  simp only [checkEndpoint, field, List.findSome?_cons, found]
  rfl

end Step

namespace Load

open Step (checkEndpoint checkRest withEndpoint)

variable {entries : List (Datum × Datum)} {t : Text}

def Accepts (entries : List (Datum × Datum)) : Prop := ∃ s, stepOfData (.map entries) = .ok s

/-- Data are turned away for a cause of some family. -/
def Refuses (entries : List (Datum × Datum)) (family : Rejection.Family) : Prop :=
  ∃ cause, stepOfData (.map entries) = .error (.rejected ⟨cause, none⟩) ∧ cause.family = family

/-- Data have an endpoint that is not a text with a surrogate without its partner. -/
def HoldsEndpoint (entries : List (Datum × Datum)) : Prop :=
  ∃ d, Datum.lookup "endpoint" entries = some d ∧ ∀ points, d ≠ .unpaired points

theorem checkEndpoint_cases (entries : List (Datum × Datum)) :
    (∃ e, checkEndpoint entries = .ok e) ∨
    (∃ choices, checkEndpoint entries = .error [⟨[.key "endpoint"], .notOneOf choices⟩] ∧
      HoldsEndpoint entries) ∨
    ∃ cause, checkEndpoint entries = .error [⟨[.key "endpoint"], cause⟩] ∧
      (∀ choices, cause ≠ .notOneOf choices) ∧ ¬ HoldsEndpoint entries := by
  cases found : Datum.lookup "endpoint" entries with
  | none =>
    refine .inr (.inr ⟨.missing, ?_, ?_, ?_⟩)
    · simp only [checkEndpoint, Schema.field, List.findSome?_cons, found]
      rfl
    · rintro choices ⟨⟩
    · rintro ⟨d, held, -⟩
      cases found.symm.trans held
  | some d =>
    have checked : checkEndpoint entries = Schema.under (.key "endpoint") (Schema.oneOf Endpoint.named d) := by
      simp only [checkEndpoint, Schema.field, List.findSome?_cons, found]
      rfl
    unfold Schema.oneOf at checked
    split at checked
    · rename_i points
      refine .inr (.inr ⟨.undecodable, checked, ?_, ?_⟩)
      · rintro choices ⟨⟩
      · rintro ⟨d, held, whole⟩
        cases found.symm.trans held
        exact whole points rfl
    · rename_i whole
      split at checked
      · exact .inl ⟨_, checked⟩
      · exact .inr (.inl ⟨_, checked, d, found, whole⟩)

theorem Refuses.not_accepts {family : Rejection.Family} (refused : Refuses entries family) :
    ¬ Accepts entries := by
  rintro ⟨s, loaded⟩
  obtain ⟨cause, fails, -⟩ := refused
  cases loaded.symm.trans fails

theorem Refuses.unique {family other : Rejection.Family} (refused : Refuses entries family)
    (again : Refuses entries other) : family = other := by
  obtain ⟨cause, fails, rfl⟩ := refused
  obtain ⟨same, again, rfl⟩ := again
  cases fails.symm.trans again
  rfl

theorem accepts_of_checked {endpoint : Endpoint} {rest : Text × Int × List Parameter × Option Text}
    (named : checkEndpoint entries = .ok endpoint) (checked : checkRest entries = .ok rest) :
    Accepts entries := by
  have whole := Step.check_map entries
  rw [named, checked] at whole
  simp only [Accepts, stepOfData, Datum.opened, whole]
  exact ⟨_, rfl⟩

theorem refuses_of_issue {issues : List Schema.Issue} (failed : Step.check (.map entries) = .error issues)
    (other : ∃ i ∈ issues, isEndpointIssue i = false) : Refuses entries .malformedPlan := by
  obtain ⟨i, member, other⟩ := other
  have unblamed : (!issues.isEmpty && issues.all isEndpointIssue) = false := by
    rw [Bool.and_eq_false_iff, List.all_eq_false]
    exact .inr ⟨i, member, by simp [other]⟩
  refine ⟨.misshapen issues, ?_, rfl⟩
  simp only [stepOfData, Datum.opened, failed, unblamed]
  rfl

theorem refuses_of_unknown {choices : List String} (short : (Datum.map entries).isTooLong = false)
    (failed : Step.check (.map entries) = .error [⟨[.key "endpoint"], .notOneOf choices⟩])
    (held : HoldsEndpoint entries) : Refuses entries .invalidEndpoint := by
  obtain ⟨d, found, -⟩ := held
  refine ⟨.unknownEndpoint d.shown, ?_, rfl⟩
  simp only [stepOfData, Datum.opened, failed, found, Option.getD_some, shown,
    Datum.isTooLong_lookup short found]
  rfl

/-- What is wrong besides the endpoint is noticed whether or not the endpoint is right. -/
theorem refuses_of_rest {issues : List Schema.Issue} (failed : checkRest entries = .error issues) :
    Refuses entries .malformedPlan := by
  obtain ⟨i, member, other⟩ := Step.checkRest_blames entries issues failed
  have whole := Step.check_map entries
  rw [failed] at whole
  cases named : checkEndpoint entries with
  | ok e =>
    rw [named] at whole
    exact refuses_of_issue whole ⟨i, member, other⟩
  | error earlier =>
    rw [named] at whole
    exact refuses_of_issue whole ⟨i, List.mem_append_right earlier member, other⟩

theorem accepts_withEndpoint_key :
    Accepts (withEndpoint "key" entries) ↔ ∃ rest, checkRest entries = .ok rest := by
  have same := Step.checkRest_withEndpoint "key" entries
  constructor
  · intro accepted
    cases checked : checkRest entries with
    | ok rest => exact ⟨rest, rfl⟩
    | error issues => exact absurd accepted (refuses_of_rest (same.trans checked)).not_accepts
  · rintro ⟨rest, checked⟩
    exact accepts_of_checked (Step.checkEndpoint_withEndpoint_key entries) (same.trans checked)

theorem step_verdict (short : (Datum.map entries).isTooLong = false) :
    Accepts entries ∨
    Refuses entries .invalidEndpoint ∧ HoldsEndpoint entries ∧ Accepts (withEndpoint "key" entries) ∨
    Refuses entries .malformedPlan ∧
      (¬ HoldsEndpoint entries ∨ ¬ Accepts (withEndpoint "key" entries)) := by
  have whole := Step.check_map entries
  cases checked : checkRest entries with
  | error issues =>
    have rejected : ¬ Accepts (withEndpoint "key" entries) := by
      rw [accepts_withEndpoint_key, checked]
      nofun
    exact .inr (.inr ⟨refuses_of_rest checked, .inr rejected⟩)
  | ok rest =>
    have accepted := accepts_withEndpoint_key.mpr ⟨rest, checked⟩
    rcases checkEndpoint_cases entries with ⟨e, named⟩ | ⟨choices, unnamed, held⟩ | ⟨cause, unnamed, other, bare⟩
    · exact .inl (accepts_of_checked named checked)
    · rw [checked, unnamed] at whole
      exact .inr (.inl ⟨refuses_of_unknown short whole held, held, accepted⟩)
    · rw [checked, unnamed] at whole
      refine .inr (.inr ⟨refuses_of_issue whole ⟨_, List.mem_singleton_self _, ?_⟩, .inl bare⟩)
      unfold isEndpointIssue
      split
      · rename_i choices _ notOne
        exact absurd notOne (other choices)
      · rfl

/-- An object that is read from JSON gives a step, or it is refused, for its endpoint or as malformed. It is
refused for its endpoint just if it holds one that is no text with a lone surrogate, and it is not accepted
but would be with the endpoint of keys in that place; it is malformed if anything else is wrong. -/
theorem endpoints_are_blamed_alone (read : Json.readText t = .ok (.map entries)) :
    (Accepts entries ∨ Refuses entries .invalidEndpoint ∨ Refuses entries .malformedPlan) ∧
    (Refuses entries .invalidEndpoint ↔
      HoldsEndpoint entries ∧ ¬ Accepts entries ∧ Accepts (withEndpoint "key" entries)) ∧
    (Refuses entries .malformedPlan ↔
      ¬ Accepts entries ∧ (¬ HoldsEndpoint entries ∨ ¬ Accepts (withEndpoint "key" entries))) := by
  rcases step_verdict (Json.isTooLong_of_readText read) with
    accepted | ⟨unknown, held, accepted⟩ | ⟨malformed, wrong⟩
  · have spared (family : Rejection.Family) : ¬ Refuses entries family :=
      fun refused => refused.not_accepts accepted
    exact ⟨.inl accepted, iff_of_false (spared _) (fun blamed => blamed.2.1 accepted),
      iff_of_false (spared _) (fun blamed => blamed.1 accepted)⟩
  · have other : ¬ Refuses entries .malformedPlan := fun malformed => nomatch unknown.unique malformed
    refine ⟨.inr (.inl unknown), iff_of_true unknown ⟨held, unknown.not_accepts, accepted⟩,
      iff_of_false other ?_⟩
    rintro ⟨-, bare | rejected⟩
    · exact bare held
    · exact rejected accepted
  · have other : ¬ Refuses entries .invalidEndpoint := fun unknown => nomatch unknown.unique malformed
    refine ⟨.inr (.inr malformed), iff_of_false other ?_, iff_of_true malformed ⟨malformed.not_accepts, wrong⟩⟩
    rintro ⟨held, -, accepted⟩
    rcases wrong with bare | rejected
    · exact bare held
    · exact rejected accepted

theorem second_fault_hides_unknown_endpoint :
    let bogus : List (Datum × Datum) := [(.text "endpoint", .text "bogus")]
    let torn : List (Datum × Datum) :=
      [(.text "endpoint", .text "bogus"), (.text "method", .unpaired [0xD800])]
    let both : List (Datum × Datum) := [(.text "endpoint", .text "bogus"), (.text "method", .int 1)]
    (Json.readText "\x7b\"endpoint\":\"bogus\"\x7d" = .ok (.map bogus) ∧ Refuses bogus .invalidEndpoint) ∧
      (Json.readText "\x7b\"endpoint\":\"bogus\",\"method\":\"\\ud800\"\x7d" = .ok (.map torn) ∧
        Refuses torn .invalidEndpoint) ∧
      Json.readText (Json.render .wire (.map both)) = .ok (.map both) ∧ Refuses both .malformedPlan := by
  intro bogus torn both
  have read : Json.readText "\x7b\"endpoint\":\"bogus\"\x7d" = .ok (.map bogus) := by cbv
  have readTorn : Json.readText "\x7b\"endpoint\":\"bogus\",\"method\":\"\\ud800\"\x7d" =
      .ok (.map torn) := by cbv
  have one : Json.ReadsBack (.int 1) := .int (Nat.one_lt_pow (by decide) (by decide))
  have back : Json.ReadsBack (.map (Json.keyed [("endpoint", .text "bogus"), ("method", .int 1)])) :=
    .map (by decide) (by simp [Json.ReadsBack.text, one])
  have readBoth := (Json.readText_whole _).trans back.read_render
  have rejected : ¬ Accepts bogus := by
    rintro ⟨s, loaded⟩
    cases loaded
  have rejectedTorn : ¬ Accepts torn := by
    rintro ⟨s, loaded⟩
    cases loaded
  have rejectedBoth : ¬ Accepts both := by
    rintro ⟨s, loaded⟩
    cases loaded
  have alone : Accepts (withEndpoint "key" bogus) := ⟨{ endpoint := .key }, rfl⟩
  have aloneTorn : Accepts (withEndpoint "key" torn) :=
    ⟨{ endpoint := .key, method := .ofPoints [0xD800] }, rfl⟩
  have still : ¬ Accepts (withEndpoint "key" both) := by
    rintro ⟨s, loaded⟩
    cases loaded
  have held : HoldsEndpoint bogus := ⟨.text "bogus", rfl, by rintro points ⟨⟩⟩
  obtain ⟨_, blamed, _⟩ := endpoints_are_blamed_alone read
  obtain ⟨_, blamedTorn, _⟩ := endpoints_are_blamed_alone readTorn
  obtain ⟨_, _, malformed⟩ := endpoints_are_blamed_alone readBoth
  exact ⟨⟨read, blamed.mpr ⟨held, rejected, alone⟩⟩, ⟨readTorn, blamedTorn.mpr ⟨held, rejectedTorn, aloneTorn⟩⟩,
    readBoth, malformed.mpr ⟨rejectedBoth, .inr still⟩⟩

theorem not_every_unknown_endpoint_is_blamed :
    ¬ ∀ t entries, Json.readText t = .ok (.map entries) →
      (Refuses entries .invalidEndpoint ↔ (∃ d, Datum.lookup "endpoint" entries = some d) ∧
        ¬ Accepts entries ∧ Accepts (withEndpoint "key" entries)) := by
  intro promised
  let lone : List (Datum × Datum) := [(.text "endpoint", .unpaired [0xD800])]
  have read : Json.readText "\x7b\"endpoint\":\"\\ud800\"\x7d" = .ok (.map lone) := by cbv
  have malformed : Refuses lone .malformedPlan := ⟨_, rfl, rfl⟩
  have accepted : Accepts (withEndpoint "key" lone) := ⟨{ endpoint := .key }, rfl⟩
  have unknown := (promised _ lone read).mpr ⟨⟨_, rfl⟩, malformed.not_accepts, accepted⟩
  cases unknown.unique malformed

end Load

end Rehearsal
