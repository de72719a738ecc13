import Rehearsal.Command.Screens
import Rehearsal.Proofs.Bytes.HexText
import Rehearsal.Proofs.Display.Untagged
import Rehearsal.Proofs.Reference.Grammar
import Rehearsal.Proofs.Run.ResponseForm
import Rehearsal.Proofs.Text.Whole

namespace Rehearsal

open Display.Markup (IsTag Safe holdsTag)

namespace Display

theorem Markup.holdsTag_plain {cs : List Char} (plain : '[' ∉ cs) : holdsTag cs = false := by
  induction cs with
  | nil => rfl
  | cons c cs ih =>
    obtain ⟨other, others⟩ := not_or.mp (List.mem_cons.not.mp plain)
    rw [holdsTag, ih others, Bool.or_false, beq_eq_false_iff_ne.mpr (Ne.symm other), Bool.false_and]

variable {title body : String} {fields : List (String × String)}

theorem panel_ok_iff : (∃ text, panel title body = .ok text) ↔
    (∃ s, Markup.text title = .ok s) ∧ ∃ s, Markup.text body = .ok s := by
  unfold panel
  cases Markup.text title <;> cases Markup.text body <;> simp [bind, Except.bind, pure, Except.pure]

theorem texts_ok_iff : (∃ rows, texts fields = .ok rows) ↔
    ∀ field ∈ fields, ∃ s, Markup.text field.2 = .ok s := by
  induction fields with
  | nil => simp [texts]
  | cons field fields ih =>
    obtain ⟨name, value⟩ := field
    rw [List.forall_mem_cons, ← ih, texts]
    cases Markup.text value <;> cases texts fields <;> simp [bind, Except.bind, pure, Except.pure]

theorem fieldPanel_ok_iff : (∃ text, fieldPanel title fields = .ok text) ↔
    (∃ s, Markup.text title = .ok s) ∧ ∀ field ∈ fields, ∃ s, Markup.text field.2 = .ok s := by
  rw [← texts_ok_iff]
  unfold fieldPanel
  cases Markup.text title <;> cases texts fields <;> simp [bind, Except.bind, pure, Except.pure]

end Display

namespace Command

variable {style s t : String}

def styles : List String := ["bold", "dim", "cyan", "green", "red", "bold blue"]

theorem isTag_style (among : style ∈ styles) : IsTag style where
  opens := (show ∀ style ∈ styles, style.toList.head?.any _ = true by decide) style among
  plain c member := by
    have all : ∀ style ∈ styles, (style.toList.all fun c => c != '[' && (c != ']' && c != '=')) = true := by decide
    simpa using List.all_eq_true.mp (all style among) c member
  trimmed := (show ∀ style ∈ styles, Text.trimmed style = style by decide +kernel) style among
  simple := (show ∀ style ∈ styles, ∀ word ∈ Display.Style.words style, Display.Style.isSimple word = true by
    decide +kernel) style among

def Plain (s : String) : Prop := ∀ c ∈ s.toList, c ≠ '[' ∧ c ≠ '\\'

instance : Decidable (Plain s) := List.decidableBAll (fun c => c ≠ '[' ∧ c ≠ '\\') s.toList

theorem Plain.append (first : Plain s) (second : Plain t) : Plain (s ++ t) := by
  rw [Plain, String.toList_append]
  exact List.forall_mem_append.mpr ⟨first, second⟩

theorem Plain.untagged (plain : Plain s) : holdsTag s.toList = false :=
  Display.Markup.holdsTag_plain fun member => (plain _ member).1 rfl

theorem plain_nat (n : Nat) : Plain (toString n) := by
  intro c member
  rw [show toString n = n.repr from rfl, Nat.toList_repr] at member
  have digit := Decimal.isDigit_of_mem_toDigits n c member
  constructor
  · rintro rfl
    cases digit
  · rintro rfl
    cases digit

theorem plain_int (i : Int) : Plain (toString i) := by
  cases i with
  | ofNat n => exact plain_nat n
  | negSucc n => exact Plain.append (s := "-") (by decide) (plain_nat (n + 1))

theorem plain_hex (bytes : Bytes) : Plain (Hex.encode bytes) := by
  intro c member
  have digit := Hex.digits_of_spaced (Hex.spaced_encode bytes) c member
  constructor
  · rintro rfl
    cases digit
  · rintro rfl
    cases digit

theorem safe_plain (plain : Plain s) (safe : Safe t.toList) : Safe (s ++ t).toList := by
  rw [String.toList_append]
  exact safe.behind_plain plain

theorem safe_styled (among : style ∈ styles) (untagged : holdsTag s.toList = false) (safe : Safe t.toList) :
    Safe (styled style s ++ t).toList := by
  have marked : (styled style s ++ t).toList =
      '[' :: (style.toList ++ ']' :: (s.toList ++ '[' :: '/' :: (style.toList ++ ']' :: t.toList))) := by
    show ("[" ++ style ++ "]" ++ s ++ "[/" ++ style ++ "]" ++ t).toList = _
    simp
  rw [marked]
  exact safe.behind_styled (isTag_style among) untagged

end Command

structure Response.Tidy (r : Response) : Prop where
  endpoint : ∃ e, r.endpoint = some e ∧ e.isChecked = true
  msg : ∀ msg, r.result.msg = some msg → ∃ s : String, msg = s ∧ holdsTag s.toList = false
  id : ∀ id, r.result.id = some id → ∃ s : String, id = s ∧ holdsTag s.toList = false

namespace Command

def marks : List Char := ['\ufffd', '\ufffc']

def marked (mark : Char) (r : Response) : Except Display.Markup.Fault String :=
  Display.fieldPanel (responseTitle (Text.mended mark) r) (responseFields (Text.mended mark) r)

end Command

/-- A response whose panel can be shown: the numbers are not too long, the markup of the title and that of the
error are without fault, and no surrogate shows. -/
structure Response.Clear (r : Response) : Prop where
  numbers : ∀ i ∈ Command.shownNumbers r, Decimal.isTooLong i = false
  title : ∀ mark ∈ Command.marks, ∃ s, Display.Markup.text (Command.responseTitle (Text.mended mark) r) = .ok s
  error : ∀ error, r.error = some error → ∀ mark ∈ Command.marks,
    ∃ s, Display.Markup.text (Command.styled "red" (Text.mended mark error)) = .ok s
  surrogates : ∀ mark ∈ Command.marks, ∀ other ∈ Command.marks, Command.marked mark r = Command.marked other r

namespace Command

variable {r : Response} {style s : String} {mark : Char}

theorem screened_ok_iff {render : (Text → String) → Except Display.Markup.Fault String} :
    (∃ text, screened render = .ok text) ↔
      (∀ mark ∈ marks, ∃ text, render (Text.mended mark) = .ok text) ∧
        ∀ mark ∈ marks, ∀ other ∈ marks, render (Text.mended mark) = render (Text.mended other) := by
  unfold screened marks
  simp only [List.forall_mem_cons]
  cases first : render (Text.mended '\ufffd') <;> cases second : render (Text.mended '\ufffc') <;>
    simp [Except.mapError, bind, Except.bind, pure, Except.pure]
  split <;> simp_all [eq_comm]

theorem plain_keyMessage (address : Bytes) : Plain (Dispatch.keyMessage address) :=
  Plain.append (s := "created named key with address ") (by decide) (plain_hex address)

theorem plain_endpoint {e : Endpoint} (checked : e.isChecked = true) : Plain e.label := by
  cases e with
  | key | execute | readonly => decide
  | unchecked => cases checked

theorem title_shown (tidy : r.Tidy) (method : holdsTag (Text.mended mark r.method).toList = false) :
    ∃ s, Display.Markup.text (responseTitle (Text.mended mark) r) = .ok s := by
  obtain ⟨e, named, checked⟩ := tidy.endpoint
  apply Display.Markup.text_of_safe
  have ending : Safe (status r.isOk ++ "").toList := by
    unfold status
    split
    · exact safe_styled (by decide) (by decide) Display.Markup.safe_nil
    · exact safe_styled (by decide) (by decide) Display.Markup.safe_nil
  rw [String.append_empty] at ending
  have middle : Safe ((if r.method.isEmpty then "" else " " ++ styled "dim" (Text.mended mark r.method)) ++
      ("  " ++ status r.isOk)).toList := by
    have blank := safe_plain (s := "  ") (by decide) ending
    split
    · rwa [String.empty_append]
    · rw [String.append_assoc]
      exact safe_plain (by decide) (safe_styled (by decide) method blank)
  have number : Plain s!"Step {r.id}" := Plain.append (s := "Step ") (by decide) (plain_int r.id)
  unfold responseTitle
  rw [named]
  simp only [Option.map_some, Option.getD_some, String.append_assoc]
  exact safe_styled (by decide) number.untagged (safe_plain (by decide)
    (safe_styled (by decide) (plain_endpoint checked).untagged middle))

theorem styled_shown (among : style ∈ styles) (untagged : holdsTag s.toList = false) :
    ∃ shown, Display.Markup.text (styled style s) = .ok shown := by
  apply Display.Markup.text_of_safe
  rw [← String.append_empty (s := styled style s)]
  exact safe_styled among untagged Display.Markup.safe_nil

theorem text_untagged {text : String} (untagged : holdsTag text.toList = false) :
    ∃ s, Display.Markup.text text = .ok s :=
  Display.Markup.text_of_safe (Display.Markup.safe_untagged untagged)

theorem mem_textField {mend : Text → String} {name : String} {text : Option Text}
    {field : String × String} :
    field ∈ textField mend name text ↔ ∃ t, text = some t ∧ t.isEmpty = false ∧ field = (name, mend t) := by
  unfold textField
  rw [Option.mem_toList, Option.map_eq_some_iff]
  constructor
  · rintro ⟨t, given, rfl⟩
    obtain ⟨same, filled⟩ := Option.filter_eq_some_iff.mp given
    exact ⟨t, same, by simpa using filled, rfl⟩
  · rintro ⟨t, rfl, filled, rfl⟩
    exact ⟨t, by simp [filled], rfl⟩

/-- With a mark for surrogates the panel of a response is shown just if its title and its error are without
fault. -/
theorem marked_ok_iff (tidy : r.Tidy) : (∃ text, marked mark r = .ok text) ↔
    (∃ s, Display.Markup.text (responseTitle (Text.mended mark) r) = .ok s) ∧
      ∀ error, r.error = some error → ∃ s, Display.Markup.text (styled "red" (Text.mended mark error)) = .ok s := by
  rw [marked, Display.fieldPanel_ok_iff]
  refine and_congr_right fun _ => ?_
  constructor
  · intro fields error failed
    cases empty : error.isEmpty with
    | true =>
      have nothing : Text.mended mark error = "" := by
        cases error with
        | whole s => simpa [Text.isEmpty, Text.mended] using empty
        | torn => cases empty
      rw [nothing]
      exact styled_shown (by decide) (by decide)
    | false =>
      refine fields ("error", styled "red" (Text.mended mark error)) ?_
      simp [responseFields, textField, failed, empty]
  · intro error field member
    simp only [responseFields, List.mem_append, List.mem_map, Option.mem_toList, Option.map_eq_some_iff,
      mem_textField, List.mem_singleton] at member
    rcases member with ((((msg | id) | payload) | balance) | failed) | rfl
    · obtain ⟨t, given, _, rfl⟩ := msg
      obtain ⟨s, rfl, untagged⟩ := tidy.msg t given
      exact text_untagged untagged
    · obtain ⟨_, ⟨t, given, _, rfl⟩, rfl⟩ := id
      obtain ⟨s, rfl, untagged⟩ := tidy.id t given
      exact styled_shown (by decide) untagged
    · obtain ⟨bytes, _, rfl⟩ := payload
      exact text_untagged (Plain.append (s := "0x") (by decide) (plain_hex bytes)).untagged
    · obtain ⟨balance, _, rfl⟩ := balance
      exact text_untagged (plain_int balance).untagged
    · obtain ⟨_, ⟨t, given, _, rfl⟩, rfl⟩ := failed
      exact error t given
    · exact text_untagged (plain_int r.result.timestamp).untagged

theorem showResponse_ok_iff (tidy : r.Tidy) : (∃ text, showResponse r = .ok text) ↔ r.Clear := by
  have screen : (∃ text, screened (fun mend => Display.fieldPanel (responseTitle mend r)
      (responseFields mend r)) = .ok text) ↔
      (∀ mark ∈ marks, ∃ text, marked mark r = .ok text) ∧
        ∀ mark ∈ marks, ∀ other ∈ marks, marked mark r = marked other r := screened_ok_iff
  by_cases long : (shownNumbers r).any Decimal.isTooLong = true
  · rw [showResponse, if_pos long]
    constructor
    · rintro ⟨_, ⟨⟩⟩
    · intro clear
      obtain ⟨i, among, tooLong⟩ := List.any_eq_true.mp long
      cases tooLong.symm.trans (clear.numbers i among)
  · rw [showResponse, if_neg long, screen]
    have numbers : ∀ i ∈ shownNumbers r, Decimal.isTooLong i = false := by
      simpa using long
    constructor
    · rintro ⟨shown, surrogates⟩
      refine ⟨numbers, ?_, ?_, surrogates⟩
      · intro mark among
        exact ((marked_ok_iff tidy).mp (shown mark among)).1
      · intro error failed mark among
        exact ((marked_ok_iff tidy).mp (shown mark among)).2 error failed
    · intro clear
      refine ⟨fun mark among => (marked_ok_iff tidy).mpr ⟨clear.title mark among, ?_⟩, clear.surrogates⟩
      exact fun error failed => clear.error error failed mark among

theorem marked_whole (tidy : r.Tidy) {method : String} (methodWhole : r.method = method)
    (errorWhole : ∀ error, r.error = some error → error.isWhole = true) (mark other : Char) :
    marked mark r = marked other r := by
  have field (name : String) {text : Option Text} (whole : ∀ t, text = some t → t.isWhole = true) :
      textField (Text.mended mark) name text = textField (Text.mended other) name text := by
    cases text with
    | none => rfl
    | some t =>
      obtain ⟨s, rfl⟩ := Text.isWhole_iff.mp (whole t rfl)
      simp only [textField, Option.filter_some]
      split <;> rfl
  have msg : ∀ t, r.result.msg = some t → t.isWhole = true := by
    intro t given
    obtain ⟨s, rfl, _⟩ := tidy.msg t given
    rfl
  have id : ∀ t, r.result.id = some t → t.isWhole = true := by
    intro t given
    obtain ⟨s, rfl, _⟩ := tidy.id t given
    rfl
  have title : responseTitle (Text.mended mark) r = responseTitle (Text.mended other) r := by
    simp only [responseTitle, methodWhole]
    rfl
  rw [marked, marked, title]
  simp only [responseFields, field "message" msg, field "id" id, field "error" errorWhole]

theorem clear_of_untagged (tidy : r.Tidy) (numbers : ∀ i ∈ shownNumbers r, Decimal.isTooLong i = false)
    {method : String} (methodWhole : r.method = method) (methodUntagged : holdsTag method.toList = false)
    (error : ∀ error, r.error = some error → ∃ s : String, error = s ∧ holdsTag s.toList = false) :
    r.Clear := by
  refine ⟨numbers, fun mark _ => title_shown tidy (by rwa [methodWhole]), ?_, ?_⟩
  · intro text failed mark _
    obtain ⟨s, rfl, untagged⟩ := error text failed
    exact styled_shown (by decide) untagged
  · intro mark _ other _
    refine marked_whole tidy methodWhole (fun text failed => ?_) mark other
    obtain ⟨s, rfl, _⟩ := error text failed
    rfl

theorem summary_safe {file : String} (mark : Char) (total : Nat) (rs : List Response) (aborted : Option String)
    (named : holdsTag file.toList = false) (cause : ∀ text, aborted = some text → holdsTag text.toList = false) :
    Safe (summary (Text.mended mark) file total rs (aborted.map Text.whole)).toList := by
  have ending : Safe ((aborted.map fun cause => "\n" ++ styled "red" "Aborted:" ++ " " ++ cause).getD "").toList := by
    cases aborted with
    | none => exact Display.Markup.safe_nil
    | some text =>
      have last := Display.Markup.safe_untagged (cause text rfl)
      simp only [Option.map_some, Option.getD_some, String.append_assoc]
      exact safe_plain (by decide) (safe_styled (by decide) (by decide) (safe_plain (by decide) last))
  have failed : Safe ((if failures rs = 0 then "" else ", " ++ styled "red" s!"{failures rs} failed") ++
      (aborted.map fun cause => "\n" ++ styled "red" "Aborted:" ++ " " ++ cause).getD "").toList := by
    split
    · rwa [String.empty_append]
    · have number : Plain s!"{failures rs} failed" := (plain_nat _).append (t := " failed") (by decide)
      rw [String.append_assoc]
      exact safe_plain (by decide) (safe_styled (by decide) number.untagged ending)
  have run : Plain s!" {rs.length}/{total} run  " := by
    have counted := (Plain.append (s := " ") (by decide) (plain_nat rs.length)).append (t := "/") (by decide)
    exact (counted.append (plain_nat total)).append (by decide)
  have good : Plain s!"{rs.length - failures rs} ok" := (plain_nat _).append (t := " ok") (by decide)
  have steps := safe_plain run (safe_styled (show "green" ∈ styles by decide) good.untagged failed)
  have whole : summary (Text.mended mark) file total rs (aborted.map Text.whole) =
      styled "bold" "Plan:" ++ (" " ++ (styled "dim" file ++
      ("\n" ++ (styled "bold" "Steps:" ++ (s!" {rs.length}/{total} run  " ++
        (styled "green" s!"{rs.length - failures rs} ok" ++
          ((if failures rs = 0 then "" else ", " ++ styled "red" s!"{failures rs} failed") ++
            (aborted.map fun cause => "\n" ++ styled "red" "Aborted:" ++ " " ++ cause).getD ""))))))) := by
    unfold summary
    simp only [String.append_assoc, Option.map_map]
    rfl
  rw [whole]
  exact safe_styled (by decide) (by decide) (safe_plain (by decide) (safe_styled (by decide) named
    (safe_plain (by decide) (safe_styled (by decide) (by decide) steps))))

theorem showSummary_shown {file : String} (total : Nat) (rs : List Response) (aborted : Option String)
    (named : holdsTag file.toList = false) (cause : ∀ text, aborted = some text → holdsTag text.toList = false) :
    ∃ text, showSummary file total rs (aborted.map Text.whole) = .ok text := by
  have same : ∀ mark : Char, summary (Text.mended mark) file total rs (aborted.map Text.whole) =
      summary (Text.mended '\ufffd') file total rs (aborted.map Text.whole) := by
    intro mark
    cases aborted <;> rfl
  rw [showSummary, screened_ok_iff]
  refine ⟨fun mark _ => ?_, fun mark _ other _ => by rw [same mark, same other]⟩
  have safe := summary_safe mark total rs aborted named cause
  exact Display.panel_ok_iff.mpr ⟨styled_shown (by decide) (by decide), Display.Markup.text_of_safe safe⟩

end Command

variable {σ : Type} {c : Collaborators σ}

theorem Dispatch.perform_message {files : Files} {endpoint : Endpoint} {maxUnits : Int} {method : Text}
    {msg : String} {params : List Parameter} {m : Machine σ}
    (done : (perform c files endpoint maxUnits method params m).1 = .ok (.key msg)) :
    ∃ address, msg = keyMessage address := by
  unfold perform at done
  cases settled : endpoint.settled <;> simp only [settled] at done
  case key =>
    unfold createKey at done
    split at done
    · cases done
    · obtain ⟨publicKey, _, addressed⟩ := Outcome.bind_ok.mp done
      obtain ⟨address, _, message⟩ := Outcome.map_ok.mp addressed
      cases message
      exact ⟨address, rfl⟩
  case execute =>
    split at done
    · obtain ⟨id, other⟩ := createProgram_success done
      cases other
    · obtain ⟨r, _, paid⟩ := Outcome.bind_ok.mp done
      obtain ⟨payload, id, _, _, other⟩ := charged_success paid
      cases other
  case readonly =>
    obtain ⟨r, _, paid⟩ := Outcome.bind_ok.mp done
    obtain ⟨payload, _, other⟩ := Outcome.map_ok.mp paid
    cases other
  case unchecked => cases done

/-- The response to a step that is carried out is tidy, whatever the step says and the interpreter does. -/
theorem Run.CarriesOut.response_tidy {w : Surroundings} {step : Step} {s : Session σ}
    {params : List Parameter} {r : Response} (carried : CarriesOut c w step s params)
    (answered : (carryOut c w step params s).1 = .ok r) : r.Tidy := by
  rcases carryOut_ok answered with ⟨success, done, rfl⟩ | ⟨_, _, _, _, _, rfl⟩
  · refine ⟨⟨_, rfl, carried.checked⟩, ?_, ?_⟩
    · rintro msg given
      cases success with
      | key text =>
        cases given
        obtain ⟨address, rfl⟩ := Dispatch.perform_message done
        exact ⟨_, rfl, (Command.plain_keyMessage address).untagged⟩
      | program | call | reading => cases given
    · rintro id given
      cases success with
      | program bytes | call bytes =>
        cases given
        exact ⟨_, rfl, (Command.plain_hex bytes).untagged⟩
      | key | reading => cases given
  · exact ⟨⟨_, rfl, carried.checked⟩, nofun, nofun⟩

end Rehearsal
