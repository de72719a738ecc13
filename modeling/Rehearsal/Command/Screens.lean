import Rehearsal.Config
import Rehearsal.Display.Panel

namespace Rehearsal.Command

abbrev Shown := Except Fault String

/-- What is shown of texts that `mend` makes whole. A surrogate on the screen cannot be printed: one is
there if what is shown depends on the mark that stands for it. -/
def screened (render : (mend : Text → String) → Except Display.Markup.Fault String) : Shown := do
  let output ← (render (Text.mended '\ufffd')).mapError .markup
  let other ← (render (Text.mended '\ufffc')).mapError .markup
  if output = other then return output else .error .unprintable

def styled (style text : String) : String := s!"[{style}]{text}[/{style}]"

def status (ok : Bool) : String := if ok then styled "green" "OK" else styled "red" "FAILED"

variable (mend : Text → String)

def responseTitle (r : Response) : String :=
  let endpoint := (r.endpoint.map Endpoint.label).getD "?"
  let method := if r.method.isEmpty then "" else " " ++ styled "dim" (mend r.method)
  styled "bold" s!"Step {r.id}" ++ "  " ++ styled "cyan" endpoint ++ method ++ "  " ++ status r.isOk

def textField (name : String) (text : Option Text) : List (String × String) :=
  ((text.filter (!·.isEmpty)).map fun text => (name, mend text)).toList

def responseFields (r : Response) : List (String × String) :=
  textField mend "message" r.result.msg ++
    (textField mend "id" r.result.id).map (fun (name, id) => (name, styled "cyan" id)) ++
    (r.result.response.map fun bytes => ("result", "0x" ++ Hex.encode bytes)).toList ++
    (r.result.balance.map fun balance => ("balance", toString balance)).toList ++
    (textField mend "error" r.error).map (fun (name, error) => (name, styled "red" error)) ++
    [("timestamp", toString r.result.timestamp)]

def shownNumbers (r : Response) : List Int :=
  r.result.balance.toList ++ [r.result.timestamp, r.id]

def showResponse (r : Response) : Shown :=
  if (shownNumbers r).any Decimal.isTooLong then .error .unshowable
  else screened fun mend => Display.fieldPanel (responseTitle mend r) (responseFields mend r)

def failures (responses : List Response) : Nat := responses.countP fun r => !r.isOk

def summary (file : Text) (total : Nat) (responses : List Response) (aborted : Option Text) :
    String :=
  let failed := failures responses
  let bad := if failed = 0 then "" else ", " ++ styled "red" s!"{failed} failed"
  let cause :=
    (aborted.map fun cause => "\n" ++ styled "red" "Aborted:" ++ " " ++ mend cause).getD ""
  styled "bold" "Plan:" ++ " " ++ styled "dim" (mend file) ++ "\n" ++ styled "bold" "Steps:" ++
    s!" {responses.length}/{total} run  " ++ styled "green" s!"{responses.length - failed} ok" ++
    bad ++ cause

def showSummary (file : Text) (total : Nat) (responses : List Response) (aborted : Option Text) :
    Shown :=
  screened fun mend =>
    Display.panel (styled "bold blue" "Plan Summary") (summary mend file total responses aborted)

def showFailure (f : Failure) : Shown := do
  let text ← f.message
  screened fun mend => Display.paragraph (styled "red" "Error:" ++ " " ++ mend text)

def settings (c : Config) : List (String × String) :=
  [("debug", Datum.boolText c.debug), ("log_level", c.logLevel),
    ("interpreter", c.interpreter.getD (styled "dim" "(not set)"))]

def settingSpaces : List Nat := [13, 39, 18]

def showSettings (c : Config) : Shown := do
  let rows ← (Display.texts (settings c)).mapError .markup
  let plain (s : String) := Display.Styled.plain s.toList
  return Display.table "plansim Configuration" settingSpaces ["Key", "Value", "Env Var"]
    (rows.map fun (name, value) => [plain name, value, plain ("PLANSIM_" ++ name.toUpper)])

end Rehearsal.Command
