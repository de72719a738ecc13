import Rehearsal.Display.Colour
import Rehearsal.Text.Class

namespace Rehearsal.Display

structure Style where
  attributes : List (String × Bool) := []
  colour : Option String := none
  backdrop : Option String := none
  link : Option String := none
  deriving DecidableEq, Repr

namespace Style

def attributeNames : List (String × String) :=
  [("bold", "b"), ("dim", "d"), ("italic", "i"), ("underline", "u"), ("blink", ""), ("blink2", ""),
    ("reverse", "r"), ("conceal", "c"), ("strike", "s"), ("underline2", "uu"), ("frame", ""),
    ("encircle", ""), ("overline", "o")]

def attribute? (word : String) : Option String :=
  if word.isEmpty then none
  else (attributeNames.find? fun (long, short) => long == word || short == word).map Prod.fst

/-- Reads words, those before them being read into a style. An attribute behind `not` is off. -/
def readWords (s : Style) : List String → Except Colour.Fault Style
  | [] => .ok s
  | word :: rest =>
    match Text.small word, rest with
    | "on", word :: rest => do readWords { s with backdrop := some (← Colour.read word) } rest
    | "not", word :: rest =>
      match attribute? word with
      | some name => readWords { s with attributes := (name, false) :: s.attributes } rest
      | none => .error .unknown
    | "link", url :: rest => readWords { s with link := some url } rest
    | small, rest =>
      match attribute? small with
      | some name => readWords { s with attributes := (name, true) :: s.attributes } rest
      | none => do readWords { s with colour := some (← Colour.read small) } rest

def words (s : String) : List String :=
  (s.toList.splitBy fun a b => Text.isBlank a == Text.isBlank b).filterMap fun word =>
    if word.any Text.isBlank then none else some (String.ofList word)

def read (s : String) : Except Colour.Fault Style :=
  if Text.trimmed s == "none" then .ok {} else readWords {} (words s)

def name (s : Style) : String :=
  let attributes := attributeNames.filterMap fun (long, _) =>
    (s.attributes.lookup long).map fun isOn => if isOn then long else "not " ++ long
  let parts := attributes ++ s.colour.toList ++ (s.backdrop.map ("on " ++ ·)).toList ++
    (s.link.map ("link " ++ ·)).toList
  if parts.isEmpty then "none" else " ".intercalate parts

def tagName (s : String) : Except Colour.Fault String :=
  match read s with
  | .ok style => .ok style.name
  | .error .unknown => .ok (Text.small (Text.trimmed s))
  | .error f => .error f

def check (s : String) : Except Colour.Fault Unit := (tagName s).map fun _ => ()

end Style

end Rehearsal.Display
