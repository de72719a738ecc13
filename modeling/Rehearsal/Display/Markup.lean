import Rehearsal.Display.Action
import Rehearsal.Display.Emoji
import Rehearsal.Display.Style
import Rehearsal.Display.Styled

namespace Rehearsal.Display.Markup

inductive Fault
  /-- a closing tag without a name where nothing is open -/
  | nothingOpen (position : Nat)
  /-- a closing tag for something that is not open -/
  | notOpen (tag : String) (position : Nat)
  | colour (f : Colour.Fault)
  | action (f : Action.Fault)
  deriving DecidableEq, Repr

def Fault.message : Fault → String
  | .nothingOpen position => s!"closing tag '[/]' at position {position} has nothing to close"
  | .notOpen tag position =>
    s!"closing tag '[{tag}]' at position {position} doesn't match any open tag"
  | .colour f => f.message
  | .action f => f.message

inductive Part
  | text (s : List Char)
  | tag (content : List Char) (position : Nat)
  deriving DecidableEq, Repr

def startsTag (c : Char) : Bool := c.isLower || c == '#' || c == '/' || c == '@'

def tagBody? : List Char → Option (List Char × List Char)
  | [] => none
  | '[' :: _ => none
  | ']' :: rest => some ([], rest)
  | c :: rest => (tagBody? rest).map fun (content, rest) => (c :: content, rest)

def tag? : List Char → Option (List Char × List Char)
  | c :: rest =>
    if startsTag c then (tagBody? rest).map fun (content, rest) => (c :: content, rest) else none
  | [] => none

/-- The parts of markup from a position on. `plain` is the text before it that is in no part yet,
backwards, and `slashes` counts the backslashes between the two. Before a tag two backslashes stand
for one, and a single one makes the tag text. -/
def partsFrom : Nat → Nat → List Char → Nat → List Char → List Part
  | 0, _, plain, slashes, s => [.text (plain.reverse ++ List.replicate slashes '\\' ++ s)]
  | _ + 1, _, plain, slashes, [] => [.text (plain.reverse ++ List.replicate slashes '\\')]
  | fuel + 1, position, plain, slashes, c :: rest =>
    if c == '\\' then partsFrom fuel (position + 1) plain (slashes + 1) rest
    else
      match if c == '[' then tag? rest else none with
      | none => partsFrom fuel (position + 1) (c :: List.replicate slashes '\\' ++ plain) 0 rest
      | some (content, after) =>
        let here := if slashes % 2 == 1 then Part.text ('[' :: content ++ [']'])
          else Part.tag content position
        .text plain.reverse :: .text (List.replicate (slashes / 2) '\\') :: here ::
          partsFrom fuel (position + content.length + 2) [] 0 after

def parts (s : List Char) : List Part := partsFrom (s.length + 1) 0 [] 0 s

structure Tag where
  name : String
  setting : Option String := none
  deriving DecidableEq, Repr

namespace Tag

def ofContent (content : List Char) : Tag where
  name := String.ofList (content.takeWhile (· != '='))
  setting := (content.dropWhile (· != '=')).tail?.map String.ofList

def isAction (t : Tag) : Bool := t.name.startsWith "@"

def check (t : Tag) : Except Fault Unit :=
  match t.setting with
  | none => .ok ()
  | some setting =>
    if t.isAction then (Action.check setting).mapError .action
    else (Style.check (t.name ++ " " ++ setting)).mapError .colour

end Tag

structure Shown where
  text : Styled := {}
  opened : List (Tag × Nat) := []

namespace Shown

def position (s : Shown) : Nat := s.text.chars.length

def styledFrom (s : Shown) (start : Nat) : Shown :=
  { s with text := { s.text with stretches := s.text.stretches ++ [(start, s.position)] } }

def finish (s : Shown) (tag : Tag) (start : Nat) : Except Fault Shown :=
  tag.check.map fun _ => s.styledFrom start

def close? (name : String) : List (Tag × Nat) → Option ((Tag × Nat) × List (Tag × Nat))
  | [] => none
  | (tag, start) :: rest =>
    if tag.name == name then some ((tag, start), rest)
    else (close? name rest).map fun (found, rest) => (found, (tag, start) :: rest)

def follow (s : Shown) (content : List Char) (position : Nat) : Except Fault Shown := do
  let tag := Tag.ofContent content
  if tag.name.startsWith "/" then
    let closed := Text.trimmed (String.ofList (tag.name.toList.drop 1))
    if closed.isEmpty then
      match s.opened with
      | [] => .error (.nothingOpen position)
      | (tag, start) :: rest => finish { s with opened := rest } tag start
    else
      let name ← (Style.tagName closed).mapError .colour
      match close? name s.opened with
      | none => .error (.notOpen (String.ofList content) position)
      | some ((tag, start), rest) => finish { s with opened := rest } tag start
  else
    let name ← (Style.tagName tag.name).mapError .colour
    return { s with opened := ({ tag with name := name }, s.position) :: s.opened }

/-- Every tag that is still open ends with the text. Only what is closed is an action. -/
def finishAll (s : Shown) : List (Tag × Nat) → Except Fault Shown
  | [] => .ok s
  | (tag, start) :: rest => do
    let s ← if tag.isAction then .ok (s.styledFrom start) else s.finish tag start
    finishAll s rest

end Shown

def isDropped (c : Char) : Bool := [0x07, 0x08, 0x0B, 0x0C, 0x0D].contains c.toNat

def unescape : List Char → List Char
  | '\\' :: '[' :: rest => '[' :: unescape rest
  | c :: rest => c :: unescape rest
  | [] => []

def show? (s : Shown) : List Part → Except Fault Shown
  | [] => .ok s
  | .text t :: rest =>
    let seen := (Emoji.replace (unescape t)).filter fun c => !isDropped c
    show? { s with text := { s.text with chars := s.text.chars ++ seen } } rest
  | .tag content position :: rest => do show? (← s.follow content position) rest

def text (markup : String) : Except Fault Styled := do
  let shown ← show? {} (parts markup.toList)
  return (← shown.finishAll shown.opened).text

end Rehearsal.Display.Markup
