import Rehearsal.Display.Cells
import Rehearsal.Text.Class

namespace Rehearsal.Display

/-- What becomes of text that is too long for a line: paragraphs fold it, and fields of a table cut
it and mark the cut. -/
inductive Overflow
  | fold
  | mark
  deriving DecidableEq, Repr

/-- A line of a display: its segments, which end wherever a style begins or ends. A joiner or a mark has no
hold on a character beyond its own segment. -/
abbrev Row := List (List Char)

namespace Row

def width (r : Row) : Nat := r.foldl (fun n segment => n + cells segment) 0

def crop : Nat → Row → Row
  | _, [] => []
  | space, segment :: rest =>
    if cells segment < space then segment :: crop (space - cells segment) rest
    else [exactly space segment]

def cropped (space : Nat) (r : Row) : Row := if r.width ≤ space then r else r.crop space

def fitted (space : Nat) (r : Row) : Row :=
  if r.width < space then r ++ [List.replicate (space - r.width) ' '] else r.cropped space

def inset (space : Nat) (r : Row) : Row :=
  fitted (space + 2) ([[' ']] ++ r.fitted space ++ [[' ']])

end Row

/-- A text with the stretches of it that are in a style, each from a position up to another one. -/
structure Styled where
  chars : List Char := []
  stretches : List (Nat × Nat) := []
  deriving DecidableEq, Repr

namespace Styled

def plain (s : List Char) : Styled := { chars := s }

def append (s t : Styled) : Styled where
  chars := s.chars ++ t.chars
  stretches := s.stretches ++
    t.stretches.map fun (start, stop) => (s.chars.length + start, s.chars.length + stop)

def join (parts : List Styled) : Styled := parts.foldl append {}

def stretchesWithin (s : Styled) (start stop : Nat) : List (Nat × Nat) :=
  s.stretches.filterMap fun (first, last) =>
    let first := max first start
    let last := min last stop
    if first < last then some (first - start, last - start) else none

def divideFrom (s : Styled) (start : Nat) (rest : List Char) : List Nat → List Styled
  | [] => [⟨rest, s.stretchesWithin start (start + rest.length)⟩]
  | stop :: offsets =>
    ⟨rest.take (stop - start), s.stretchesWithin start stop⟩ ::
      divideFrom s stop (rest.drop (stop - start)) offsets

def divide (s : Styled) (offsets : List Nat) : List Styled :=
  if offsets.isEmpty then [s] else s.divideFrom 0 s.chars offsets

def positions (s : Styled) (c : Char) : List Nat :=
  s.chars.zipIdx.filterMap fun (d, n) => if d == c then some n else none

def lines (s : Styled) : List Styled :=
  (s.divide ((s.positions '\n').flatMap fun n => [n, n + 1])).filter (·.chars != ['\n'])

def cutFrom (cuts : List Nat) (position : Nat) (piece : List Char) : List Char → Row
  | [] => if piece.isEmpty then [] else [piece.reverse]
  | c :: rest =>
    if !piece.isEmpty && cuts.contains position then
      piece.reverse :: cutFrom cuts (position + 1) [c] rest
    else cutFrom cuts (position + 1) (c :: piece) rest

def row (s : Styled) : Row :=
  cutFrom (s.stretches.flatMap fun (start, stop) => [start, stop]) 0 [] s.chars

def keep (count : Nat) (s : Styled) : Styled where
  chars := s.chars.take count
  stretches := (s.stretches.filter fun stretch => stretch.1 < count).map fun (start, stop) =>
    (start, min stop count)

/-- A text in which the characters are others. Stretches do not go beyond its end. -/
def reworded (s : Styled) (chars : List Char) : Styled :=
  { s.keep chars.length with chars := chars }

def extend (s : Styled) (spaces : Nat) : Styled where
  chars := s.chars ++ List.replicate spaces ' '
  stretches := s.stretches.map fun (start, stop) =>
    (start, if s.chars.length ≤ stop then stop + spaces else stop)

def tabStop : Nat := 8

def fillTabs (used : Nat) : List Styled → List Styled
  | [] => []
  | part :: rest =>
    if part.chars.getLast? == some '\t' then
      let part := { part with chars := part.chars.dropLast ++ [' '] }
      let used := used + cells part.chars
      let spaces := (tabStop - used % tabStop) % tabStop
      part.extend spaces :: fillTabs (used + spaces) rest
    else part :: fillTabs (used + cells part.chars) rest

def expandTabs (s : Styled) : Styled :=
  let tabs := s.positions '\t'
  if tabs.isEmpty then s else join (fillTabs 0 (s.divide (tabs.map (· + 1))))

def withoutTail (s : List Char) : List Char := (s.reverse.dropWhile Text.isBlank).reverse

/-- Drops blanks from the end of a line that has more characters than a number of cells. -/
def trimTail (space : Nat) (s : Styled) : Styled :=
  let length := s.chars.length
  let blanks := length - (withoutTail s.chars).length
  if length ≤ space || blanks == 0 then s else s.keep (length - min blanks (length - space))

def ellipsis : Char := '…'

def truncate (space : Nat) (overflow : Overflow) (s : Styled) : Styled :=
  if cells s.chars ≤ space then s
  else
    match overflow with
    | .fold => s.reworded (exactly space s.chars)
    | .mark => s.reworded (exactly (space - 1) s.chars ++ [ellipsis])

def padded (space : Nat) (s : Styled) : Styled :=
  { s with chars := s.chars ++ List.replicate (space - cells s.chars) ' ' }

end Styled

end Rehearsal.Display
