import Rehearsal.Display.Styled

namespace Rehearsal.Display

inductive Phase
  | before
  | inside
  | behind
  deriving DecidableEq, Repr

/-- The words of a text, each with the blanks behind it and the first one also with those before
it. `word` is the one that has begun, backwards. -/
def wordsFrom (word : List Char) : Phase → List Char → List (List Char)
  | .before, [] => []
  | _, [] => [word.reverse]
  | phase, c :: rest =>
    if Text.isBlank c then
      wordsFrom (c :: word) (if phase = .before then .before else .behind) rest
    else if phase = .behind then word.reverse :: wordsFrom [c] .inside rest
    else wordsFrom (c :: word) .inside rest

/-- A line on which words are written: where it is broken, the position behind the last word, and
the cells that are used since the last break. -/
structure Filling where
  breaks : List Nat := []
  position : Nat := 0
  used : Nat := 0

namespace Filling

def breakAt (f : Filling) (position : Nat) : Filling :=
  if position = 0 then f else { f with breaks := f.breaks ++ [position] }

def fold (f : Filling) : List (List Char) → Filling
  | [] => f
  | piece :: rest =>
    fold { f.breakAt f.position with
      position := f.position + piece.length, used := cells piece } rest

def write (space : Nat) (overflow : Overflow) (f : Filling) (word : List Char) : Filling :=
  let needed := cells (Styled.withoutTail word)
  let position := f.position + word.length
  if f.used + needed ≤ space then { f with position := position, used := f.used + cells word }
  else if space < needed ∧ overflow = .fold then
    { f.fold (pieces space word) with position := position }
  else { f.breakAt f.position with position := position, used := cells word }

end Filling

/-- Where a line is broken: before the words that do not fit. A line of blanks is never broken. -/
def breaks (space : Nat) (overflow : Overflow) (s : List Char) : List Nat :=
  ((wordsFrom [] .before s).foldl (Filling.write space overflow) {}).breaks

def settle (space : Nat) (overflow : Overflow) (s : Styled) : Styled :=
  let line := (s.trimTail space).truncate space overflow
  if overflow = .mark then line.padded space else line

def wrap (space : Nat) (overflow : Overflow) (s : Styled) : List Styled :=
  s.lines.flatMap fun line =>
    let line := line.expandTabs
    (line.divide (breaks space overflow line.chars)).map (settle space overflow)

end Rehearsal.Display
