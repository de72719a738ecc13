import Rehearsal.Bytes.Hex
import Rehearsal.Decimal.Numeral
import Rehearsal.Text.Quoted

namespace Rehearsal.Yaml

inductive ValueFault
  /-- an escape beyond the last code point; `huge` if its number does not fit 31 bits -/
  | badPoint (huge : Bool)
  | emptyNumber
  | badInteger (base : Nat) (text : List Nat)
  | badFloat (text : List Nat)
  | tooManyDigits (digits : Nat)
  | badTruth (text : List Nat)
  | badMoment
  /-- a moment that a mapping stands in for -/
  | mappedMoment
  /-- a place of a float in sixtieths that is beyond all floats -/
  | greatPlace
  | badDate (problem : String)
  | badOffset (seconds : Int)
  deriving DecidableEq, Repr

inductive Problem
  | malformed
  | value (f : ValueFault)
  deriving DecidableEq, Repr

/-- What is left of a text, and where that begins; `size` is how many characters the text has. -/
structure Cursor where
  rest : List Char
  size : Nat
  index : Nat := 0
  line : Nat := 0
  column : Nat := 0

abbrev Reading (α : Type) := StateT Cursor (Except Problem) α

def refuse {α : Type} : Reading α := throw .malformed

def isBreak (c : Char) : Bool :=
  c == '\n' || c == '\r' || c == '\x85' || c == '\u2028' || c == '\u2029'

def endsLine (c : Char) : Bool := isBreak c || c == '\x00'

def isSpaceOrEnd (c : Char) : Bool := c == ' ' || endsLine c

def isBlankOrEnd (c : Char) : Bool := c == '\t' || isSpaceOrEnd c

def isWord (c : Char) : Bool := c.isAlphanum || c == '-' || c == '_'

namespace Cursor

def ahead (c : Cursor) (n : Nat) : Char := c.rest[n]?.getD '\x00'

def left (c : Cursor) : Nat := c.size - c.index

/-- Moves past one character. A byte order mark takes no column. -/
def step (c : Cursor) : Cursor :=
  match c.rest with
  | [] => c
  | x :: rest =>
    if isBreak x && !(x == '\r' && rest.head? == some '\n') then
      ⟨rest, c.size, c.index + 1, c.line + 1, 0⟩
    else if x == '\ufeff' then ⟨rest, c.size, c.index + 1, c.line, c.column⟩
    else ⟨rest, c.size, c.index + 1, c.line, c.column + 1⟩

def skip : Nat → Cursor → Cursor
  | 0, c => c
  | n + 1, c => skip n c.step

def atSeparator (c : Cursor) : Bool :=
  (c.rest.take 3 == ['-', '-', '-'] || c.rest.take 3 == ['.', '.', '.']) &&
    isBlankOrEnd (c.ahead 3)

end Cursor

namespace Reading

def peek (n : Nat := 0) : Reading Char := return (← get).ahead n

def skip (n : Nat := 1) : Reading Unit := modify (Cursor.skip n)

def takeWhile (p : Char → Bool) : Reading (List Char) := do
  let taken := (← get).rest.takeWhile p
  skip taken.length
  return taken

def dropWhile (p : Char → Bool) : Reading Unit := do
  let _ ← takeWhile p

def lineBreak : Reading (List Char) := do
  let c ← peek
  if c == '\r' && (← peek 1) == '\n' then
    skip 2
    return ['\n']
  else if c == '\u2028' || c == '\u2029' then
    skip
    return [c]
  else if isBreak c then
    skip
    return ['\n']
  else return []

def restOfLine : Reading Unit := do
  dropWhile (· == ' ')
  if (← peek) == '#' then dropWhile (!endsLine ·)
  if endsLine (← peek) then
    let _ ← lineBreak
  else refuse

def blanks : Nat → Reading Bool
  | 0 => return false
  | fuel + 1 => do
    dropWhile (· == ' ')
    if (← peek) == '#' then dropWhile (!endsLine ·)
    if (← lineBreak).isEmpty then return false
    else
      let _ ← blanks fuel
      return true

def name : Reading String := do
  match ← takeWhile isWord with
  | [] => refuse
  | cs => return String.ofList cs

def percent : Reading UInt8 := do
  skip
  match Hex.value? (← peek), Hex.value? (← peek 1) with
  | some high, some low =>
    skip 2
    return UInt8.ofNat (high * 16 + low)
  | _, _ => refuse

def percents : Nat → Reading Bytes
  | 0 => return []
  | fuel + 1 => do
    if (← peek) == '%' then
      let b ← percent
      return b :: (← percents fuel)
    else return []

def isUri (c : Char) : Bool := c.isAlphanum || "-;/?:@&=+$,_.!~*'()[]".contains c

def uriParts : Nat → Reading (List Char)
  | 0 => return []
  | fuel + 1 => do
    let plain ← takeWhile isUri
    if (← peek) == '%' then
      match Utf8.decode? (← percents (← get).left) with
      | none => refuse
      | some s => return plain ++ s.toList ++ (← uriParts fuel)
    else return plain

def uri : Reading String := do
  let start := (← get).index
  let cs ← uriParts ((← get).left + 1)
  if (← get).index == start then refuse else return String.ofList cs

/-- The handle of a tag: one mark, or a name between two. A mark before a space stands alone. -/
def handle : Reading String := do
  if (← peek) != '!' then refuse
  if (← peek 1) == ' ' then
    skip
    return "!"
  else
    skip
    let word ← takeWhile isWord
    if (← peek) != '!' then refuse
    skip
    return "!" ++ String.ofList word ++ "!"

end Reading

end Rehearsal.Yaml
