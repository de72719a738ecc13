import Rehearsal.Datum
import Rehearsal.Decimal.Numeral

namespace Rehearsal.Json

inductive Fault
  | noValue
  | noKey
  | noColon
  | noComma
  | extraData
  | openString
  | controlCharacter
  | badEscape
  | badPoint
  | byteOrderMark
  deriving DecidableEq, Repr

def Fault.message : Fault → String
  | .noValue => "Expecting value"
  | .noKey => "Expecting property name enclosed in double quotes"
  | .noColon => "Expecting ':' delimiter"
  | .noComma => "Expecting ',' delimiter"
  | .extraData => "Extra data"
  | .openString => "Unterminated string starting at"
  | .controlCharacter => "Invalid control character at"
  | .badEscape => "Invalid \\escape"
  | .badPoint => "Invalid \\uXXXX escape"
  | .byteOrderMark => "Unexpected UTF-8 BOM (decode using utf-8-sig)"

inductive Stop
  | fault (f : Fault) (left : List Char)
  | digits (count : Nat)
  deriving DecidableEq, Repr

def isBlank (c : Char) : Bool := c == ' ' || c == '\t' || c == '\n' || c == '\r'

def skipBlanks (s : List Char) : List Char := s.dropWhile isBlank

def hexValue? (c : Char) : Option Nat :=
  if '0' ≤ c ∧ c ≤ '9' then some (c.toNat - '0'.toNat)
  else if 'a' ≤ c ∧ c ≤ 'f' then some (c.toNat - 'a'.toNat + 10)
  else if 'A' ≤ c ∧ c ≤ 'F' then some (c.toNat - 'A'.toNat + 10)
  else none

def point? (a b c d : Char) : Option Nat := do
  let a ← hexValue? a
  let b ← hexValue? b
  let c ← hexValue? c
  let d ← hexValue? d
  return ((a * 16 + b) * 16 + c) * 16 + d

def isHighSurrogate (n : Nat) : Bool := 0xD800 ≤ n && n < 0xDC00

def isLowSurrogate (n : Nat) : Bool := 0xDC00 ≤ n && n < 0xE000

def joinSurrogates (high low : Nat) : Nat := 0x10000 + (high - 0xD800) * 0x400 + (low - 0xDC00)

def escaped? : Char → Option Char
  | '"' => some '"'
  | '\\' => some '\\'
  | '/' => some '/'
  | 'b' => some '\x08'
  | 'f' => some '\x0c'
  | 'n' => some '\n'
  | 'r' => some '\r'
  | 't' => some '\t'
  | _ => none

/-- The second half of a surrogate pair whose first half was just read, if an escape with such a
number follows and the text goes on behind it. A following escape whose digits are none is a fault
at its letter. -/
def secondHalf : List Char → Except (List Char) (Option Nat)
  | '\\' :: 'u' :: a :: b :: c :: d :: e :: rest =>
    match point? a b c d with
    | none => .error ('u' :: a :: b :: c :: d :: e :: rest)
    | some n => .ok (if isLowSurrogate n then some n else none)
  | _ => .ok none

/-- Reads an escaped number from behind its letter: the code point, and how much of the text it
takes. A number that is the first half of a surrogate pair takes in the second half. -/
def readEscape : List Char → Except (List Char) (Nat × Nat)
  | a :: b :: c :: d :: e :: rest =>
    match point? a b c d with
    | none => .error ('u' :: a :: b :: c :: d :: e :: rest)
    | some n =>
      if isHighSurrogate n then
        match secondHalf (e :: rest) with
        | .error left => .error left
        | .ok (some m) => .ok (joinSurrogates n m, 10)
        | .ok none => .ok (n, 4)
      else .ok (n, 4)
  | s => .error ('u' :: s)

def front : List Char → Nat
  | c :: _ => c.toNat
  | [] => 0

def readPoints (look : List Char → Nat) (start : List Char) : List Char → Except Stop (List Nat × List Char)
  | [] => .error (.fault .openString start)
  | '"' :: rest => .ok ([], rest)
  | '\\' :: [] => .error (.fault .openString start)
  | '\\' :: 'u' :: rest =>
    match readEscape rest with
    | .error left => .error (.fault .badPoint left)
    | .ok (n, taken) =>
      match readPoints look start (rest.drop taken) with
      | .ok (points, left) => .ok (n :: points, left)
      | .error stop => .error stop
  | '\\' :: c :: rest =>
    match escaped? c with
    | none => .error (.fault .badEscape ('\\' :: c :: rest))
    | some x =>
      match readPoints look start rest with
      | .ok (points, left) => .ok (x.toNat :: points, left)
      | .error stop => .error stop
  | c :: rest =>
    if c < ' ' then .error (.fault .controlCharacter (c :: rest))
    else
      match readPoints look start rest with
      | .ok (points, left) => .ok (look (c :: rest) :: points, left)
      | .error stop => .error stop
  termination_by s => s.length
  decreasing_by all_goals (simp only [List.length_drop, List.length_cons]; omega)

def takeDigits (s : List Char) : List Char × List Char :=
  (s.takeWhile Decimal.isDigit, s.dropWhile Decimal.isDigit)

def takeWhole? : List Char → Option (List Char × List Char)
  | '0' :: rest => some (['0'], rest)
  | s =>
    match takeDigits s with
    | ([], _) => none
    | parts => some parts

def takeFraction : List Char → List Char × List Char
  | '.' :: rest =>
    match takeDigits rest with
    | ([], _) => ([], '.' :: rest)
    | parts => parts
  | s => ([], s)

def takeExponent? (s : List Char) : Option (Int × List Char) :=
  match s with
  | c :: rest =>
    if c == 'e' || c == 'E' then
      let (negative, rest) := match rest with
        | '-' :: rest => (true, rest)
        | '+' :: rest => (false, rest)
        | rest => (false, rest)
      match takeDigits rest with
      | ([], _) => none
      | (digits, rest) =>
        let n : Int := Decimal.value 10 digits
        some (if negative then -n else n, rest)
    else none
  | [] => none

def readNumber (start : List Char) (negative : Bool) (s : List Char) :
    Except Stop (Datum × List Char) :=
  match takeWhole? s with
  | none => .error (.fault .noValue start)
  | some (whole, rest) =>
    let (fraction, rest) := takeFraction rest
    match fraction, takeExponent? rest with
    | [], none =>
      if Decimal.maxDigits < whole.length then .error (.digits whole.length)
      else
        let n : Int := Decimal.value 10 whole
        .ok (.int (if negative then -n else n), rest)
    | fraction, exponent =>
      let (e, rest) := exponent.getD (0, rest)
      let x := Decimal.nearest (Decimal.value 10 (whole ++ fraction)) (e - fraction.length)
      .ok (.float (if negative then -x else x), rest)

def afterWord? : List Char → List Char → Option (List Char)
  | [], s => some s
  | w :: word, c :: s => if w == c then afterWord? word s else none
  | _ :: _, [] => none

def readAtom (s : List Char) : Except Stop (Datum × List Char) :=
  let word (w : String) (d : Datum) : Option (Datum × List Char) :=
    (afterWord? w.toList s).map (d, ·)
  match word "null" .null <|> word "true" (.bool true) <|> word "false" (.bool false) <|>
      word "NaN" (.noNumber 0) <|> word "Infinity" (.float (1.0 / 0.0)) <|>
      word "-Infinity" (.float (-1.0 / 0.0)) with
  | some result => .ok result
  | none =>
    match s with
    | '-' :: rest => readNumber s true rest
    | _ => readNumber s false s

mutual

/-- Reads a value at the front of a text. A list or a map takes two units of `fuel`, for itself and
for what it holds, and all else takes one. -/
def readValue (look : List Char → Nat) : Nat → List Char → Except Stop (Datum × List Char)
  | 0, s => .error (.fault .noValue s)
  | fuel + 1, s =>
    match s with
    | '"' :: rest =>
      match readPoints look s rest with
      | .ok (points, left) => .ok (Datum.ofPoints points, left)
      | .error stop => .error stop
    | '[' :: rest =>
      match skipBlanks rest with
      | ']' :: left => .ok (.list [], left)
      | rest =>
        match readItems look fuel rest with
        | .ok (items, left) => .ok (.list items, left)
        | .error stop => .error stop
    | '\x7b' :: rest =>
      match skipBlanks rest with
      | '\x7d' :: left => .ok (.map [], left)
      | rest =>
        match readEntries look fuel [] rest with
        | .ok (entries, left) => .ok (.map entries, left)
        | .error stop => .error stop
    | s => readAtom s

def readItems (look : List Char → Nat) : Nat → List Char → Except Stop (List Datum × List Char)
  | 0, s => .error (.fault .noValue s)
  | fuel + 1, s =>
    match readValue look fuel s with
    | .error stop => .error stop
    | .ok (item, left) =>
      match skipBlanks left with
      | ']' :: left => .ok ([item], left)
      | ',' :: left =>
        match readItems look fuel (skipBlanks left) with
        | .ok (items, left) => .ok (item :: items, left)
        | .error stop => .error stop
      | left => .error (.fault .noComma left)

def readEntries (look : List Char → Nat) : Nat → List (Datum × Datum) → List Char →
    Except Stop (List (Datum × Datum) × List Char)
  | 0, _, s => .error (.fault .noValue s)
  | fuel + 1, seen, s =>
    match s with
    | '"' :: rest =>
      match readPoints look s rest with
      | .error stop => .error stop
      | .ok (points, left) =>
        match skipBlanks left with
        | ':' :: left =>
          match readValue look fuel (skipBlanks left) with
          | .error stop => .error stop
          | .ok (value, left) =>
            let entries := Datum.putEntry (Datum.ofPoints points) value seen
            match skipBlanks left with
            | '\x7d' :: left => .ok (entries, left)
            | ',' :: left => readEntries look fuel entries (skipBlanks left)
            | left => .error (.fault .noComma left)
        | left => .error (.fault .noColon left)
    | s => .error (.fault .noKey s)

end

def readChars (look : List Char → Nat) (s : List Char) : Except Stop Datum :=
  match s with
  | '\ufeff' :: _ => .error (.fault .byteOrderMark s)
  | _ =>
    match readValue look (2 * s.length + 2) (skipBlanks s) with
    | .error stop => .error stop
    | .ok (d, left) =>
      match skipBlanks left with
      | [] => .ok d
      | left => .error (.fault .extraData left)

inductive Problem
  | fault (f : Fault) (line column offset : Nat)
  | digits (count : Nat)
  deriving DecidableEq, Repr

def locate (before : List Char) : Nat × Nat :=
  (before.count '\n' + 1, (before.reverse.takeWhile (· != '\n')).length + 1)

def Stop.problem (s : List Char) : Stop → Problem
  | .fault f left =>
    let offset := s.length - left.length
    let (line, column) := locate (s.take offset)
    .fault f line column offset
  | .digits count => .digits count

def read (s : String) : Except Problem Datum :=
  (readChars front s.toList).mapError (Stop.problem s.toList)

def chars (t : Text) : List Char := (t.mended '\ufffd').toList

def lookAt : Text → List Char → Nat
  | .whole _ => front
  | .torn points _ => fun left => points.getD (points.length - left.length) 0

/-- Reads a text, in which surrogates may stand inside of strings only. -/
def readText (t : Text) : Except Problem Datum :=
  (readChars (lookAt t) (chars t)).mapError (Stop.problem (chars t))

def Problem.message : Problem → String
  | .fault f line column offset => s!"{f.message}: line {line} column {column} (char {offset})"
  | .digits count => Decimal.tooManyDigits count

end Rehearsal.Json
