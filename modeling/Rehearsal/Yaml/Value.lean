import Rehearsal.Bytes.Base64
import Rehearsal.Datum
import Rehearsal.Text.Class
import Rehearsal.Text.Small
import Rehearsal.Yaml.Node

namespace Rehearsal.Yaml

namespace ValueFault

def name : ValueFault → String
  | badPoint huge => if huge then "OverflowError" else "ValueError"
  | emptyNumber => "IndexError"
  | badTruth _ => "KeyError"
  | badMoment => "AttributeError"
  | mappedMoment => "TypeError"
  | greatPlace => "OverflowError"
  | badInteger .. | badFloat _ | tooManyDigits _ | badDate _ | badOffset _ => "ValueError"

def message : ValueFault → String
  | badPoint huge =>
    if huge then "Python int too large to convert to C int" else "chr() arg not in range(0x110000)"
  | emptyNumber => "string index out of range"
  | badInteger base text =>
    s!"invalid literal for int() with base {base}: " ++
      String.ofList ((Text.quotePoints text).toList.take 200)
  | badFloat text => "could not convert string to float: " ++ Text.quotePoints text
  | tooManyDigits digits => Decimal.tooManyDigits digits
  | badTruth text => Text.quotePoints text
  | badMoment => "'NoneType' object has no attribute 'groupdict'"
  | mappedMoment => "expected string or bytes-like object, got 'list'"
  | greatPlace => "int too large to convert to float"
  | badDate problem => problem
  | badOffset seconds =>
    "offset must be a timedelta strictly between -timedelta(hours=24) and timedelta(hours=24), " ++
      s!"not {Datum.spanQuoted seconds}."

end ValueFault

namespace Value

def chars? (points : List Nat) : Option (List Char) :=
  if points.all (fun n => n.isValidChar) then some (points.map Char.ofNat) else none

/-- A character of a numeral in ASCII: a digit of any script counts by its value, white space is a
space, and what stands in no numeral is a question mark. -/
def plainChar (n : Nat) : Char :=
  if n < 0x80 then Char.ofNat n
  else if n.isValidChar && Text.isSpace (Char.ofNat n) then ' '
  else
    match Text.digitValue? n with
    | some digit => Char.ofNat (0x30 + digit)
    | none => '?'

def plain (points : List Nat) : List Char := Text.trimChars Text.isSpace (points.map plainChar)

def isText (points : List Nat) (s : String) : Bool := points == Reading.points s.toList

def behind? (s : String) (points : List Nat) : Option (List Nat) :=
  let front := Reading.points s.toList
  if front.isPrefixOf points then some (points.drop front.length) else none

def signed (points : List Nat) : Bool × List Nat :=
  match behind? "-" points, behind? "+" points with
  | some rest, _ => (true, rest)
  | none, some rest => (false, rest)
  | none, none => (false, points)

def parts : List Nat → List (List Nat)
  | [] => [[]]
  | n :: rest =>
    match parts rest with
    | [] => [[n]]
    | part :: more => if n == ':'.toNat then [] :: part :: more else (n :: part) :: more

def behindMark (base : Nat) : List Char → List Char
  | '0' :: c :: rest =>
    let marks := if base == 2 then ['b', 'B'] else if base == 8 then ['o', 'O']
      else if base == 16 then ['x', 'X'] else []
    if marks.contains c then rest else '0' :: c :: rest
  | s => s

def isDigitOf (base : Nat) (c : Char) : Bool :=
  match Hex.value? c with
  | some n => n < base
  | none => false

/-- A whole number in a base: blanks around it, a sign, and digits behind the mark of the base. Too
many decimal digits are refused before what follows them is looked at. -/
def wholeNumber (base : Nat) (points : List Nat) : Except ValueFault Int :=
  let body := plain points
  let rest := behindMark base (Tag.unsigned body)
  let digits := rest.takeWhile (isDigitOf base)
  if base == 10 && Decimal.maxDigits < digits.length then .error (.tooManyDigits digits.length)
  else if digits.isEmpty || digits.length < rest.length then .error (.badInteger base points)
  else
    let n : Int := Decimal.value base digits
    .ok (if body.head? == some '-' then -n else n)

def sixtieths (parts : List Int) : Int := parts.foldl (fun n part => n * 60 + part) 0

def withoutLines (points : List Nat) : List Nat := points.filter (· != '_'.toNat)

def magnitude (points : List Nat) : Except ValueFault Int :=
  if points.isEmpty then .error .emptyNumber
  else if isText points "0" then .ok 0
  else
    match behind? "0b" points, behind? "0x" points, behind? "0" points with
    | some digits, _, _ => wholeNumber 2 digits
    | none, some digits, _ => wholeNumber 16 digits
    | none, none, some _ => wholeNumber 8 points
    | none, none, none =>
      if points.contains ':'.toNat then ((parts points).mapM (wholeNumber 10)).map sixtieths
      else wholeNumber 10 points

def integer (points : List Nat) : Except ValueFault Int :=
  let (negative, body) := signed (withoutLines points)
  (magnitude body).map fun n => if negative then -n else n

def exponent? : List Char → Option Int
  | [] => some 0
  | c :: rest =>
    let digits := Tag.unsigned rest
    if (c == 'e' || c == 'E') && !digits.isEmpty && digits.all Decimal.isDigit then
      let n : Int := Decimal.value 10 digits
      some (if rest.head? == some '-' then -n else n)
    else none

def decimal? (s : List Char) : Option Float :=
  if s == "inf".toList || s == "infinity".toList then some (1.0 / 0.0)
  else if s == "nan".toList then some (0.0 / 0.0)
  else
    let whole := s.takeWhile Decimal.isDigit
    let rest := s.dropWhile Decimal.isDigit
    let (fraction, rest) := match rest with
      | '.' :: rest => (rest.takeWhile Decimal.isDigit, rest.dropWhile Decimal.isDigit)
      | rest => ([], rest)
    if whole.isEmpty && fraction.isEmpty then none
    else (exponent? rest).map fun e =>
      Decimal.nearest (Decimal.value 10 (whole ++ fraction)) (e - fraction.length)

def decimal (points : List Nat) : Except ValueFault Float :=
  let body := plain points
  match decimal? (Tag.unsigned body) with
  | none => .error (.badFloat points)
  | some x => .ok (if body.head? == some '-' then -x else x)

/-- Adds a part in sixtieths to a sum; with it goes what one counts at its place. -/
def addSixtieth : Float × Nat → Float → Except ValueFault (Float × Nat)
  | (sum, place), part =>
    let unit := Decimal.ofInteger place
    if unit.isInf then .error .greatPlace else .ok (sum + part * unit, place * 60)

def floatSixtieths (parts : List Float) : Except ValueFault Float :=
  (parts.reverse.foldlM addSixtieth (0.0, 1)).map Prod.fst

/-- A float; `origin` is where it is from. What is no number comes from everywhere by itself, but
for that by its proper name, which is always the same. -/
def float (origin : Nat) (points : List Nat) : Except ValueFault Datum :=
  match Text.smallPoints (withoutLines points) with
  | [] => .error .emptyNumber
  | lowered =>
    let (negative, body) := signed lowered
    if isText body ".nan" then .ok (.noNumber 0)
    else
      let magnitude : Except ValueFault Float :=
        if isText body ".inf" then .ok (1.0 / 0.0)
        else if body.contains ':'.toNat then (parts body).mapM decimal >>= floatSixtieths
        else decimal body
      magnitude.map fun x =>
        if x.isNaN then .noNumber (origin + 1) else .float (if negative then -x else x)

def truth (points : List Nat) : Except ValueFault Bool :=
  let lowered := Text.smallPoints points
  if ["yes", "true", "on"].any (isText lowered) then .ok true
  else if ["no", "false", "off"].any (isText lowered) then .ok false
  else .error (.badTruth lowered)

def number (digits : List Char) : Nat := Decimal.value 10 digits

def micros (fraction : List Char) : Nat :=
  let digits := fraction.take 6
  number (digits ++ List.replicate (6 - digits.length) '0')

def offset : Option (List Char × List Char × List Char) → Except ValueFault (Option Int)
  | none => .ok none
  | some (sign, hours, minutes) =>
    let seconds : Int := number hours * 3600 + number minutes * 60
    let seconds := if sign == ['-'] then -seconds else seconds
    if 86400 ≤ seconds.natAbs then .error (.badOffset seconds) else .ok (some seconds)

def moment (points : List Nat) : Except ValueFault Datum :=
  let text := (chars? points).map fun s => if s.getLast? == some '\n' then s.dropLast else s
  match text.bind Tag.momentText? with
  | none => .error .badMoment
  | some m =>
    let date : Date := ⟨number m.year, number m.month, number m.day⟩
    match m.time with
    | none =>
      match date.problem? with
      | some problem => .error (.badDate problem)
      | none => .ok (.date date)
    | some (hour, minute, second, fraction) =>
      match offset m.zone with
      | .error f => .error f
      | .ok offset =>
        let moment : Moment :=
          ⟨date, number hour, number minute, number second, micros fraction, offset⟩
        match moment.problem? with
        | some problem => .error (.badDate problem)
        | none => .ok (.moment moment)

def binary (points : List Nat) : Except Problem Bytes :=
  match chars? points with
  | none => .error .malformed
  | some cs =>
    if cs.all (fun c => c.toNat < 0x80) then
      (Base64.decodeLenient cs).mapError fun _ => .malformed
    else .error .malformed

def ofScalar (origin : Nat) (tag : Tag) (points : List Nat) : Except Problem Datum :=
  match tag with
  | .null => .ok .null
  | .bool => ((truth points).map Datum.bool).mapError .value
  | .int => ((integer points).map Datum.int).mapError .value
  | .float => (float origin points).mapError .value
  | .timestamp => (moment points).mapError .value
  | .binary => (binary points).map Datum.bytes
  | .str => .ok (.ofPoints points)
  | _ => .error .malformed

end Value

end Rehearsal.Yaml
