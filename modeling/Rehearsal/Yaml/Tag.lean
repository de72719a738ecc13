import Rehearsal.Decimal.Numeral

namespace Rehearsal.Yaml

inductive Tag
  | null
  | bool
  | int
  | float
  | binary
  | timestamp
  | omap
  | pairs
  | set
  | str
  | seq
  | map
  | merge
  | value
  | other (name : String)
  deriving DecidableEq, Repr

namespace Tag

def standard : String := "tag:yaml.org,2002:"

def named : List (String × Tag) :=
  [("null", null), ("bool", bool), ("int", int), ("float", float), ("binary", binary),
    ("timestamp", timestamp), ("omap", omap), ("pairs", pairs), ("set", set), ("str", str),
    ("seq", seq), ("map", map), ("merge", merge), ("value", value)]

def ofName (name : String) : Tag :=
  match named.find? fun (word, _) => standard ++ word == name with
  | some (_, tag) => tag
  | none => other name

def isRun (isDigit : Char → Bool) : List Char → Bool
  | [] => false
  | c :: rest => isDigit c && rest.all fun c => isDigit c || c == '_'

def unsigned : List Char → List Char
  | '-' :: rest | '+' :: rest => rest
  | s => s

def isSixtieth : List Char → Bool
  | [a] => Decimal.isDigit a
  | [a, b] => '0' ≤ a && a ≤ '5' && Decimal.isDigit b
  | _ => false

def splitAt (mark : Char) : List Char → List (List Char)
  | [] => [[]]
  | c :: rest =>
    match splitAt mark rest with
    | [] => [[c]]
    | part :: parts => if c == mark then [] :: part :: parts else (c :: part) :: parts

def isBinary (c : Char) : Bool := c == '0' || c == '1'

def isOctal (c : Char) : Bool := '0' ≤ c && c ≤ '7'

def isHex (c : Char) : Bool := Decimal.isDigit c || ('a' ≤ c && c ≤ 'f') || ('A' ≤ c && c ≤ 'F')

def isCounting (s : List Char) : Bool := isRun Decimal.isDigit s && s.head? != some '0'

def isInteger (s : List Char) : Bool :=
  let s := unsigned s
  (match s with
  | '0' :: 'b' :: rest => !rest.isEmpty && rest.all fun c => isBinary c || c == '_'
  | '0' :: 'x' :: rest => !rest.isEmpty && rest.all fun c => isHex c || c == '_'
  | ['0'] => true
  | '0' :: rest => rest.all fun c => isOctal c || c == '_'
  | s => isCounting s) ||
  match splitAt ':' s with
  | first :: next :: rest => isCounting first && (next :: rest).all isSixtieth
  | _ => false

def isExponent : List Char → Bool
  | [] => true
  | e :: sign :: d :: rest =>
    (e == 'e' || e == 'E') && (sign == '-' || sign == '+') && (d :: rest).all Decimal.isDigit
  | _ => false

def isDigitOrLine (c : Char) : Bool := Decimal.isDigit c || c == '_'

def isFloat (s : List Char) : Bool :=
  let body := unsigned s
  let whole := body.takeWhile (· != '.')
  let fraction := (body.dropWhile (· != '.')).drop 1
  let hasPoint := body.contains '.'
  let tail := fraction.dropWhile isDigitOrLine
  (hasPoint && isRun Decimal.isDigit whole && isExponent tail) ||
    (s.head? == some '.' && isRun Decimal.isDigit (fraction.takeWhile isDigitOrLine) &&
      isExponent tail) ||
    (hasPoint && tail.isEmpty && match splitAt ':' whole with
      | first :: next :: rest => isRun Decimal.isDigit first && (next :: rest).all isSixtieth
      | _ => false) ||
    [".inf", ".Inf", ".INF"].any (·.toList == body) ||
    [".nan", ".NaN", ".NAN"].any (·.toList == s)

structure MomentText where
  year : List Char
  month : List Char
  day : List Char
  /-- hour, minute, second and fraction -/
  time : Option (List Char × List Char × List Char × List Char)
  /-- `none` without a zone; else sign, hours and minutes, with an empty sign for universal time -/
  zone : Option (List Char × List Char × List Char)

def oneOrTwo : List Char → Option (List Char × List Char)
  | a :: b :: rest =>
    if Decimal.isDigit a then
      if Decimal.isDigit b then some ([a, b], rest) else some ([a], b :: rest)
    else none
  | [a] => if Decimal.isDigit a then some ([a], []) else none
  | [] => none

def two : List Char → Option (List Char × List Char)
  | a :: b :: rest => if Decimal.isDigit a && Decimal.isDigit b then some ([a, b], rest) else none
  | _ => none

def behind (mark : Char) : List Char → Option (List Char)
  | c :: rest => if c == mark then some rest else none
  | [] => none

def zoneText? (s : List Char) : Option (Option (List Char × List Char × List Char)) :=
  match s, s.dropWhile fun c => c == ' ' || c == '\t' with
  | [], _ => some none
  | _, ['Z'] => some (some ([], [], []))
  | _, sign :: rest =>
    if sign == '-' || sign == '+' then
      match oneOrTwo rest with
      | some (hours, []) => some (some ([sign], hours, []))
      | some (hours, ':' :: rest) =>
        match two rest with
        | some (minutes, []) => some (some ([sign], hours, minutes))
        | _ => none
      | _ => none
    else none
  | _, [] => none

def timeText? (s : List Char) :
    Option ((List Char × List Char × List Char × List Char) ×
      Option (List Char × List Char × List Char)) := do
  let (hour, s) ← oneOrTwo s
  let (minute, s) ← two (← behind ':' s)
  let (second, s) ← two (← behind ':' s)
  let (fraction, s) := match s with
    | '.' :: rest => (rest.takeWhile Decimal.isDigit, rest.dropWhile Decimal.isDigit)
    | s => ([], s)
  return ((hour, minute, second, fraction), ← zoneText? s)

/-- The parts of a date or moment. A date by itself is one with any number of digits in month and
day. -/
def momentText? (s : List Char) : Option MomentText := do
  let (a, s) ← two s
  let (b, s) ← two s
  let (month, s) ← oneOrTwo (← behind '-' s)
  let (day, s) ← oneOrTwo (← behind '-' s)
  match s with
  | [] => return ⟨a ++ b, month, day, none, none⟩
  | c :: rest =>
    let rest ← if c == 'T' || c == 't' then some rest
      else if c == ' ' || c == '\t' then some (rest.dropWhile fun c => c == ' ' || c == '\t')
      else none
    let (time, zone) ← timeText? rest
    return ⟨a ++ b, month, day, some time, zone⟩

def isMoment (s : List Char) : Bool :=
  match momentText? s with
  | none => false
  | some m => m.time.isSome || (m.month.length == 2 && m.day.length == 2)

def truthWords : List String := ["yes", "no", "true", "false", "on", "off"]

def isSpelling (words : List String) (s : List Char) : Bool :=
  words.any fun w => w.toList == s || w.toUpper.toList == s || w.capitalize.toList == s

/-- The tag that a plain scalar gets by its looks. A line feed at its end is not looked at, but is
no empty scalar by itself. -/
def ofPlain (s : List Char) : Tag :=
  let isEmpty := s.isEmpty
  let s := if s.getLast? == some '\n' then s.dropLast else s
  if isEmpty || s == ['~'] || isSpelling ["null"] s then null
  else if isSpelling truthWords s then bool
  else if isFloat s then float
  else if isInteger s then int
  else if s == ['<', '<'] then merge
  else if isMoment s then timestamp
  else if s == ['='] then value
  else if s == ['!'] || s == ['&'] || s == ['*'] then other (standard ++ "yaml")
  else str

end Tag

end Rehearsal.Yaml
