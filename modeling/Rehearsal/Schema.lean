import Rehearsal.Datum
import Rehearsal.Decimal.Numeral
import Rehearsal.Text.Class

namespace Rehearsal

namespace Schema

inductive Part
  | key (name : String)
  | index (n : Nat)
  deriving DecidableEq, Repr

def Part.text : Part → String
  | .key name => name
  | .index n => toString n

inductive Cause
  | missing
  | notOneOf (choices : List String)
  | notText
  | undecodable
  | notBytes
  | notList
  | notRecord (name : String)
  | notWhole
  | notNumeral
  | fractional
  | oversized
  | notFinite
  | below (bound : Int)
  | above (bound : Int)
  | notTruth
  | refused (text : String)
  deriving DecidableEq, Repr

def Cause.code : Cause → String
  | .missing => "missing"
  | .notOneOf _ => "enum"
  | .notText => "string_type"
  | .undecodable => "string_unicode"
  | .notBytes => "bytes_type"
  | .notList => "list_type"
  | .notRecord _ => "model_type"
  | .notWhole => "int_type"
  | .notNumeral => "int_parsing"
  | .fractional => "int_from_float"
  | .oversized => "int_parsing_size"
  | .notFinite => "finite_number"
  | .below _ => "greater_than_equal"
  | .above _ => "less_than_equal"
  | .notTruth => "bool_parsing"
  | .refused _ => "value_error"

def choiceText : List String → String
  | [] => ""
  | [a] => s!"'{a}'"
  | [a, b] => s!"'{a}' or '{b}'"
  | a :: rest => s!"'{a}', " ++ choiceText rest

def Cause.message : Cause → String
  | .missing => "Field required"
  | .notOneOf choices => "Input should be " ++ choiceText choices
  | .notText => "Input should be a valid string"
  | .undecodable =>
    "Input should be a valid string, unable to parse raw data as a unicode string"
  | .notBytes => "Input should be a valid bytes"
  | .notList => "Input should be a valid list"
  | .notRecord name => s!"Input should be a valid dictionary or instance of {name}"
  | .notWhole => "Input should be a valid integer"
  | .notNumeral => "Input should be a valid integer, unable to parse string as an integer"
  | .fractional => "Input should be a valid integer, got a number with a fractional part"
  | .oversized => "Unable to parse input string as an integer, exceeded maximum size"
  | .notFinite => "Input should be a finite number"
  | .below bound => s!"Input should be greater than or equal to {bound}"
  | .above bound => s!"Input should be less than or equal to {bound}"
  | .notTruth => "Input should be a valid boolean, unable to interpret input"
  | .refused text => "Value error, " ++ text

structure Issue where
  path : List Part
  cause : Cause
  deriving DecidableEq, Repr

def Issue.pathText (i : Issue) : String := ".".intercalate (i.path.map Part.text)

def Issue.text (i : Issue) : String := i.pathText ++ ": " ++ i.cause.message

abbrev Checked (α : Type) := Except (List Issue) α

def refuse {α : Type} (cause : Cause) : Checked α := .error [⟨[], cause⟩]

def under {α : Type} (part : Part) : Checked α → Checked α
  | .ok a => .ok a
  | .error issues => .error (issues.map fun i => { i with path := part :: i.path })

def both {α β : Type} : Checked α → Checked β → Checked (α × β)
  | .ok a, .ok b => .ok (a, b)
  | .error issues, .ok _ => .error issues
  | .ok _, .error issues => .error issues
  | .error first, .error second => .error (first ++ second)

def each {α : Type} (check : Datum → Checked α) : Nat → List Datum → Checked (List α)
  | _, [] => .ok []
  | n, d :: rest =>
    match both (under (.index n) (check d)) (each check (n + 1) rest) with
    | .ok (a, as) => .ok (a :: as)
    | .error issues => .error issues

def list {α : Type} (check : Datum → Checked α) (d : Datum) : Checked (List α) :=
  match d.opened with
  | .list items | .set items => each check 0 items
  | .pair a b => each check 0 [a, b]
  | _ => refuse .notList

/-- The value of the first of the given keys that an entry is bound to; a field that has no
entry takes its default. -/
def field {α : Type} (entries : List (Datum × Datum)) (keys : List String) (default : Option α)
    (check : Datum → Checked α) : Checked α :=
  match keys.findSome? fun key => (Datum.lookup key entries).map fun d => (key, d) with
  | some (key, d) => under (.key key) (check d)
  | none =>
    match default, keys with
    | some a, _ => .ok a
    | none, key :: _ => under (.key key) (refuse .missing)
    | none, [] => refuse .missing

def optional {α : Type} (check : Datum → Checked α) : Datum → Checked (Option α)
  | .null => .ok none
  | d => (check d).map some

def wholeText : Datum → Checked String
  | .text s => .ok s
  | .bytes b =>
    match Utf8.decode? b with
    | some s => .ok s
    | none => refuse .undecodable
  | .unpaired _ => refuse .undecodable
  | _ => refuse .notText

def text : Datum → Checked Text
  | .unpaired points => .ok (.ofPoints points)
  | d => (wholeText d).map .whole

def bytes : Datum → Checked Bytes
  | .bytes b => .ok b
  | .text s => .ok (Utf8.encode s)
  | .unpaired _ => refuse .undecodable
  | _ => refuse .notBytes

def oneOf {α : Type} (choices : List (String × α)) (d : Datum) : Checked α :=
  match d with
  | .unpaired _ => refuse .undecodable
  | d =>
    match (wholeText d).toOption.bind fun s => choices.lookup s with
    | some a => .ok a
    | none => refuse (.notOneOf (choices.map Prod.fst))

inductive Numeral
  | value (i : Int)
  | oversized
  | none
  deriving DecidableEq, Repr

/-- Reads a numeral without blanks, plus signs, leading zeros or underscores. A run of too many
characters is refused before what follows it is looked at. -/
def strictNumeral (s : List Char) : Numeral :=
  let negative := s.head? == some '-'
  let body := if negative then s.drop 1 else s
  let digits := body.takeWhile Decimal.isDigit
  match body with
  | ['0'] => .value 0
  | '0' :: _ => .none
  | body =>
    let n : Int := Decimal.value 10 digits
    if digits.isEmpty then .none
    else if Decimal.maxDigits < digits.length + (if negative then 1 else 0) then .oversized
    else if digits.length < body.length then .none
    else .value (if negative then -n else n)

/-- Drops zeros and underscores in front of a numeral, of which the first is a zero. One before a
point stays, and of nothing but such ones the last stays; a minus sign may follow them. -/
def withoutZeros? : List Char → Option (List Char)
  | '0' :: c :: rest => behindZeros '0' (c :: rest)
  | c :: rest => if Decimal.isDigit c then some (c :: rest) else none
  | [] => none
where
  /-- What is left behind zeros and underscores, of which one is the last so far. -/
  behindZeros (last : Char) : List Char → Option (List Char)
    | [] => some [last]
    | c :: rest =>
      if c == '0' || c == '_' then behindZeros c rest
      else if c == '.' then some (last :: c :: rest)
      else if c == '-' || Decimal.isDigit c then some (c :: rest)
      else none

def withoutFraction (s : List Char) : List Char :=
  match s.dropWhile (· != '.') with
  | _ :: '0' :: rest => if rest.all (· == '0') then s.takeWhile (· != '.') else s
  | _ => s

def hasDoubled : List Char → Bool
  | '_' :: '_' :: _ => true
  | _ :: rest => hasDoubled rest
  | [] => false

def withoutUnderscores? (s : List Char) : Option (List Char) :=
  if s.head? == some '_' || s.getLast? == some '_' || hasDoubled s then none
  else some (s.filter (· != '_'))

def strictForm? (s : List Char) : Option (List Char) := do
  let s := Text.trimChars Text.isSpace s
  let (negative, s) := match s with
    | '-' :: rest => (true, rest)
    | '+' :: rest => (false, rest)
    | rest => (false, rest)
  let s ← withoutUnderscores? (withoutFraction (← withoutZeros? s))
  return if negative then '-' :: s else s

/-- Reads a whole number: a strict numeral, or blanks around it, a sign, zeros in front, digits with
single underscores between them, and a fraction that is zero. -/
def wholeOfText (s : String) : Checked Int :=
  match strictNumeral s.toList with
  | .value i => .ok i
  | .oversized => refuse .oversized
  | .none =>
    match (strictForm? s.toList).map strictNumeral with
    | some (.value i) => .ok i
    | _ => refuse .notNumeral

/-- A whole number: an integer, a truth value as one or zero, a float without a fraction that fits
64 bits, or a numeral. -/
def whole : Datum → Checked Int
  | .int i => .ok i
  | .bool b => .ok (if b then 1 else 0)
  | .noNumber _ => refuse .notFinite
  | .float x =>
    if x.isInf then refuse .notFinite
    else if x.floor != x then refuse .fractional
    else if -9223372036854775808.0 < x && x < 9223372036854775808.0 then .ok x.toInt64.toInt
    else refuse .oversized
  | .text s => wholeOfText s
  | .bytes b =>
    match Utf8.decode? b with
    | some s => wholeOfText s
    | none => refuse .notNumeral
  | .unpaired _ => refuse .undecodable
  | _ => refuse .notWhole

def wholeWithin (low high : Int) (d : Datum) : Checked Int :=
  match whole d with
  | .error issues => .error issues
  | .ok n =>
    if n < low then refuse (.below low) else if high < n then refuse (.above high) else .ok n

def record {α : Type} (name : String) (check : List (Datum × Datum) → Checked α)
    (d : Datum) : Checked α :=
  match d.opened with
  | .map entries => check entries
  | _ => refuse (.notRecord name)

end Schema

end Rehearsal
