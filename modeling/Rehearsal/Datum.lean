import Rehearsal.Calendar
import Rehearsal.Decimal.Numeral
import Rehearsal.Decimal.Shortest
import Rehearsal.Text

namespace Rehearsal

/-- A decoded value. A collection may hold itself: then collections have names, and a name met again inside
its own collection stands for that. -/
inductive Datum
  | null
  | bool (b : Bool)
  | int (i : Int)
  | float (x : Float)
  /-- a float that is no number; as a key only one of the same origin equals it -/
  | noNumber (origin : Nat)
  | text (s : String)
  /-- code points of a text that holds a surrogate without its partner -/
  | unpaired (points : List Nat)
  | bytes (b : Bytes)
  | date (d : Date)
  | moment (m : Moment)
  | list (items : List Datum)
  | pair (first second : Datum)
  | set (items : List Datum)
  | map (entries : List (Datum × Datum))
  /-- a collection with a name -/
  | named (name : Nat) (d : Datum)
  /-- the collection with a name, met again inside itself -/
  | again (name : Nat) (isMap : Bool)

namespace Datum

instance : Inhabited Datum := ⟨.null⟩

def ofText : Text → Datum
  | .whole s => .text s
  | .torn points _ => .unpaired points

def ofPoints (points : List Nat) : Datum := ofText (.ofPoints points)

mutual

def tied (name : Nat) (d : Datum) : Datum → Datum
  | list items => list (tiedAll name d items)
  | pair a b => pair (tied name d a) (tied name d b)
  | set items => set (tiedAll name d items)
  | map entries => map (tiedEntries name d entries)
  | named n e => if n == name then named n e else named n (tied name d e)
  | again n isMap => if n == name then d else again n isMap
  | e => e

def tiedAll (name : Nat) (d : Datum) : List Datum → List Datum
  | [] => []
  | e :: rest => tied name d e :: tiedAll name d rest

def tiedEntries (name : Nat) (d : Datum) : List (Datum × Datum) → List (Datum × Datum)
  | [] => []
  | (k, v) :: rest => (tied name d k, tied name d v) :: tiedEntries name d rest

end

/-- A datum without a name of its own; where it holds itself, the whole of it stands. -/
def opened : Datum → Datum
  | named name d => tied name (named name d) d
  | d => d

def kind : Datum → String
  | null => "NoneType"
  | bool _ => "bool"
  | int _ => "int"
  | float _ | noNumber _ => "float"
  | text _ | unpaired _ => "str"
  | bytes _ => "bytes"
  | date _ => "date"
  | moment _ => "datetime"
  | list _ => "list"
  | pair .. => "tuple"
  | set _ => "set"
  | map _ => "dict"
  | named _ d => d.kind
  | again _ isMap => if isMap then "dict" else "list"

def boolText (b : Bool) : String := if b then "True" else "False"

def spanQuoted (seconds : Int) : String :=
  let days := seconds.fdiv 86400
  let rest := seconds - days * 86400
  let parts := (if days == 0 then [] else [s!"days={days}"]) ++
    (if rest == 0 then [] else [s!"seconds={rest}"])
  "datetime.timedelta(" ++ (if parts.isEmpty then "0" else ", ".intercalate parts) ++ ")"

def offsetQuoted (seconds : Int) : String :=
  if seconds == 0 then "datetime.timezone.utc" else s!"datetime.timezone({spanQuoted seconds})"

def momentQuoted (m : Moment) : String :=
  let numbers := [m.date.year, m.date.month, m.date.day, m.hour, m.minute] ++
    (if m.micros != 0 then [m.second, m.micros] else if m.second != 0 then [m.second] else [])
  let parts := numbers.map toString ++
    (m.offset.map fun seconds => s!"tzinfo={offsetQuoted seconds}").toList
  "datetime.datetime(" ++ ", ".intercalate parts ++ ")"

def againQuoted (isMap : Bool) : String := if isMap then "\x7b...\x7d" else "[...]"

mutual

def quotedWithin (names : List Nat) : Datum → String
  | null => "None"
  | bool b => boolText b
  | int i => toString i
  | float x => Decimal.text x
  | noNumber _ => "nan"
  | text s => Text.quote s
  | unpaired points => Text.quotePoints points
  | bytes b => Text.quoteBytes b
  | date d => s!"datetime.date({d.year}, {d.month}, {d.day})"
  | moment m => momentQuoted m
  | list items => "[" ++ ", ".intercalate (quotedAll names items) ++ "]"
  | pair a b => "(" ++ quotedWithin names a ++ ", " ++ quotedWithin names b ++ ")"
  | set [] => "set()"
  | set items => "\x7b" ++ ", ".intercalate (quotedAll names items) ++ "\x7d"
  | map entries => "\x7b" ++ ", ".intercalate (quotedEntries names entries) ++ "\x7d"
  | named name d =>
    if names.contains name then againQuoted (d.kind == "dict")
    else quotedWithin (name :: names) d
  | again _ isMap => againQuoted isMap

def quotedAll (names : List Nat) : List Datum → List String
  | [] => []
  | d :: rest => quotedWithin names d :: quotedAll names rest

def quotedEntries (names : List Nat) : List (Datum × Datum) → List String
  | [] => []
  | (k, v) :: rest =>
    (quotedWithin names k ++ ": " ++ quotedWithin names v) :: quotedEntries names rest

end

def quoted (d : Datum) : String := quotedWithin [] d

def shown : Datum → Text
  | text s => s
  | unpaired points => .ofPoints points
  | date d => d.text
  | moment m => m.text " "
  | d => d.quoted

mutual

def isTooLong : Datum → Bool
  | int i => Decimal.isTooLong i
  | list items | set items => anyTooLong items
  | pair a b => a.isTooLong || b.isTooLong
  | map entries => anyEntryTooLong entries
  | named _ d => d.isTooLong
  | _ => false

def anyTooLong : List Datum → Bool
  | [] => false
  | d :: rest => d.isTooLong || anyTooLong rest

def anyEntryTooLong : List (Datum × Datum) → Bool
  | [] => false
  | (k, v) :: rest => k.isTooLong || v.isTooLong || anyEntryTooLong rest

end

def isTrue : Datum → Bool
  | null => false
  | bool b => b
  | int i => i != 0
  | float x => x != 0.0
  | text s => !s.isEmpty
  | unpaired points => !points.isEmpty
  | bytes b => !b.isEmpty
  | list items | set items => !items.isEmpty
  | map entries => !entries.isEmpty
  | named _ d => d.isTrue
  | _ => true

def keyNumber? : Datum → Option Int
  | bool b => some b.toNat
  | int i => some i
  | float x => Decimal.integer? x
  | _ => none

/-- Whether two data are one key of a map: numbers by their value, moments by when they are, and all
else by kind and content. -/
def isSameKey (a b : Datum) : Bool :=
  match keyNumber? a, keyNumber? b with
  | some m, some n => m == n
  | some _, none | none, some _ => false
  | none, none =>
    match a, b with
    | null, null => true
    | float x, float y => x == y
    | noNumber m, noNumber n => m == n
    | text s, text t => s == t
    | unpaired s, unpaired t => s == t
    | bytes s, bytes t => s == t
    | date d, date e => d == e
    | moment m, moment n => m.isSame n
    | _, _ => false

def putEntry {α : Type} (key : Datum) (value : α) : List (Datum × α) → List (Datum × α)
  | [] => [(key, value)]
  | (k, v) :: rest =>
    if isSameKey k key then (k, value) :: rest else (k, v) :: putEntry key value rest

def lookup (key : String) : List (Datum × Datum) → Option Datum
  | [] => none
  | (text k, v) :: rest => if k == key then some v else lookup key rest
  | _ :: rest => lookup key rest

def get? (key : String) (d : Datum) : Option Datum :=
  match d.opened with
  | map entries => lookup key entries
  | _ => none

end Datum

end Rehearsal
