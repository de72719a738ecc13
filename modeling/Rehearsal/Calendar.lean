import Rehearsal.Text.Quoted

namespace Rehearsal

structure Date where
  year : Nat
  month : Nat
  day : Nat
  deriving DecidableEq, Repr

/-- A time of day on a date; `offset` is the distance from universal time in seconds, if known. -/
structure Moment where
  date : Date
  hour : Nat
  minute : Nat
  second : Nat
  micros : Nat
  offset : Option Int
  deriving DecidableEq, Repr

def padded (width n : Nat) : String :=
  let digits := toString n
  "".pushn '0' (width - digits.length) ++ digits

namespace Date

def isLeap (year : Nat) : Bool := year % 4 == 0 && (year % 100 != 0 || year % 400 == 0)

def daysIn (year month : Nat) : Nat :=
  if month == 2 then if isLeap year then 29 else 28
  else if month == 4 || month == 6 || month == 9 || month == 11 then 30
  else 31

def problem? (d : Date) : Option String :=
  if d.year == 0 then some "year 0 is out of range"
  else if d.month == 0 || 12 < d.month then some "month must be in 1..12"
  else if d.day == 0 || daysIn d.year d.month < d.day then some "day is out of range for month"
  else none

def text (d : Date) : String := s!"{padded 4 d.year}-{padded 2 d.month}-{padded 2 d.day}"

/-- The date a number of days after 1970-01-01, counted in eras of 400 years that begin on the
first of March. -/
def ofDays (days : Int) : Date :=
  let z := days + 719468
  let era := z.fdiv 146097
  let dayOfEra := (z - era * 146097).toNat
  let yearOfEra := (dayOfEra - dayOfEra / 1460 + dayOfEra / 36524 - dayOfEra / 146096) / 365
  let dayOfYear := dayOfEra - (365 * yearOfEra + yearOfEra / 4 - yearOfEra / 100)
  let shifted := (5 * dayOfYear + 2) / 153
  let day := dayOfYear - (153 * shifted + 2) / 5 + 1
  let month := if shifted < 10 then shifted + 3 else shifted - 9
  let year := (yearOfEra : Int) + era * 400 + (if month ≤ 2 then 1 else 0)
  ⟨year.toNat, month, day⟩

def daysBefore (year : Nat) : Nat :=
  let past := year - 1
  365 * past + past / 4 - past / 100 + past / 400

def ordinal (d : Date) : Nat :=
  (List.range (d.month - 1)).foldl (fun days m => days + daysIn d.year (m + 1)) (daysBefore d.year) +
    d.day

end Date

namespace Moment

def problem? (m : Moment) : Option String :=
  m.date.problem? <|>
    if 23 < m.hour then some "hour must be in 0..23"
    else if 59 < m.minute then some "minute must be in 0..59"
    else if 59 < m.second then some "second must be in 0..59"
    else none

def offsetText (seconds : Int) : String :=
  let n := seconds.natAbs
  let rest := n % 60
  (if seconds < 0 then "-" else "+") ++ s!"{padded 2 (n / 3600)}:{padded 2 (n / 60 % 60)}" ++
    (if rest == 0 then "" else s!":{padded 2 rest}")

def text (mark : String) (m : Moment) : String :=
  s!"{m.date.text}{mark}{padded 2 m.hour}:{padded 2 m.minute}:{padded 2 m.second}" ++
    (if m.micros == 0 then "" else s!".{padded 6 m.micros}") ++
    (m.offset.map offsetText).getD ""

def ofMicros (micros : Int) : Moment :=
  let days := micros.fdiv 86400000000
  let rest := (micros - days * 86400000000).toNat
  let seconds := rest / 1000000
  ⟨Date.ofDays days, seconds / 3600, seconds / 60 % 60, seconds % 60, rest % 1000000, some 0⟩

def localSecond (m : Moment) : Nat :=
  m.date.ordinal * 86400 + m.hour * 3600 + m.minute * 60 + m.second

/-- Whether two moments are the same: of those that know their distance from universal time when
they are counts, of the others what they tell. -/
def isSame (m n : Moment) : Bool :=
  match m.offset, n.offset with
  | some a, some b =>
    (m.localSecond : Int) - a == n.localSecond - b && m.micros == n.micros
  | none, none => m == n
  | _, _ => false

def stamp (micros : Int) : String :=
  let m := ofMicros micros
  { m with offset := none }.text "T" ++ "Z"

end Moment

end Rehearsal
