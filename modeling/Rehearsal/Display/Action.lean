import Rehearsal.Text.Class
import Rehearsal.Text.Quoted

namespace Rehearsal.Display.Action

inductive Cause
  | malformed
  /-- two values in brackets stand side by side -/
  | noComma
  | unmatched (closing : Char)
  | mismatched (closing opening : Char)
  | neverClosed (opening : Char)
  | unterminated (isTriple : Bool) (line : Nat)
  | badNumber
  | leadingZeros
  | badContinuation
  | nullCharacter
  deriving DecidableEq, Repr

def Cause.message : Cause → String
  | malformed => "invalid syntax"
  | noComma => "invalid syntax. Perhaps you forgot a comma?"
  | unmatched closing => s!"unmatched '{closing}'"
  | mismatched closing opening =>
    s!"closing parenthesis '{closing}' does not match opening parenthesis '{opening}'"
  | neverClosed opening => s!"'{opening}' was never closed"
  | unterminated false line => s!"unterminated string literal (detected at line {line})"
  | unterminated true line =>
    s!"unterminated triple-quoted string literal (detected at line {line})"
  | badNumber => "invalid decimal literal"
  | leadingZeros =>
    "leading zeros in decimal integer literals are not permitted; " ++
      "use an 0o prefix for octal integers"
  | badContinuation => "unexpected character after line continuation character"
  | nullCharacter => "source code string cannot contain null bytes"

structure Fault where
  arguments : String
  setting : String
  cause : Cause
  deriving DecidableEq, Repr

def Fault.message (f : Fault) : String :=
  s!"error parsing {Text.quote f.arguments} in {Text.quote f.setting}; {f.cause.message}"

def isWord (c : Char) : Bool := c.isAlphanum || c == '_' || 0x80 ≤ c.toNat

inductive Last
  /-- something behind which a value has to follow -/
  | operator
  | opening
  | comma
  | name
  | text
  | value
  deriving DecidableEq, Repr

def Last.wantsValue : Last → Bool
  | operator | opening | comma => true
  | name | text | value => false

/-- How far arguments have been read: the brackets that are open, the last opened first, what was
read last, the first fault of their form, and whether nothing has been read since. -/
structure State where
  opened : List Char := []
  last : Last := .operator
  fault : Option Cause := none
  isFresh : Bool := false

namespace State

def note (s : State) (cause : Cause) : State :=
  if s.fault.isSome then s else { s with fault := some cause, isFresh := true }

def next (s : State) : State := { s with isFresh := false }

def value (s : State) (kind : Last) : State :=
  let s := s.next
  let s' := if s.last.wantsValue || (s.last = .text && kind = .text) then s
    else if s.opened.isEmpty || (s.last = .name && kind = .text) then s.note .malformed
    else s.note .noComma
  { s' with last := kind }

def bracket (s : State) (c : Char) : State :=
  let s := s.next
  let s' := if s.last.wantsValue || c != '\x7b' then s
    else s.note (if s.opened.isEmpty then .malformed else .noComma)
  { s' with opened := c :: s.opened, last := .opening }

def partner (closing : Char) : Char :=
  if closing == ')' then '(' else if closing == ']' then '[' else '\x7b'

def close (s : State) (c : Char) : Except Cause State :=
  match s.opened with
  | [] => .error (.unmatched c)
  | opening :: rest =>
    if opening != partner c then .error (.mismatched c opening)
    else
      let s' := if s.last = .operator then s.next.note .malformed else s.next
      .ok { s' with opened := rest, last := .value }

def sign (s : State) (c : Char) : State :=
  let s := s.next
  let isFine := if c == '+' || c == '-' then true
    else if c == '~' then s.last.wantsValue
    else if c == ',' then !s.last.wantsValue
    else if c == ':' then !s.last.wantsValue && s.opened.head? = some '\x7b'
    else "*/%&|^<>".contains c && !s.last.wantsValue
  { (if isFine then s else s.note .malformed) with last := if c == ',' then .comma else .operator }

/-- What the arguments come to. That a comma is missing between two values is only known when
something follows them. -/
def finish (s : State) : Except Cause Unit :=
  match s.opened, s.fault with
  | opening :: _, none => .error (.neverClosed opening)
  | opening :: _, some .noComma => .error (if s.isFresh then .neverClosed opening else .noComma)
  | _, some cause => .error cause
  | [], none => if s.last = .operator then .error .malformed else .ok ()

end State

def behindText? (mark : Char) : List Char → Option (List Char)
  | [] => none
  | '\\' :: _ :: rest => behindText? mark rest
  | c :: rest => if c == mark then some rest else if c == '\n' then none else behindText? mark rest

def behindTriple? (mark : Char) : List Char → Option (List Char)
  | [] => none
  | '\\' :: _ :: rest => behindTriple? mark rest
  | c :: rest =>
    if c == mark && [mark, mark].isPrefixOf rest then some (rest.drop 2)
    else behindTriple? mark rest

def text (before : Nat) (mark : Char) (rest : List Char) : Except Cause (List Char) :=
  if [mark, mark].isPrefixOf rest then
    match behindTriple? mark (rest.drop 2) with
    | some rest => .ok rest
    | none => .error (.unterminated true (before + rest.count '\n' + 1))
  else
    match behindText? mark rest with
    | some rest => .ok rest
    | none => .error (.unterminated false (before + 1))

def isGrouped (digits : List Char) : Bool :=
  digits.head? != some '_' && digits.getLast? != some '_' &&
    (digits.zip digits.tail).all fun (a, b) => !(a == '_' && b == '_')

def behindNumber : List String := ["and", "else", "for", "if", "in", "is", "not", "or"]

def number (s : List Char) : Except Cause (List Char) :=
  let isDigit c := c.isDigit || c == '_'
  let base := (s.drop 1).head?.any fun c => "xXoObB".contains c
  if s.head? = some '0' && base then .ok ((s.drop 2).dropWhile isWord)
  else
    let whole := s.takeWhile isDigit
    let rest := s.drop whole.length
    let places := if rest.head? = some '.' then rest.tail.takeWhile isDigit else []
    let hasPoint := rest.head? = some '.'
    let rest := if hasPoint then rest.drop (places.length + 1) else rest
    let hasPower := rest.head?.any fun c => c == 'e' || c == 'E'
    let power := if !hasPower then []
      else
        let sign := rest.tail.takeWhile fun c => c == '+' || c == '-'
        (sign.take 1) ++ (rest.drop (1 + (sign.take 1).length)).takeWhile isDigit
    let rest := if hasPower then rest.drop (power.length + 1) else rest
    let isImaginary := rest.head?.any fun c => c == 'j' || c == 'J'
    let rest := if isImaginary then rest.tail else rest
    let isWhole := !hasPoint && !hasPower && !isImaginary
    let parts := [whole, places, power]
    let goesOn := rest.head?.any isWord && !behindNumber.any (·.toList.isPrefixOf rest)
    if isWhole && whole.head? = some '0' && whole.any (fun c => c != '0' && c != '_') then
      .error .leadingZeros
    else if !parts.all isGrouped || (hasPower && !power.any Char.isDigit) || goesOn then
      .error .badNumber
    else .ok rest

def textMarks : List String := ["r", "u", "b", "f", "br", "rb", "fr", "rf"]

def reserved : List String :=
  ["and", "as", "assert", "async", "await", "break", "class", "continue", "def", "del", "elif",
    "else", "except", "finally", "for", "from", "global", "if", "import", "in", "is", "lambda",
    "nonlocal", "not", "or", "pass", "raise", "return", "try", "while", "with", "yield"]

def readFrom : Nat → Nat → State → List Char → Except Cause Unit
  | 0, _, s, _ => s.finish
  | _ + 1, _, s, [] => s.finish
  | fuel + 1, before, s, c :: rest =>
    if c == '\n' then
      readFrom fuel (before + 1) (if s.opened.isEmpty then s.note .malformed else s) rest
    else if c == ' ' || c == '\t' || c == '\x0c' then readFrom fuel before s rest
    else if c == '#' then readFrom fuel before s (rest.dropWhile (· != '\n'))
    else if c == '\\' then
      match rest with
      | '\n' :: rest => readFrom fuel (before + 1) s rest
      | _ => .error (s.fault.getD .badContinuation)
    else if c == '\'' || c == '"' then do
      let after ← text before c rest
      let feeds := (rest.take (rest.length - after.length)).count '\n'
      readFrom fuel (before + feeds) (s.value .text) after
    else if c.isDigit || (c == '.' && rest.head?.any Char.isDigit) then do
      readFrom fuel before (s.value .value) (← number (c :: rest))
    else if isWord c then
      let word := String.ofList (c :: rest.takeWhile isWord)
      let after := rest.dropWhile isWord
      if textMarks.contains word.toLower && after.head?.any (fun c => c == '\'' || c == '"') then
        readFrom fuel before s after
      else if reserved.contains word then readFrom fuel before (s.note .malformed) after
      else readFrom fuel before (s.value .name) after
    else if c == '(' || c == '[' || c == '\x7b' then readFrom fuel before (s.bracket c) rest
    else if c == ')' || c == ']' || c == '\x7d' then do readFrom fuel before (← s.close c) rest
    else if c == '.' && !s.last.wantsValue then
      readFrom fuel before { s with last := .operator } rest
    else readFrom fuel before (s.sign c) rest

def read (s : List Char) : Except Cause Unit :=
  if s.contains '\x00' then .error .nullCharacter else readFrom s.length 0 {} s

/-- The arguments in a setting: those behind a handler's name, or the whole setting if it is not of
that form. A handler alone has none. -/
def arguments (setting : List Char) : List Char :=
  let behind := setting.dropWhile fun c => isWord c || c == '.'
  if behind.isEmpty then ['(', ')']
  else if behind.head? = some '(' && behind.getLast? == some ')' && !behind.contains '\n' then
    behind
  else setting

def check (setting : String) : Except Fault Unit :=
  let arguments := arguments (Text.trimmed setting).toList
  if setting.isEmpty then .ok ()
  else (read arguments).mapError fun cause => ⟨String.ofList arguments, setting, cause⟩

end Rehearsal.Display.Action
