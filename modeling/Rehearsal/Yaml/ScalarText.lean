import Rehearsal.Yaml.Cursor

namespace Rehearsal.Yaml.Reading

def points (cs : List Char) : List Nat := cs.map Char.toNat

def folded (first breaks : List Char) : List Char :=
  if first != ['\n'] then first ++ breaks else if breaks.isEmpty then [' '] else breaks

def quotedBreaks : Nat → Reading (List Char)
  | 0 => return []
  | fuel + 1 => do
    if (← get).atSeparator then refuse
    dropWhile fun c => c == ' ' || c == '\t'
    match ← lineBreak with
    | [] => return []
    | cs => return cs ++ (← quotedBreaks fuel)

def quotedBlanks : Reading (List Char) := do
  let blank ← takeWhile fun c => c == ' ' || c == '\t'
  let c ← peek
  if c == '\x00' then refuse
  else if isBreak c then
    let first ← lineBreak
    return folded first (← quotedBreaks ((← get).left + 1))
  else return blank

def escaped? : Char → Option Nat
  | '0' => some 0x00
  | 'a' => some 0x07
  | 'b' => some 0x08
  | 't' => some 0x09
  | '\t' => some 0x09
  | 'n' => some 0x0A
  | 'v' => some 0x0B
  | 'f' => some 0x0C
  | 'r' => some 0x0D
  | 'e' => some 0x1B
  | ' ' => some 0x20
  | '"' => some 0x22
  | '\\' => some 0x5C
  | '/' => some 0x2F
  | 'N' => some 0x85
  | '_' => some 0xA0
  | 'L' => some 0x2028
  | 'P' => some 0x2029
  | _ => none

def escapeWidth? : Char → Option Nat
  | 'x' => some 2
  | 'u' => some 4
  | 'U' => some 8
  | _ => none

def codePoint (width : Nat) : Reading Nat := do
  let digits := (← get).rest.take width
  if digits.length < width || !digits.all (fun c => (Hex.value? c).isSome) then refuse
  let n := Decimal.value 16 digits
  if 0x10FFFF < n then throw (.value (.badPoint (0x7FFFFFFF < n)))
  skip width
  return n

def escape : Reading (List Nat) := do
  let c ← peek
  match escaped? c, escapeWidth? c with
  | some n, _ =>
    skip
    return [n]
  | none, some width =>
    skip
    return [← codePoint width]
  | none, none =>
    if isBreak c then
      let _ ← lineBreak
      return points (← quotedBreaks ((← get).left + 1))
    else refuse

def quoted (double : Bool) : Nat → Reading (List Nat)
  | 0 => refuse
  | fuel + 1 => do
    let plain ← takeWhile fun c => !(c == '\'' || c == '"' || c == '\\' || isBlankOrEnd c)
    let c ← peek
    let part : List Nat ←
      if !double && c == '\'' && (← peek 1) == '\'' then do
        skip 2
        pure [c.toNat]
      else if c == (if double then '"' else '\'') then do
        skip
        return points plain
      else if double && c == '\\' then do
        skip
        escape
      else if c == '\'' || c == '"' || c == '\\' then do
        skip
        pure [c.toNat]
      else do
        pure (points (← quotedBlanks))
    return points plain ++ part ++ (← quoted double fuel)

/-- The breaks and empty lines behind a line of a plain scalar; none if a document mark ends the
scalar there. -/
def plainBreaks : Nat → Reading (Option (List Char))
  | 0 => return some []
  | fuel + 1 => do
    dropWhile (· == ' ')
    if isBreak (← peek) then
      let first ← lineBreak
      if (← get).atSeparator then return none
      return (← plainBreaks fuel).map (first ++ ·)
    else return some []

def plainBlanks : Reading (Option (List Char) × Bool) := do
  let blank ← takeWhile (· == ' ')
  if isBreak (← peek) then
    let first ← lineBreak
    if (← get).atSeparator then return (none, true)
    match ← plainBreaks ((← get).left + 1) with
    | none => return (none, true)
    | some breaks => return (some (folded first breaks), true)
  else if blank.isEmpty then return (none, false)
  else return (some blank, false)

def wordLength (inFlow : Bool) : List Char → Nat
  | [] => 0
  | c :: rest =>
    let next := rest.headD '\x00'
    if isBlankOrEnd c || (c == ':' && (isBlankOrEnd next || (inFlow && ",[]\x7b\x7d".contains next)))
      || (inFlow && ",?[]\x7b\x7d".contains c) then 0
    else wordLength inFlow rest + 1

/-- A plain scalar, and whether there was a break behind it. `indent` is the least column at which
it goes on, `blank` what stands between the words read before and the next one. -/
def plain (inFlow : Bool) (indent : Int) : Nat → List Char → Reading (List Char × Bool)
  | 0, _ => return ([], false)
  | fuel + 1, blank => do
    let length := wordLength inFlow (← get).rest
    if (← peek) == '#' || length == 0 then return ([], false)
    let word := (← get).rest.take length
    skip length
    let (next, broken) ← plainBlanks
    match next with
    | none => return (blank ++ word, broken)
    | some next =>
      if (← peek) == '#' || (!inFlow && ((← get).column : Int) < indent) then
        return (blank ++ word, broken)
      else
        let (more, brokenLater) ← plain inFlow indent fuel next
        return (blank ++ word ++ more, if more.isEmpty then broken else brokenLater)

inductive Chomping
  /-- the last line break and all empty lines go -/
  | strip
  /-- the last line break stays -/
  | clip
  /-- all stays -/
  | keep
  deriving DecidableEq, Repr

def chomping? : Char → Option Chomping
  | '+' => some .keep
  | '-' => some .strip
  | _ => none

def increment? : Reading (Option Nat) := do
  let c ← peek
  if Decimal.isDigit c then
    if c == '0' then refuse
    skip
    return some (c.toNat - '0'.toNat)
  else return none

def blockHeader : Reading (Chomping × Option Nat) := do
  match chomping? (← peek) with
  | some chomping =>
    skip
    return (chomping, ← increment?)
  | none =>
    match ← increment? with
    | none => return (.clip, none)
    | some increment =>
      match chomping? (← peek) with
      | some chomping =>
        skip
        return (chomping, some increment)
      | none => return (.clip, some increment)

def leadingBreaks : Nat → Nat → Reading (List Char × Nat)
  | 0, reach => return ([], reach)
  | fuel + 1, reach => do
    let c ← peek
    if c == ' ' then
      skip
      leadingBreaks fuel (max reach (← get).column)
    else if isBreak c then
      let first ← lineBreak
      let (breaks, reach) ← leadingBreaks fuel reach
      return (first ++ breaks, reach)
    else return ([], reach)

def indentTo (indent : Nat) : Nat → Reading Unit
  | 0 => return
  | fuel + 1 => do
    if (← get).column < indent && (← peek) == ' ' then
      skip
      indentTo indent fuel

def innerBreaks (indent : Nat) : Nat → Reading (List Char)
  | 0 => return []
  | fuel + 1 => do
    indentTo indent indent
    if isBreak (← peek) then
      let first ← lineBreak
      return first ++ (← innerBreaks indent fuel)
    else return []

def atBlockLine (indent : Nat) : Reading Bool :=
  return (← get).column == indent && (← peek) != '\x00'

def blockLines (folding : Bool) (chomping : Chomping) (indent : Nat) :
    Nat → List Char → Reading (List Char)
  | 0, _ => return []
  | fuel + 1, before => do
    if !(← atBlockLine indent) then
      return if chomping == .keep then before else []
    let c ← peek
    let line ← takeWhile (!endsLine ·)
    let last ← lineBreak
    let breaks ← innerBreaks indent ((← get).left + 1)
    if ← atBlockLine indent then
      let next ← peek
      let isText (c : Char) : Bool := !(c == ' ' || c == '\t')
      let joint := if folding && last == ['\n'] && isText c && isText next then
          if breaks.isEmpty then [' '] else []
        else last
      return before ++ line ++ joint ++ (← blockLines folding chomping indent fuel breaks)
    else
      return before ++ line ++ (if chomping == .strip then [] else last) ++
        (if chomping == .keep then breaks else [])

/-- A block scalar from behind its mark; `parent` is the indentation around it. -/
def block (folding : Bool) (parent : Int) : Reading (List Nat) := do
  let (chomping, increment) ← blockHeader
  if !isSpaceOrEnd (← peek) then refuse
  restOfLine
  let least := (max (parent + 1) 1).toNat
  let fuel := (← get).left + 1
  let (breaks, indent) ← match increment with
    | none => do
      let (breaks, reach) ← leadingBreaks fuel 0
      pure (breaks, max least reach)
    | some increment => do
      let indent := least + increment - 1
      pure (← innerBreaks indent fuel, indent)
  return points (← blockLines folding chomping indent fuel breaks)

end Rehearsal.Yaml.Reading
