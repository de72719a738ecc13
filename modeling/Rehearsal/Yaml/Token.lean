import Rehearsal.Yaml.ScalarText

namespace Rehearsal.Yaml

inductive Directive
  | version (major : Nat)
  | tag (handle start : String)
  | other
  deriving DecidableEq, Repr

inductive Token
  | streamEnd
  | directive (d : Directive)
  | documentStart
  | documentEnd
  | blockSequenceStart
  | blockMappingStart
  | blockEnd
  | flowSequenceStart
  | flowSequenceEnd
  | flowMappingStart
  | flowMappingEnd
  | blockEntry
  | flowEntry
  | key
  | value
  | alias (name : String)
  | anchor (name : String)
  | tag (handle : Option String) (suffix : String)
  | scalar (points : List Nat) (isPlain : Bool)
  deriving DecidableEq, Repr

/-- A token that may turn out to be the key of a mapping: its number, where it begins, and whether
nothing else can begin there. -/
structure PossibleKey where
  token : Nat
  required : Bool
  index : Nat
  line : Nat
  column : Nat

/-- A lexer: where it is in the text, the indentation around it, and the tokens so far. -/
structure Lexer where
  cursor : Cursor
  tokens : Array Token := #[]
  flow : Nat := 0
  indent : Int := -1
  outer : List Int := []
  keyAllowed : Bool := true
  /-- the possible keys by how deep in brackets they are -/
  keys : List (Nat × PossibleKey) := []

def Lexer.isStale (l : Lexer) (k : PossibleKey) : Bool :=
  k.line != l.cursor.line || 1024 < l.cursor.index - k.index

abbrev Lexing (α : Type) := StateT Lexer (Except Problem) α

namespace Lexing

def refuse {α : Type} : Lexing α := throw .malformed

def read {α : Type} (r : Reading α) : Lexing α := do
  let l ← get
  let (a, cursor) ← r.run l.cursor
  set { l with cursor }
  return a

def peek (n : Nat := 0) : Lexing Char := return (← get).cursor.ahead n

def emit (t : Token) : Lexing Unit := modify fun l => { l with tokens := l.tokens.push t }

def allowKey (b : Bool) : Lexing Unit := modify fun l => { l with keyAllowed := b }

def dropStale : Lexing Unit := do
  let l ← get
  if l.keys.any fun (_, k) => l.isStale k && k.required then refuse
  set { l with keys := l.keys.filter fun (_, k) => !l.isStale k }

def dropKey : Lexing Unit := do
  let l ← get
  match l.keys.lookup l.flow with
  | none => return
  | some k =>
    if k.required then refuse
    set { l with keys := l.keys.filter fun (flow, _) => flow != l.flow }

def noteKey : Lexing Unit := do
  let l ← get
  if l.keyAllowed then
    dropKey
    let required := l.flow == 0 && l.indent == l.cursor.column
    let k : PossibleKey :=
      ⟨l.tokens.size, required, l.cursor.index, l.cursor.line, l.cursor.column⟩
    modify fun l => { l with keys := (l.flow, k) :: l.keys }

def unindent (column : Int) : Lexing Unit := do
  let l ← get
  if l.flow == 0 then
    let closed := (l.indent :: l.outer).takeWhile (column < ·)
    let left := (l.indent :: l.outer).dropWhile (column < ·)
    set { l with
      tokens := l.tokens ++ (closed.map fun _ => Token.blockEnd).toArray
      indent := left.headD (-1)
      outer := left.drop 1 }

def indentAt (column : Nat) (t : Token) (place : Nat) : Lexing Unit := do
  let l ← get
  if l.indent < column then
    set { l with
      tokens := l.tokens.insertIdxIfInBounds place t
      indent := column
      outer := l.indent :: l.outer }

def streamEnd : Lexing Unit := do
  unindent (-1)
  dropKey
  emit .streamEnd

def versionNumber : Reading Nat := do
  match ← Reading.takeWhile Decimal.isDigit with
  | [] => Rehearsal.Yaml.refuse
  | digits =>
    if Decimal.maxDigits < digits.length then throw (.value (.tooManyDigits digits.length))
    return Decimal.value 10 digits

def directiveLine : Reading Directive := do
  Reading.skip
  let name ← Reading.name
  if !isSpaceOrEnd (← Reading.peek) then Rehearsal.Yaml.refuse
  let d ← if name == "YAML" then do
      Reading.dropWhile (· == ' ')
      let major ← versionNumber
      if (← Reading.peek) != '.' then Rehearsal.Yaml.refuse
      Reading.skip
      let _ ← versionNumber
      if !isSpaceOrEnd (← Reading.peek) then Rehearsal.Yaml.refuse
      pure (Directive.version major)
    else if name == "TAG" then do
      Reading.dropWhile (· == ' ')
      let handle ← Reading.handle
      if (← Reading.peek) != ' ' then Rehearsal.Yaml.refuse
      Reading.dropWhile (· == ' ')
      let start ← Reading.uri
      if !isSpaceOrEnd (← Reading.peek) then Rehearsal.Yaml.refuse
      pure (Directive.tag handle start)
    else do
      Reading.dropWhile (!endsLine ·)
      pure Directive.other
  Reading.restOfLine
  return d

def anchorName : Reading String := do
  Reading.skip
  let name ← Reading.name
  let c ← Reading.peek
  if isBlankOrEnd c || "?:,]\x7d%@`".contains c then return name else Rehearsal.Yaml.refuse

def tagParts : Reading (Option String × String) := do
  let c ← Reading.peek 1
  let parts ←
    if c == '<' then do
      Reading.skip 2
      let suffix ← Reading.uri
      if (← Reading.peek) != '>' then Rehearsal.Yaml.refuse
      Reading.skip
      pure (none, suffix)
    else if isBlankOrEnd c then do
      Reading.skip
      pure (none, "!")
    else do
      let word := ((← get).rest.drop 1).takeWhile (!isSpaceOrEnd ·)
      let handle ← if word.contains '!' then Reading.handle else do
        Reading.skip
        pure "!"
      pure (some handle, ← Reading.uri)
  if isSpaceOrEnd (← Reading.peek) then return parts else Rehearsal.Yaml.refuse

def separator (t : Token) : Lexing Unit := do
  unindent (-1)
  dropKey
  allowKey false
  read (Reading.skip 3)
  emit t

def openFlow (t : Token) : Lexing Unit := do
  noteKey
  modify fun l => { l with flow := l.flow + 1, keyAllowed := true }
  read Reading.skip
  emit t

def closeFlow (t : Token) : Lexing Unit := do
  dropKey
  if (← get).flow == 0 then refuse
  modify fun l => { l with flow := l.flow - 1, keyAllowed := false }
  read Reading.skip
  emit t

def flowEntry : Lexing Unit := do
  allowKey true
  dropKey
  read Reading.skip
  emit .flowEntry

def openBlock (t : Token) : Lexing Unit := do
  let l ← get
  if l.flow == 0 then
    if !l.keyAllowed then refuse
    indentAt l.cursor.column t l.tokens.size

def blockEntry : Lexing Unit := do
  openBlock .blockSequenceStart
  allowKey true
  dropKey
  read Reading.skip
  emit .blockEntry

def explicitKey : Lexing Unit := do
  openBlock .blockMappingStart
  allowKey ((← get).flow == 0)
  dropKey
  read Reading.skip
  emit .key

def value : Lexing Unit := do
  let l ← get
  match l.keys.lookup l.flow with
  | some k =>
    let inBlock := l.flow == 0
    set { l with
      keys := l.keys.filter fun (flow, _) => flow != l.flow
      tokens := l.tokens.insertIdxIfInBounds k.token .key
      keyAllowed := false }
    if inBlock then indentAt k.column .blockMappingStart k.token
  | none =>
    openBlock .blockMappingStart
    allowKey (l.flow == 0)
    dropKey
  read Reading.skip
  emit .value

def content (t : Reading Token) : Lexing Unit := do
  noteKey
  allowKey false
  emit (← read t)

def blockScalar (folding : Bool) : Lexing Unit := do
  allowKey true
  dropKey
  read Reading.skip
  let points ← read (Reading.block folding (← get).indent)
  emit (.scalar points false)

def quotedScalar (double : Bool) : Lexing Unit :=
  content do
    Reading.skip
    return .scalar (← Reading.quoted double ((← get).left + 1)) false

/-- A plain scalar; behind a break that ends it a key may begin. -/
def plainScalar : Lexing Unit := do
  noteKey
  let l ← get
  let (cs, broken) ← read
    (Reading.plain (l.flow != 0) (l.indent + 1) (l.cursor.left + 1) [])
  allowKey broken
  emit (.scalar (Reading.points cs) true)

def startsPlain (inFlow : Bool) (c next : Char) : Bool :=
  !(isBlankOrEnd c || "-?:,[]\x7b\x7d#&*!|>'\"%@`".contains c) ||
    (!isBlankOrEnd next && (c == '-' || (!inFlow && (c == '?' || c == ':'))))

def next : Lexing Bool := do
  let l ← get
  if ← read (Reading.blanks (l.cursor.left + 1)) then
    if l.flow == 0 then allowKey true
  dropStale
  unindent (← get).cursor.column
  let l ← get
  let inFlow := l.flow != 0
  let c ← peek
  let follows ← peek 1
  let isMark := inFlow || isBlankOrEnd follows
  let atStart := l.cursor.column == 0
  if c == '\x00' then
    streamEnd
    return true
  if c == '%' && atStart then
    unindent (-1)
    dropKey
    allowKey false
    emit (.directive (← read directiveLine))
  else if c == '-' && atStart && l.cursor.atSeparator then separator .documentStart
  else if c == '.' && atStart && l.cursor.atSeparator then separator .documentEnd
  else if c == '[' then openFlow .flowSequenceStart
  else if c == '\x7b' then openFlow .flowMappingStart
  else if c == ']' then closeFlow .flowSequenceEnd
  else if c == '\x7d' then closeFlow .flowMappingEnd
  else if c == ',' then flowEntry
  else if c == '-' && isBlankOrEnd follows then blockEntry
  else if c == '?' && isMark then explicitKey
  else if c == ':' && isMark then value
  else if c == '*' then content do return .alias (← anchorName)
  else if c == '&' then content do return .anchor (← anchorName)
  else if c == '!' then content do
    let (handle, suffix) ← tagParts
    return .tag handle suffix
  else if c == '|' && !inFlow then blockScalar false
  else if c == '>' && !inFlow then blockScalar true
  else if c == '\'' then quotedScalar false
  else if c == '"' then quotedScalar true
  else if startsPlain inFlow c follows then plainScalar
  else refuse
  return false

end Lexing

structure Tokens where
  list : List Token
  stop : Option Problem

namespace Lexer

/-- The tokens that come before every possible key. What stands behind them is not settled. -/
def settled (l : Lexer) : List Token :=
  let pending := (l.keys.filter fun (_, k) => !l.isStale k).map fun (_, k) => k.token
  l.tokens.toList.take (pending.foldl min l.tokens.size)

def run : Nat → Lexer → Tokens
  | 0, l => ⟨l.settled, some .malformed⟩
  | fuel + 1, l =>
    match Lexing.next.run l with
    | .error p => ⟨l.settled, some p⟩
    | .ok (true, l) => ⟨l.tokens.toList, none⟩
    | .ok (false, l) => run fuel l

def isAdmitted (c : Char) : Bool :=
  let n := c.toNat
  n == 0x09 || n == 0x0A || n == 0x0D || (0x20 ≤ n && n ≤ 0x7E) || n == 0x85 ||
    (0xA0 ≤ n && n != 0xFFFE && n != 0xFFFF)

end Lexer

def Tokens.ofText (text : List Char) : Tokens :=
  if text.all Lexer.isAdmitted then
    let cursor : Cursor := { rest := text, size := text.length }
    let cursor := if text.head? == some '\ufeff' then cursor.step else cursor
    Lexer.run (text.length + 1) { cursor }
  else ⟨[], some .malformed⟩

end Rehearsal.Yaml
