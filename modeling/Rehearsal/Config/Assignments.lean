import Rehearsal.Text.Class

namespace Rehearsal.Assignments

def isLineEnd (c : Char) : Bool := c == '\n' || c == '\r'

def isInner (c : Char) : Bool := Text.isBlank c && !isLineEnd c

def afterWord? : List Char → List Char → Option (List Char)
  | [], s => some s
  | w :: word, c :: s => if w == c then afterWord? word s else none
  | _ :: _, [] => none

def afterExport (s : List Char) : List Char :=
  match afterWord? "export".toList s with
  | some (c :: rest) => if isInner c then rest.dropWhile isInner else s
  | _ => s

/-- The text between quotes, from behind the opening one. A backslash takes the next character with
it, so that a quote behind one closes nothing. -/
def quotedBody (quote : Char) : List Char → Option (List Char × List Char)
  | [] => none
  | ['\\'] => none
  | '\\' :: c :: rest => (quotedBody quote rest).map fun (body, rest) => ('\\' :: c :: body, rest)
  | c :: rest =>
    if c == quote then some ([], rest)
    else (quotedBody quote rest).map fun (body, rest) => (c :: body, rest)

def escaped? : Char → Option Char
  | '\\' => some '\\'
  | '\'' => some '\''
  | '"' => some '"'
  | 'a' => some '\x07'
  | 'b' => some '\x08'
  | 'f' => some '\x0c'
  | 'n' => some '\n'
  | 'r' => some '\r'
  | 't' => some '\t'
  | 'v' => some '\x0b'
  | _ => none

def unescape (double : Bool) : List Char → List Char
  | '\\' :: c :: rest =>
    match escaped? c with
    | some x =>
      if double || c == '\\' || c == '\'' then x :: unescape double rest
      else '\\' :: unescape double (c :: rest)
    | none => '\\' :: unescape double (c :: rest)
  | c :: rest => c :: unescape double rest
  | [] => []

def withoutComment (afterBlank : Bool) : List Char → List Char
  | [] => []
  | c :: rest =>
    if c == '#' && afterBlank then [] else c :: withoutComment (Text.isBlank c) rest

def bareValue (s : List Char) : List Char × List Char :=
  let line := s.takeWhile (!isLineEnd ·)
  (Text.trimChars Text.isBlank (withoutComment false line), s.dropWhile (!isLineEnd ·))

/-- The value behind an equals sign: blanks may stand before a quote, and belong to a bare value,
where a comment may follow them. -/
def value? (s : List Char) : Option (List Char × List Char) :=
  match s.dropWhile isInner with
  | '\'' :: rest => (quotedBody '\'' rest).map fun (body, rest) => (unescape false body, rest)
  | '"' :: rest => (quotedBody '"' rest).map fun (body, rest) => (unescape true body, rest)
  | _ => some (bareValue s)

def name? (s : List Char) : Option (Option (List Char) × List Char) :=
  match s with
  | '#' :: _ => some (none, s)
  | '\'' :: rest =>
    let body := rest.takeWhile (· != '\'')
    match rest.dropWhile (· != '\'') with
    | _ :: rest => if body.isEmpty then none else some (some body, rest)
    | [] => none
  | s =>
    let isName (c : Char) : Bool := !(c == '=' || c == '#' || Text.isBlank c)
    match s.takeWhile isName with
    | [] => none
    | name => some (some name, s.dropWhile isName)

def lineEnd? (s : List Char) : Option (List Char) :=
  let rest := s.dropWhile isInner
  let rest := match rest with
    | '#' :: _ => rest.dropWhile (!isLineEnd ·)
    | _ => rest
  match rest with
  | [] => some []
  | '\r' :: '\n' :: rest => some rest
  | c :: rest => if isLineEnd c then some rest else none

def skipLine (s : List Char) : List Char :=
  match s.dropWhile (!isLineEnd ·) with
  | '\r' :: rest => rest
  | _ :: rest => rest
  | [] => []

def line (s : List Char) : Option (List Char × Option (List Char)) × List Char :=
  let s := afterExport (s.dropWhile Text.isBlank)
  match name? s with
  | none => (none, skipLine s)
  | some (name, s) =>
    let s := s.dropWhile isInner
    let (value, s) : Option (Option (List Char)) × List Char := match s with
      | '=' :: rest =>
        match value? rest with
        | some (value, rest) => (some (some value), rest)
        | none => (none, rest.dropWhile isInner)
      | s => (some none, s)
    match value with
    | none => (none, skipLine s)
    | some value =>
      match lineEnd? s with
      | none => (none, skipLine (s.dropWhile isInner))
      | some rest => (name.map fun name => (name, value), rest)

def lines : Nat → List Char → List (List Char × Option (List Char))
  | 0, _ => []
  | fuel + 1, s =>
    if s.isEmpty || (s.dropWhile Text.isBlank).isEmpty then []
    else
      match line s with
      | (none, rest) => lines fuel rest
      | (some binding, rest) => binding :: lines fuel rest

/-- The name and the default between braces, and what is left. A default stands behind `:-`. -/
def braced? (s : List Char) : Option (List Char × List Char × List Char) :=
  let name := s.takeWhile fun c => c != '\x7d' && c != ':'
  match s.dropWhile fun c => c != '\x7d' && c != ':' with
  | '\x7d' :: rest => some (name, [], rest)
  | ':' :: '-' :: rest =>
    match rest.dropWhile (· != '\x7d') with
    | _ :: behind => some (name, rest.takeWhile (· != '\x7d'), behind)
    | [] => none
  | _ => none

def interpolate (known : List Char → Option (List Char)) : Nat → List Char → List Char
  | 0, s => s
  | fuel + 1, s =>
    match s with
    | '$' :: '\x7b' :: rest =>
      match braced? rest with
      | some (name, default, rest) =>
        (known name).getD default ++ interpolate known fuel rest
      | none => '$' :: interpolate known fuel ('\x7b' :: rest)
    | c :: rest => c :: interpolate known fuel rest
    | [] => []

def bind (name : String) (value : Option String) :
    List (String × Option String) → List (String × Option String)
  | [] => [(name, value)]
  | (n, v) :: rest => if n = name then (n, value) :: rest else (n, v) :: bind name value rest

def withoutMark : List Char → List Char
  | '\ufeff' :: rest => rest
  | s => s

/-- The assignments of a text, in which earlier names stand for their values, and all others for
those of an environment. A name without a value counts as empty there. -/
def read (environment : List (String × String)) (s : String) : List (String × Option String) :=
  (lines (s.length + 1) (withoutMark s.toList)).foldl (fun seen (name, value) =>
    let known (name : List Char) : Option (List Char) :=
      match seen.lookup (String.ofList name) with
      | some value => some (value.getD "").toList
      | none => (environment.lookup (String.ofList name)).map String.toList
    let value := value.map fun v => String.ofList (interpolate known (v.length + 1) v)
    bind (String.ofList name) value seen) []

end Rehearsal.Assignments
