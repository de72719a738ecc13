import Rehearsal.Json.Reader

namespace Rehearsal.Json

structure Style where
  comma : String
  colon : String
  ascii : Bool

def Style.wire : Style := ⟨",", ":", false⟩

def Style.audit : Style := ⟨", ", ": ", true⟩

def escapePoint (n : Nat) : List Char := '\\' :: 'u' :: (Text.hexPadded 4 n).toList

def writeChar (style : Style) (c : Char) : List Char :=
  let n := c.toNat
  if c == '"' then ['\\', '"']
  else if c == '\\' then ['\\', '\\']
  else if c == '\n' then ['\\', 'n']
  else if c == '\r' then ['\\', 'r']
  else if c == '\t' then ['\\', 't']
  else if n == 0x08 then ['\\', 'b']
  else if n == 0x0C then ['\\', 'f']
  else if n < 0x20 then escapePoint n
  else if style.ascii && 0x7F ≤ n then
    if n < 0x10000 then escapePoint n
    else escapePoint (0xD800 + (n - 0x10000) / 0x400) ++ escapePoint (0xDC00 + (n - 0x10000) % 0x400)
  else [c]

def writeText (style : Style) (s : String) : List Char :=
  '"' :: s.toList.flatMap (writeChar style) ++ ['"']

def writePoint (style : Style) (n : Nat) : List Char :=
  if n.isValidChar then writeChar style (Char.ofNat n) else escapePoint n

def writePoints (style : Style) (points : List Nat) : List Char :=
  '"' :: points.flatMap (writePoint style) ++ ['"']

def writeShown (style : Style) : Text → List Char
  | .whole s => writeText style s
  | .torn points _ => writePoints style points

def writeFloat (x : Float) : List Char :=
  if x.isInf then (if x < 0.0 then "-Infinity" else "Infinity").toList
  else (Decimal.text x).toList

def joined (separator : List Char) : List (List Char) → List Char
  | [] => []
  | [part] => part
  | part :: rest => part ++ separator ++ joined separator rest

mutual

/-- The text of a datum. What JSON has no form for is written as the string that shows it. -/
def write (style : Style) : Datum → List Char
  | .null => "null".toList
  | .bool b => (if b then "true" else "false").toList
  | .int i => (toString i).toList
  | .float x => writeFloat x
  | .noNumber _ => "NaN".toList
  | .text s => writeText style s
  | .unpaired points => writePoints style points
  | .list items => '[' :: joined style.comma.toList (writeAll style items) ++ [']']
  | .map entries =>
    '\x7b' :: joined style.comma.toList (writeEntries style entries) ++ ['\x7d']
  | d => writeShown style d.shown

def writeAll (style : Style) : List Datum → List (List Char)
  | [] => []
  | d :: rest => write style d :: writeAll style rest

def writeEntries (style : Style) : List (Datum × Datum) → List (List Char)
  | [] => []
  | (k, v) :: rest =>
    let key := match k with
      | .text s => writeText style s
      | .null => writeText style "null"
      | .bool b => writeText style (if b then "true" else "false")
      | k => writeShown style k.shown
    (key ++ style.colon.toList ++ write style v) :: writeEntries style rest

end

def render (style : Style) (d : Datum) : String := String.ofList (write style d)

/-- The wire form of a datum with the given texts, in their order; none of them may be torn. -/
def wire (texts : List Text) (d : Datum) : Except Text.Tear String :=
  match texts.findSome? Text.tear? with
  | some tear => .error tear
  | none => .ok (render .wire d)

end Rehearsal.Json
