import Rehearsal.Bytes.Utf8
import Rehearsal.Text.Printable

namespace Rehearsal.Text

def hexPadded (width n : Nat) : String :=
  let digits := String.ofList (Nat.toDigits 16 n)
  "".pushn '0' (width - digits.length) ++ digits

def quoteMark (holdsSingle holdsDouble : Bool) : Char :=
  if holdsSingle && !holdsDouble then '"' else '\''

def escapePoint (n : Nat) : String :=
  if n == 0x09 then "\\t"
  else if n == 0x0A then "\\n"
  else if n == 0x0D then "\\r"
  else if n < 0x100 then "\\x" ++ hexPadded 2 n
  else if n < 0x10000 then "\\u" ++ hexPadded 4 n
  else "\\U" ++ hexPadded 8 n

def quoteChar (mark c : Char) : String :=
  if c == mark || c == '\\' then s!"\\{c}"
  else if isPrintable c then c.toString
  else escapePoint c.toNat

def quotePoints (points : List Nat) : String :=
  let mark := quoteMark (points.contains '\''.toNat) (points.contains '"'.toNat)
  let shown n := if n.isValidChar then quoteChar mark (Char.ofNat n) else escapePoint n
  mark.toString ++ String.join (points.map shown) ++ mark.toString

def quote (s : String) : String := quotePoints (s.toList.map Char.toNat)

def quoteByte (mark : Char) (b : UInt8) : String :=
  if b < 0x80 then quoteChar mark (Char.ofNat b.toNat) else escapePoint b.toNat

def quoteBytes (bytes : Bytes) : String :=
  let mark := quoteMark (bytes.contains 0x27) (bytes.contains 0x22)
  "b" ++ mark.toString ++ String.join (bytes.map (quoteByte mark)) ++ mark.toString

def decodeEscaped : Bytes → List Char
  | [] => []
  | lead :: rest =>
    match Utf8.item lead rest with
    | .char c more => c :: decodeEscaped (rest.drop more)
    | .bad more _ =>
      (lead :: rest.take more).flatMap (fun b => ("\\x" ++ hexPadded 2 b.toNat).toList) ++
        decodeEscaped (rest.drop more)
  termination_by bytes => bytes.length
  decreasing_by all_goals (simp only [List.length_drop, List.length_cons]; omega)

end Rehearsal.Text
