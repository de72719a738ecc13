import Rehearsal.Bytes.Utf8

namespace Rehearsal.Base64

def digit (n : Nat) : Char :=
  if n < 26 then Char.ofNat ('A'.toNat + n)
  else if n < 52 then Char.ofNat ('a'.toNat + (n - 26))
  else if n < 62 then Char.ofNat ('0'.toNat + (n - 52))
  else if n == 62 then '+'
  else '/'

def value? (c : Char) : Option Nat :=
  if 'A' ≤ c ∧ c ≤ 'Z' then some (c.toNat - 'A'.toNat)
  else if 'a' ≤ c ∧ c ≤ 'z' then some (c.toNat - 'a'.toNat + 26)
  else if '0' ≤ c ∧ c ≤ '9' then some (c.toNat - '0'.toNat + 52)
  else if c = '+' then some 62
  else if c = '/' then some 63
  else none

def encodeBytes : Bytes → List Char
  | [] => []
  | [a] => [digit (a.toNat / 4), digit (a.toNat % 4 * 16), '=', '=']
  | [a, b] =>
    [digit (a.toNat / 4), digit (a.toNat % 4 * 16 + b.toNat / 16), digit (b.toNat % 16 * 4), '=']
  | a :: b :: c :: rest =>
    digit (a.toNat / 4) :: digit (a.toNat % 4 * 16 + b.toNat / 16) ::
      digit (b.toNat % 16 * 4 + c.toNat / 64) :: digit (c.toNat % 64) :: encodeBytes rest

def encode (bytes : Bytes) : String := String.ofList (encodeBytes bytes)

inductive Fault
  | leadingPadding
  | excessData
  | foreignCharacter
  | splitPadding
  | loneDigit (digits : Nat)
  | missingPadding
  deriving DecidableEq, Repr

def Fault.message : Fault → String
  | .leadingPadding => "Leading padding not allowed"
  | .excessData => "Excess data after padding"
  | .foreignCharacter => "Only base64 data is allowed"
  | .splitPadding => "Discontinuous padding not allowed"
  | .loneDigit digits =>
    s!"Invalid base64-encoded string: number of data characters ({digits}) cannot be 1 more " ++
      "than a multiple of 4"
  | .missingPadding => "Incorrect padding"

/-- How far a group of four has come: the digits read, the bits of the last one that no byte holds
yet, the padding met since, and whether any padding was met at all. -/
structure Group where
  digits : Nat := 0
  left : Nat := 0
  pads : Nat := 0
  padded : Bool := false

def decodeFrom (strict : Bool) (g : Group) (count : Nat) : List Char → Except Fault Bytes
  | [] =>
    match g.digits with
    | 0 => .ok []
    | 1 => .error (.loneDigit (count / 3 * 4 + 1))
    | _ => .error .missingPadding
  | '=' :: rest =>
    if 2 ≤ g.digits ∧ 4 ≤ g.digits + g.pads + 1 then
      if strict && !rest.isEmpty then .error .excessData else .ok []
    else
      let pads := if 2 ≤ g.digits then g.pads + 1 else g.pads
      decodeFrom strict { g with pads, padded := true } count rest
  | c :: rest =>
    match value? c with
    | none => if strict then .error .foreignCharacter else decodeFrom strict g count rest
    | some v =>
      if strict && g.padded then .error .splitPadding
      else
        let next (digits left : Nat) : Group := ⟨digits, left, 0, g.padded⟩
        match g.digits with
        | 0 => decodeFrom strict (next 1 v) count rest
        | 1 => (decodeFrom strict (next 2 (v % 16)) (count + 1) rest).map
            (UInt8.ofNat (g.left * 4 + v / 16) :: ·)
        | 2 => (decodeFrom strict (next 3 (v % 4)) (count + 1) rest).map
            (UInt8.ofNat (g.left * 16 + v / 4) :: ·)
        | _ => (decodeFrom strict (next 0 0) (count + 1) rest).map
            (UInt8.ofNat (g.left * 64 + v) :: ·)

def decode (s : String) : Except Fault Bytes :=
  match s.toList with
  | '=' :: _ => .error .leadingPadding
  | cs => decodeFrom true {} 0 cs

/-- Reads a text and skips all that is no digit. -/
def decodeLenient (cs : List Char) : Except Fault Bytes := decodeFrom false {} 0 cs

end Rehearsal.Base64
