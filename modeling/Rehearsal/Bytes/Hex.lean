import Rehearsal.Bytes.Utf8

namespace Rehearsal.Hex

def digit (n : Nat) : Char :=
  if n < 10 then Char.ofNat ('0'.toNat + n) else Char.ofNat ('a'.toNat + (n - 10))

def value? (c : Char) : Option Nat :=
  if '0' ≤ c ∧ c ≤ '9' then some (c.toNat - '0'.toNat)
  else if 'a' ≤ c ∧ c ≤ 'f' then some (c.toNat - 'a'.toNat + 10)
  else if 'A' ≤ c ∧ c ≤ 'F' then some (c.toNat - 'A'.toNat + 10)
  else none

def pair (b : UInt8) : List Char := [digit (b.toNat / 16), digit (b.toNat % 16)]

def encode (bytes : Bytes) : String := String.ofList (bytes.flatMap pair)

def isBlank (c : Char) : Bool :=
  c == ' ' || ('\t' ≤ c && c ≤ '\r')

/-- Reads pairs of digits; a blank may not split a pair. -/
def decodeChars? : List Char → Option Bytes
  | [] => some []
  | c :: rest =>
    if isBlank c then decodeChars? rest
    else match rest with
      | [] => none
      | d :: rest => do
        let high ← value? c
        let low ← value? d
        let bytes ← decodeChars? rest
        return UInt8.ofNat (high * 16 + low) :: bytes

def decode? (s : String) : Option Bytes := decodeChars? s.toList

end Rehearsal.Hex
