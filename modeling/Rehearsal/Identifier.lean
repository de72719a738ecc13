import Rehearsal.Bytes.Hex
import Rehearsal.Decimal.Binary

namespace Rehearsal

def blockLength : Nat := 32

structure Block where
  bytes : Bytes
  length_bytes : bytes.length = blockLength
  deriving DecidableEq

namespace Block

def ofBytes? (bytes : Bytes) : Option Block :=
  if h : bytes.length = blockLength then some ⟨bytes, h⟩ else none

def text (b : Block) : String := Hex.encode b.bytes

def ofNat (n : Nat) : Block :=
  ⟨(List.range blockLength).map fun i => UInt8.ofNat (n / 256 ^ (blockLength - 1 - i)),
    by simp⟩

end Block

namespace Identifier

/-- Reads the identifier that a value holds: its 32 bytes, or 64 bytes of hexadecimal text. Blanks
between the pairs of digits are passed over, so that text with blanks gives fewer than 32 bytes. -/
def ofValue? (value : Bytes) : Option Bytes :=
  if value.length = blockLength then some value
  else if value.length = 2 * blockLength then
    if value.all (· < 0x80) then Hex.decodeChars? (value.map fun b => Char.ofNat b.toNat) else none
  else none

end Identifier

end Rehearsal
