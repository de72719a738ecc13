import Rehearsal.Decimal.Binary

namespace Rehearsal.Decimal

def maxDigits : Nat := 4300

def isDigit (c : Char) : Bool := '0' ≤ c && c ≤ '9'

def value (base : Nat) (digits : List Char) : Nat :=
  digits.foldl (fun n c => n * base +
    if isDigit c then c.toNat - '0'.toNat
    else if 'a' ≤ c then c.toNat - 'a'.toNat + 10
    else c.toNat - 'A'.toNat + 10) 0

def tooManyDigits (digits : Nat) : String :=
  s!"Exceeds the limit ({maxDigits} digits) for integer string conversion: value has {digits} " ++
    "digits; use sys.set_int_max_str_digits() to increase the limit"

def tooLong : String :=
  s!"Exceeds the limit ({maxDigits} digits) for integer string conversion; " ++
    "use sys.set_int_max_str_digits() to increase the limit"

def isTooLong (i : Int) : Bool := 10 ^ maxDigits ≤ i.natAbs

/-- The float nearest to `digits * 10 ^ exponent`; what is beyond all floats is infinite and what
is below half of the least one is zero. -/
def nearest (digits : Nat) (exponent : Int) : Float :=
  let size : Int := (Nat.log2 digits + 1 : Nat) * 30103 / 100000
  if digits == 0 then 0.0
  else if 400 < size + exponent then 1.0 / 0.0
  else if size + exponent < -400 then 0.0
  else ofQuotient (digits * 10 ^ exponent.toNat) (10 ^ (-exponent).toNat)

end Rehearsal.Decimal
