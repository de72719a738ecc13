attribute [instance (high)] instPowNat

namespace Rehearsal.Decimal

/-- A positive finite number `mantissa * 2 ^ exponent`; `narrow` says that the number below is
only half as far away as the one above. -/
structure Binary where
  mantissa : Nat
  exponent : Int
  narrow : Bool
  deriving Repr

def leastExponent : Int := -1074

def Binary.ofBits? (bits : UInt64) : Option Binary :=
  let n := bits.toNat
  let field : Nat := n / 2 ^ (52 : Nat) % 2 ^ (11 : Nat)
  let fraction := n % 2 ^ (52 : Nat)
  if field == 2047 then none
  else if field == 0 then
    if fraction == 0 then none else some ⟨fraction, leastExponent, false⟩
  else some ⟨fraction + 2 ^ (52 : Nat), (field : Int) - 1075, fraction == 0 && 1 < field⟩

def Binary.whole (b : Binary) : Nat :=
  b.mantissa * 2 ^ b.exponent.toNat / 2 ^ (-b.exponent).toNat

def Binary.isWhole (b : Binary) : Bool :=
  b.mantissa * 2 ^ b.exponent.toNat % 2 ^ (-b.exponent).toNat == 0

def isNegative (x : Float) : Bool := x.toBits.toNat / 2 ^ (63 : Nat) == 1

def truncated (x : Float) : Int :=
  match Binary.ofBits? x.toBits with
  | none => 0
  | some b => if isNegative x then -b.whole else b.whole

def integer? (x : Float) : Option Int :=
  match Binary.ofBits? x.toBits with
  | none => if x == 0.0 then some 0 else none
  | some b => if b.isWhole then some (truncated x) else none

def roundQuotient (p q : Nat) : Nat :=
  let below := p / q
  let rest := 2 * (p % q)
  if rest < q then below else if q < rest then below + 1 else below + below % 2

def shifted (p q : Nat) (places : Int) : Nat × Nat :=
  (p * 2 ^ (-places).toNat, q * 2 ^ places.toNat)

def lastPlace (p q : Nat) : Int :=
  let low : Int := (p.log2 : Int) - q.log2 - 53
  let (p, q) := shifted p q low
  max leastExponent (if 2 ^ (53 : Nat) * q ≤ p then low + 1 else low)

def infinityBits : Nat := 2047 * 2 ^ (52 : Nat)

/-- The bits of the float nearest to a quotient. Rounding up to the next power of two carries into
the field of the exponent, and beyond the greatest float to infinity. -/
def nearestBits (p q : Nat) : Nat :=
  if p == 0 then 0
  else
    let place := lastPlace p q
    let (p, q) := shifted p q place
    min infinityBits ((place - leastExponent).toNat * 2 ^ (52 : Nat) + roundQuotient p q)

def ofQuotient (p q : Nat) : Float := Float.ofBits (nearestBits p q).toUInt64

def ofInteger (i : Int) : Float :=
  let x := ofQuotient i.natAbs 1
  if i < 0 then -x else x

end Rehearsal.Decimal
