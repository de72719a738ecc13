import Rehearsal.Identifier
import Rehearsal.Key.Sha512

namespace Rehearsal.Ed25519

def modulus : Nat := 2 ^ (255 : Nat) - 19

def twiceD : Nat :=
  16295367250680780974490674513165176452449235426866156013048779062215315747161

/-- A point with projective coordinates: `x = X / Z`, `y = Y / Z`, `x y = T / Z`. -/
structure Point where
  x : Nat
  y : Nat
  z : Nat
  t : Nat

def Point.zero : Point := ⟨0, 1, 1, 0⟩

def Point.base : Point :=
  let x := 15112221349535400772501151409588531511454012693041857206046113283949847762202
  let y := 46316835694926478169428394003475163141307993866256225615783033603165251855960
  ⟨x, y, 1, x * y % modulus⟩

def sub (a b : Nat) : Nat := (a + modulus - b) % modulus

def Point.add (p q : Point) : Point :=
  let a := sub p.y p.x * sub q.y q.x % modulus
  let b := (p.y + p.x) * (q.y + q.x) % modulus
  let c := p.t * q.t % modulus * twiceD % modulus
  let d := 2 * p.z * q.z % modulus
  let e := sub b a
  let f := sub d c
  let g := (d + c) % modulus
  let h := (b + a) % modulus
  ⟨e * f % modulus, g * h % modulus, f * g % modulus, e * h % modulus⟩

def bits (n : Nat) : List Bool := (List.range 256).reverse.map n.testBit

def Point.mul (n : Nat) (p : Point) : Point :=
  (bits n).foldl (fun r bit => let r := r.add r; if bit then r.add p else r) .zero

def power (a n : Nat) : Nat :=
  (bits n).foldl (fun r bit =>
    let r := r * r % modulus
    if bit then r * a % modulus else r) 1

def littleEndian (bytes : Bytes) : Nat := bytes.foldr (fun b n => b.toNat + 256 * n) 0

/-- The 32 bytes of a point: the second coordinate from its lowest byte up, and the parity of the
first coordinate in the highest bit. -/
def Point.encode (p : Point) : Block :=
  let inverse := power p.z (modulus - 2)
  let n := p.y * inverse % modulus + p.x * inverse % modulus % 2 * 2 ^ (255 : Nat)
  ⟨(List.range blockLength).map fun i => UInt8.ofNat (n / 256 ^ i), by simp⟩

/-- The factor of a seed: the first half of its hash with the low three bits cleared and the
highest bit moved to place 254. -/
def factor (seed : Block) : Nat :=
  let n := littleEndian ((Sha512.hash seed.bytes).take 32)
  n % 2 ^ (254 : Nat) / 8 * 8 + 2 ^ (254 : Nat)

def publicKey (seed : Block) : Block := (Point.base.mul (factor seed)).encode

end Rehearsal.Ed25519
