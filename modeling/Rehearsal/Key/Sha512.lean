import Rehearsal.Bytes.Utf8
import Rehearsal.Decimal.Binary

namespace Rehearsal.Sha512

/-- The greatest number whose `k`-th power is at most `n`, searched bit by bit from `2 ^ bits`. -/
def root (k n : Nat) : Nat → Nat → Nat
  | 0, found => found
  | bits + 1, found =>
    let next := found + 2 ^ bits
    root k n bits (if next ^ k ≤ n then next else found)

def primesBelow (bound : Nat) : List Nat :=
  (List.range bound).filter fun n =>
    2 ≤ n && (List.range n).all fun d => d < 2 || n % d != 0

def rootBits (k n : Nat) : UInt64 := UInt64.ofNat (root k (n * 2 ^ (64 * k)) 70 0)

/-- The constants of the eighty rounds: from the cube roots of the first eighty primes. -/
def roundConstants : Array UInt64 := ((primesBelow 410).map (rootBits 3)).toArray

def initial : Array UInt64 := ((primesBelow 20).map (rootBits 2)).toArray

def rotate (x : UInt64) (n : Nat) : UInt64 :=
  (x >>> UInt64.ofNat n) ||| (x <<< UInt64.ofNat (64 - n))

def pad (message : Bytes) : Bytes :=
  let n := message.length
  let zeros := (239 - n % 128) % 128
  message ++ 0x80 :: (List.replicate zeros 0) ++
    (List.range 16).map fun i => UInt8.ofNat (n * 8 / 256 ^ (15 - i))

def words : Bytes → List UInt64
  | a :: b :: c :: d :: e :: f :: g :: h :: rest =>
    [a, b, c, d, e, f, g, h].foldl (fun n x => (n <<< 8) ||| x.toUInt64) 0 :: words rest
  | _ => []

def schedule (chunk : Array UInt64) : Array UInt64 :=
  (List.range 64).foldl (fun w i =>
    let x := w.getD (i + 1) 0
    let y := w.getD (i + 14) 0
    let s0 := rotate x 1 ^^^ rotate x 8 ^^^ (x >>> 7)
    let s1 := rotate y 19 ^^^ rotate y 61 ^^^ (y >>> 6)
    w.push (w.getD i 0 + s0 + w.getD (i + 9) 0 + s1)) chunk

def round (s : Array UInt64) (constant word : UInt64) : Array UInt64 :=
  let a := s.getD 0 0
  let b := s.getD 1 0
  let c := s.getD 2 0
  let e := s.getD 4 0
  let s1 := rotate e 14 ^^^ rotate e 18 ^^^ rotate e 41
  let choice := (e &&& s.getD 5 0) ^^^ (~~~e &&& s.getD 6 0)
  let t1 := s.getD 7 0 + s1 + choice + constant + word
  let s0 := rotate a 28 ^^^ rotate a 34 ^^^ rotate a 39
  let majority := (a &&& b) ^^^ (a &&& c) ^^^ (b &&& c)
  #[t1 + s0 + majority, a, b, c, s.getD 3 0 + t1, e, s.getD 5 0, s.getD 6 0]

def compress (state chunk : Array UInt64) : Array UInt64 :=
  let w := schedule chunk
  let mixed := (List.range 80).foldl
    (fun s i => round s (roundConstants.getD i 0) (w.getD i 0)) state
  Array.zipWith (· + ·) state mixed

def compressAll (state : Array UInt64) : Nat → List UInt64 → Array UInt64
  | 0, _ => state
  | n + 1, ws => compressAll (compress state (ws.take 16).toArray) n (ws.drop 16)

def hash (message : Bytes) : Bytes :=
  let ws := words (pad message)
  (compressAll initial (ws.length / 16) ws).toList.flatMap fun word =>
    (List.range 8).map fun i => UInt8.ofNat (word.toNat / 256 ^ (7 - i))

end Rehearsal.Sha512
