import Rehearsal.Decimal.Binary

namespace Rehearsal.Decimal

def scaled (m : Nat) (exponent scale : Int) : Nat × Nat :=
  (m * 2 ^ exponent.toNat * 10 ^ scale.toNat, 2 ^ (-exponent).toNat * 10 ^ (-scale).toNat)

/-- Whether `digits / 10 ^ scale` reads back to the number: it lies between the halfway points. -/
def Binary.readsBack (b : Binary) (digits : Nat) (scale : Int) : Bool :=
  -- all in quarters of the last place, so that both halfway points are whole
  let (value, one) := scaled 1 (b.exponent - 2) scale
  let low := (4 * b.mantissa - if b.narrow then 1 else 2) * value
  let high := (4 * b.mantissa + 2) * value
  let here := digits * one
  if b.mantissa % 2 == 0 then low ≤ here && here ≤ high else low < here && here < high

def Binary.candidate? (b : Binary) (scale : Int) : Option Nat :=
  let (value, one) := scaled b.mantissa b.exponent scale
  let below := value / one
  match b.readsBack below scale, b.readsBack (below + 1) scale with
  | true, true =>
    let rest := 2 * (value - below * one)
    some (if rest < one then below else if one < rest then below + 1
      else if below % 2 == 0 then below else below + 1)
  | true, false => some below
  | false, true => some (below + 1)
  | false, false => none

/-- The least `k` with the number below `10 ^ k`, searched from an estimate that is never above. -/
def Binary.magnitude (b : Binary) : Int :=
  let bits : Int := b.mantissa.log2 + b.exponent
  let estimate := bits * 30103 / 100000 - 1
  let fits (k : Int) : Bool :=
    let (value, one) := scaled b.mantissa b.exponent (-k)
    value < one
  (List.range 5).foldr (fun (i : Nat) found => if fits (estimate + i) then estimate + i else found)
    (estimate + 5)

def dropZeros : List Char → List Char
  | cs => (cs.reverse.dropWhile (· == '0')).reverse

def Binary.shortest (b : Binary) : List Char × Int :=
  let k := b.magnitude
  let found := (List.range 17).findSome? fun (i : Nat) =>
    let scale : Int := i + 1 - k
    (b.candidate? scale).map fun digits => (digits, scale)
  match found with
  | some (digits, scale) =>
    let cs := Nat.toDigits 10 digits
    (dropZeros cs, cs.length - scale)
  | none =>
    let (value, _) := scaled b.mantissa b.exponent 1074
    let cs := Nat.toDigits 10 value
    (dropZeros cs, cs.length - 1074)

def isPositional (point : Int) : Bool := -4 < point && point ≤ 16

def positional (digits : List Char) (point : Int) : List Char :=
  if point ≤ 0 then '0' :: '.' :: (List.replicate (-point).toNat '0' ++ digits)
  else
    let whole := point.toNat
    let padded := digits ++ List.replicate (whole - digits.length) '0'
    let fraction := padded.drop whole
    padded.take whole ++ '.' :: (if fraction.isEmpty then ['0'] else fraction)

def scientific (digits : List Char) (point : Int) : List Char :=
  let e := point - 1
  let exponent := Nat.toDigits 10 e.natAbs
  let tail := digits.drop 1
  digits.take 1 ++ (if tail.isEmpty then [] else '.' :: tail) ++
    'e' :: (if e < 0 then '-' else '+') ::
      (if exponent.length < 2 then '0' :: exponent else exponent)

def text (x : Float) : String :=
  if x.isNaN then "nan"
  else
    let sign := if isNegative x then "-" else ""
    let body := match Binary.ofBits? x.toBits with
      | none => if x.isInf then "inf" else "0.0"
      | some b =>
        let (digits, point) := b.shortest
        String.ofList (if isPositional point then positional digits point
          else scientific digits point)
    sign ++ body

end Rehearsal.Decimal
