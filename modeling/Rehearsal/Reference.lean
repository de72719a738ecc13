import Rehearsal.Decimal.Numeral
import Rehearsal.Text.Quoted

namespace Rehearsal

structure Reference where
  index : Int
  deriving DecidableEq, Repr

namespace Reference

def opening : String := "step_"

def text (r : Reference) : String := opening ++ toString r.index

def hashModulus : Int := 2 ^ (61 : Nat) - 1

/-- The hash key of a reference: the remainder of its index by the modulus, with the index's sign.
The key -1 is not in use, and -2 stands for it. -/
def hashKey (r : Reference) : Int :=
  let key := r.index.tmod hashModulus
  if key = -1 then -2 else key

inductive Reading
  /-- an optional sign and digits -/
  | index (i : Int)
  /-- more digits than a numeral may have -/
  | oversized (digits : Nat)
  /-- anything else -/
  | malformed
  deriving DecidableEq, Repr

def readIndex (suffix : List Char) : Reading :=
  let (negative, digits) := match suffix with
    | '-' :: rest => (true, rest)
    | '+' :: rest => (false, rest)
    | rest => (false, rest)
  if digits.isEmpty || !digits.all Decimal.isDigit then .malformed
  else if Decimal.maxDigits < digits.length then .oversized digits.length
  else
    let n : Int := Decimal.value 10 digits
    .index (if negative then -n else n)

def isClaimed (value : Bytes) : Bool := (Utf8.encode opening).isPrefixOf value

def shown (value : Bytes) : String := String.ofList (Text.decodeEscaped value)

def read (value : Bytes) : Reading := readIndex ((Text.decodeEscaped value).drop opening.length)

end Reference

end Rehearsal
