import Rehearsal.Text.Quoted

namespace Rehearsal

/-- A text: characters throughout, or torn, with surrogates among its code points that lack a
partner. -/
inductive Text
  | whole (s : String)
  | torn (points : List Nat) (isTorn : points.all (fun n => n.isValidChar) = false)
  deriving DecidableEq, Repr

namespace Text

instance : Coe String Text := ⟨whole⟩

instance : Inhabited Text := ⟨whole ""⟩

def points : Text → List Nat
  | whole s => s.toList.map Char.toNat
  | torn points _ => points

def ofPoints (points : List Nat) : Text :=
  if h : points.all (fun n => n.isValidChar) = true then
    whole (String.ofList (points.map Char.ofNat))
  else torn points (by simpa using h)

def append : Text → Text → Text
  | whole s, whole t => whole (s ++ t)
  | s, t => ofPoints (s.points ++ t.points)

instance : Append Text := ⟨append⟩

def isEmpty : Text → Bool
  | whole s => s.isEmpty
  | torn .. => false

def isWhole : Text → Bool
  | whole _ => true
  | torn .. => false

def whole? : Text → Option String
  | whole s => some s
  | torn .. => none

def take (n : Nat) : Text → Text
  | whole s => whole (String.ofList (s.toList.take n))
  | torn points _ => ofPoints (points.take n)

def quoted (t : Text) : String := quotePoints t.points

def mended (mark : Char) : Text → String
  | whole s => s
  | torn points _ =>
    String.ofList (points.map fun n => if n.isValidChar then Char.ofNat n else mark)

@[simp] theorem whole_append (s t : String) : whole s ++ whole t = whole (s ++ t) := rfl

structure Tear where
  start : Nat
  points : List Nat
  deriving DecidableEq, Repr

def Tear.message (t : Tear) : String :=
  (match t.points with
  | [n] => s!"'utf-8' codec can't encode character '\\u{hexPadded 4 n}' in position {t.start}"
  | points =>
    s!"'utf-8' codec can't encode characters in position {t.start}-{t.start + points.length - 1}") ++
    ": surrogates not allowed"

def tearBehind? (passed : Nat → Bool) : Text → Option Tear
  | whole _ => none
  | torn points _ =>
    let behind := points.dropWhile fun n => n.isValidChar || passed n
    match behind.takeWhile fun n => !n.isValidChar with
    | [] => none
    | tear => some ⟨points.length - behind.length, tear⟩

def tear? : Text → Option Tear := tearBehind? fun _ => false

def isEscapedByte (n : Nat) : Bool := 0xDC80 ≤ n && n ≤ 0xDCFF

def nameTear? : Text → Option Tear := tearBehind? isEscapedByte

def splitPoints (separator : Nat) : List Nat → List (List Nat)
  | [] => [[]]
  | n :: rest =>
    if n == separator then [] :: splitPoints separator rest
    else
      match splitPoints separator rest with
      | [] => [[n]]
      | part :: parts => (n :: part) :: parts

def pointSize (n : Nat) : Nat :=
  if isEscapedByte n then 1
  else if n < 0x80 then 1 else if n < 0x800 then 2 else if n < 0x10000 then 3 else 4

def nameSize : Text → Nat
  | whole s => s.utf8ByteSize
  | torn points _ => points.foldr (fun n size => pointSize n + size) 0

def join (separator : Text) : List Text → Text
  | [] => ""
  | [t] => t
  | t :: rest => t ++ separator ++ join separator rest

end Text

end Rehearsal
