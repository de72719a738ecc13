namespace Rehearsal

abbrev Bytes := List UInt8

namespace Utf8

def encodeChar (c : Char) : Bytes :=
  let n := c.toNat
  if n < 0x80 then [UInt8.ofNat n]
  else if n < 0x800 then [UInt8.ofNat (0xC0 + n / 0x40), UInt8.ofNat (0x80 + n % 0x40)]
  else if n < 0x10000 then
    [UInt8.ofNat (0xE0 + n / 0x1000), UInt8.ofNat (0x80 + n / 0x40 % 0x40),
      UInt8.ofNat (0x80 + n % 0x40)]
  else
    [UInt8.ofNat (0xF0 + n / 0x40000), UInt8.ofNat (0x80 + n / 0x1000 % 0x40),
      UInt8.ofNat (0x80 + n / 0x40 % 0x40), UInt8.ofNat (0x80 + n % 0x40)]

def encode (s : String) : Bytes := s.toList.flatMap encodeChar

inductive Fault
  /-- the byte begins no character -/
  | start
  /-- a character is begun and then broken off by another byte -/
  | continuation
  /-- a character is begun and the bytes end -/
  | truncated
  deriving DecidableEq, Repr

/-- Where bytes stop being text: the offset, the bytes that begin a character there, and why they
do not finish it. -/
structure Problem where
  position : Nat
  bytes : Bytes
  fault : Fault
  deriving DecidableEq, Repr

def isTail (b : UInt8) : Bool := 0x80 ≤ b && b < 0xC0

/-- The first item of a byte string: a character, or bytes that are none; `more` counts its bytes
after the first. -/
inductive Item
  | char (c : Char) (more : Nat)
  | bad (more : Nat) (fault : Fault)

private def low (b : UInt8) : Nat := b.toNat % 0x40

/-- Reads one item that starts with the byte `lead`. The second byte of a three or four byte
character is limited so that no character is written longer than it needs to be, none is a
surrogate and none lies beyond the last code point. -/
def item (lead : UInt8) (rest : Bytes) : Item :=
  let n := lead.toNat
  if n < 0x80 then .char (Char.ofNat n) 0
  else if n < 0xC2 then .bad 0 .start
  else if n < 0xE0 then
    match rest with
    | [] => .bad 0 .truncated
    | b :: _ =>
      if isTail b then .char (Char.ofNat ((n - 0xC0) * 0x40 + low b)) 1 else .bad 0 .continuation
  else if n < 0xF0 then
    match rest with
    | [] => .bad 0 .truncated
    | b :: rest =>
      if !isTail b || (n == 0xE0 && b < 0xA0) || (n == 0xED && !(b < 0xA0)) then
        .bad 0 .continuation
      else match rest with
        | [] => .bad 1 .truncated
        | c :: _ =>
          if isTail c then
            .char (Char.ofNat ((n - 0xE0) * 0x1000 + low b * 0x40 + low c)) 2
          else .bad 1 .continuation
  else if n < 0xF5 then
    match rest with
    | [] => .bad 0 .truncated
    | b :: rest =>
      if !isTail b || (n == 0xF0 && b < 0x90) || (n == 0xF4 && !(b < 0x90)) then
        .bad 0 .continuation
      else match rest with
        | [] => .bad 1 .truncated
        | c :: rest =>
          if !isTail c then .bad 1 .continuation
          else match rest with
            | [] => .bad 2 .truncated
            | d :: _ =>
              if isTail d then
                .char (Char.ofNat
                  ((n - 0xF0) * 0x40000 + low b * 0x1000 + low c * 0x40 + low d)) 3
              else .bad 2 .continuation
  else .bad 0 .start

def decodeFrom (position : Nat) : Bytes → Except Problem (List Char)
  | [] => .ok []
  | lead :: rest =>
    match item lead rest with
    | .bad more fault => .error ⟨position, lead :: rest.take more, fault⟩
    | .char c more =>
      match decodeFrom (position + more + 1) (rest.drop more) with
      | .ok cs => .ok (c :: cs)
      | .error p => .error p
  termination_by bytes => bytes.length
  decreasing_by simp only [List.length_drop, List.length_cons]; omega

def decode (bytes : Bytes) : Except Problem String := (decodeFrom 0 bytes).map String.ofList

def decode? (bytes : Bytes) : Option String := (decode bytes).toOption

end Utf8

end Rehearsal
