import Rehearsal.Bytes.Utf8

namespace Rehearsal

structure Store where
  entries : List (Bytes × Bytes) := []
  deriving DecidableEq, Repr

namespace Store

def find? (key : Bytes) : List (Bytes × Bytes) → Option Bytes
  | [] => none
  | (k, v) :: rest => if k = key then some v else find? key rest

def put (key value : Bytes) : List (Bytes × Bytes) → List (Bytes × Bytes)
  | [] => [(key, value)]
  | (k, v) :: rest => if k = key then (k, value) :: rest else (k, v) :: put key value rest

def get? (s : Store) (key : Bytes) : Option Bytes := find? key s.entries

def contains (s : Store) (key : Bytes) : Bool := (s.get? key).isSome

def insert (s : Store) (key value : Bytes) : Store := ⟨put key value s.entries⟩

def erase (s : Store) (key : Bytes) : Store := ⟨s.entries.filter fun e => e.1 ≠ key⟩

def size (s : Store) : Nat := s.entries.length

def ofList (pairs : List (Bytes × Bytes)) : Store :=
  pairs.foldl (fun s pair => s.insert pair.1 pair.2) {}

def sorted (s : Store) : List (Bytes × Bytes) := s.entries.mergeSort fun a b => a.1 ≤ b.1

def keys (s : Store) (start : Bytes) : List Bytes :=
  (s.sorted.map Prod.fst).filter fun key => start.isPrefixOf key

def seedKey (name : String) : Bytes := 0x00 :: Utf8.encode name

def programKey (id : Bytes) : Bytes := 0x01 :: id

end Store

end Rehearsal
