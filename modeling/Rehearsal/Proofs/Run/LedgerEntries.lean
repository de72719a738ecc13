import Rehearsal.Ledger
import Rehearsal.Proofs.Bytes.HexRoundTrip

namespace Rehearsal.Ledger

theorem find_place_self (index : Int) (id : Block) (entries : List (Int × Block))
    (absent : find? index entries = none) : find? index (place index id entries) = some id := by
  induction entries with
  | nil => simp [place, find?]
  | cons entry rest ih =>
    obtain ⟨i, x⟩ := entry
    by_cases same : i = index
    · simp [find?, same] at absent
    · simp only [find?, same, ↓reduceIte] at absent
      by_cases earlier : index < i
      · simp [place, earlier, find?]
      · simp [place, earlier, find?, same, ih absent]

theorem find_place_of_ne {index other : Int} (id : Block) (entries : List (Int × Block))
    (ne : other ≠ index) : find? other (place index id entries) = find? other entries := by
  have ne' : index ≠ other := fun same => ne same.symm
  induction entries with
  | nil => simp [place, find?, ne']
  | cons entry rest ih =>
    obtain ⟨i, x⟩ := entry
    by_cases earlier : index < i
    · simp [place, earlier, find?, ne']
    · simp only [place, earlier, ↓reduceIte, find?, ih]

theorem contains_iff (l : Ledger) (index : Int) :
    l.contains index = true ↔ ∃ b, l.lookup index = some b := Option.isSome_iff_exists

theorem record_block {l : Ledger} {index : Int} (b : Block) (absent : l.lookup index = none) :
    l.record index b.bytes = .ok { l with entries := place index b l.entries } := by
  simp [record, Block.ofBytes_bytes, contains, absent]

theorem record_taken {l : Ledger} {index : Int} (b : Block) (taken : l.contains index = true) :
    l.record index b.bytes = .error (.taken index) := by
  simp only [record, Block.ofBytes_bytes, taken, ↓reduceIte]

theorem lookup_recorded {l : Ledger} {index : Int} (b : Block) (absent : l.lookup index = none)
    (i : Int) :
    ({ l with entries := place index b l.entries } : Ledger).lookup i =
      if i = index then some b else l.lookup i := by
  split
  · rename_i same
    subst same
    exact find_place_self i b l.entries absent
  · rename_i ne
    exact find_place_of_ne b l.entries ne

end Rehearsal.Ledger
