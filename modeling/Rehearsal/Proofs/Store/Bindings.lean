import Rehearsal.Proofs.Bytes.HexRoundTrip
import Rehearsal.Proofs.Bytes.TextRoundTrip
import Rehearsal.Store

namespace Rehearsal.Store

theorem find_put (key value other : Bytes) (entries : List (Bytes × Bytes)) :
    find? other (put key value entries) = if other = key then some value else find? other entries := by
  induction entries with
  | nil => simp [put, find?, eq_comm]
  | cons entry rest ih =>
    obtain ⟨k, v⟩ := entry
    by_cases here : k = key
    · subst here
      by_cases same : k = other
      · simp [put, find?, same]
      · have ne : other ≠ k := fun equal => same equal.symm
        simp [put, find?, same, ne]
    · by_cases same : k = other
      · subst same
        simp [put, find?, here]
      · simp [put, find?, here, same, ih]

theorem get_insert_self (s : Store) (key value : Bytes) : (s.insert key value).get? key = some value := by
  rw [get?, insert, find_put, if_pos rfl]

theorem get_insert_of_ne (s : Store) {key other : Bytes} (value : Bytes) (ne : other ≠ key) :
    (s.insert key value).get? other = s.get? other := by
  rw [get?, insert, find_put, if_neg ne, get?]

theorem get_insert_of_absent {s : Store} {key other bound : Bytes} (value : Bytes)
    (absent : s.get? key = none) (present : s.get? other = some bound) :
    (s.insert key value).get? other = some bound := by
  have ne : other ≠ key := by
    rintro rfl
    rw [absent] at present
    cases present
  rw [get_insert_of_ne s value ne, present]

theorem contains_eq_false {s : Store} {key : Bytes} : s.contains key = false ↔ s.get? key = none := by
  rw [contains, Option.isSome_eq_false_iff, Option.isNone_iff_eq_none]

theorem seedKey_injective {name other : String} (same : seedKey name = seedKey other) : name = other :=
  Utf8.encode_injective (List.cons.inj same).2

end Rehearsal.Store
