import Rehearsal.Proofs.Store.Bindings

namespace Rehearsal.Store

theorem put_absent {key value : Bytes} {entries : List (Bytes × Bytes)}
    (absent : find? key entries = none) : put key value entries = entries ++ [(key, value)] := by
  induction entries with
  | nil => rfl
  | cons entry rest ih =>
    obtain ⟨k, v⟩ := entry
    by_cases same : k = key
    · rw [find?, if_pos same] at absent
      cases absent
    · rw [find?, if_neg same] at absent
      rw [put, if_neg same, ih absent, List.cons_append]

theorem insert_absent {s : Store} {key : Bytes} (value : Bytes) (absent : s.get? key = none) :
    s.insert key value = ⟨s.entries ++ [(key, value)]⟩ :=
  congrArg Store.mk (put_absent absent)

theorem find_append (key : Bytes) (entries added : List (Bytes × Bytes)) :
    find? key (entries ++ added) = (find? key entries).or (find? key added) := by
  induction entries with
  | nil => rfl
  | cons entry rest ih =>
    obtain ⟨k, v⟩ := entry
    by_cases same : k = key
    · simp [find?, same]
    · simp [find?, same, ih]

theorem find_absent {key : Bytes} {entries : List (Bytes × Bytes)}
    (absent : ∀ entry ∈ entries, entry.1 ≠ key) :
    find? key entries = none := by
  induction entries with
  | nil => rfl
  | cons entry rest ih =>
    rw [find?, if_neg (absent entry List.mem_cons_self)]
    exact ih fun entry member => absent entry (List.mem_cons_of_mem _ member)

/-- Whether a store is another one with some bindings more, all of them behind and with keys that start
with a mark. -/
structure Gains (mark : UInt8) (s t : Store) (added : List (Bytes × Bytes)) : Prop where
  entries : t.entries = s.entries ++ added
  marked : ∀ entry ∈ added, entry.1.head? = some mark

namespace Gains

variable {mark : UInt8} {s t : Store} {added : List (Bytes × Bytes)} {key value : Bytes}

theorem nothing (mark : UInt8) (s : Store) : Gains mark s s [] where
  entries := (List.append_nil _).symm
  marked := fun _ member => absurd member List.not_mem_nil

theorem one {rest : Bytes} (value : Bytes) (free : s.get? (mark :: rest) = none) :
    Gains mark s (s.insert (mark :: rest) value) [(mark :: rest, value)] where
  entries := congrArg Store.entries (insert_absent value free)
  marked := by
    intro entry member
    rw [List.mem_singleton.mp member]
    rfl

theorem kept (gains : Gains mark s t added) (bound : s.get? key = some value) :
    t.get? key = some value := by
  rw [get?] at bound
  rw [get?, gains.entries, find_append, bound]
  rfl

theorem elsewhere (gains : Gains mark s t added) (unmarked : key.head? ≠ some mark) :
    t.get? key = s.get? key := by
  have absent : find? key added = none := by
    refine find_absent ?_
    rintro entry member rfl
    exact unmarked (gains.marked entry member)
  rw [get?, get?, gains.entries, find_append, absent, Option.or_none]

end Gains

end Rehearsal.Store
