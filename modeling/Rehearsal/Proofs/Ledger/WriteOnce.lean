import Rehearsal.Proofs.Run.LedgerEntries

namespace Rehearsal

namespace Ledger

section Entries

variable {index i : Int} {id b : Block} {entries : List (Int × Block)}

theorem find_isSome : (find? index entries).isSome = true ↔ index ∈ entries.map Prod.fst := by
  induction entries with
  | nil => simp [find?]
  | cons entry rest ih =>
    obtain ⟨j, x⟩ := entry
    by_cases same : j = index
    · simp [find?, same]
    · simp [find?, same, ih, Ne.symm same]

theorem mem_place : i ∈ (place index id entries).map Prod.fst ↔
    i = index ∨ i ∈ entries.map Prod.fst := by
  induction entries with
  | nil => simp [place]
  | cons entry rest ih =>
    obtain ⟨j, x⟩ := entry
    by_cases earlier : index < j
    · simp [place, earlier]
    · simp only [place, earlier, ↓reduceIte, List.map_cons, List.mem_cons, ih]
      exact or_left_comm

theorem place_increasing (increasing : (entries.map Prod.fst).Pairwise (· < ·))
    (absent : find? index entries = none) :
    ((place index id entries).map Prod.fst).Pairwise (· < ·) := by
  induction entries with
  | nil => simp [place]
  | cons entry rest ih =>
    obtain ⟨j, x⟩ := entry
    obtain ⟨first, later⟩ := List.pairwise_cons.mp increasing
    by_cases same : j = index
    · simp [find?, same] at absent
    · simp only [find?, same, ↓reduceIte] at absent
      by_cases earlier : index < j
      · simp only [place, earlier, ↓reduceIte, List.map_cons]
        refine List.pairwise_cons.mpr ⟨?_, increasing⟩
        intro k member
        rcases List.mem_cons.mp member with rfl | member
        · exact earlier
        · exact Int.lt_trans earlier (first k member)
      · simp only [place, earlier, ↓reduceIte, List.map_cons]
        refine List.pairwise_cons.mpr ⟨?_, ih later absent⟩
        intro k member
        rcases mem_place.mp member with rfl | member
        · omega
        · exact first k member

theorem mem_iff_find (increasing : (entries.map Prod.fst).Pairwise (· < ·)) :
    (i, b) ∈ entries ↔ find? i entries = some b := by
  induction entries with
  | nil => simp [find?]
  | cons entry rest ih =>
    obtain ⟨j, x⟩ := entry
    obtain ⟨first, later⟩ := List.pairwise_cons.mp increasing
    by_cases same : j = i
    · have missing : (i, b) ∉ rest := fun member => by
        have less := first i (List.mem_map_of_mem member)
        omega
      simp [find?, same, missing, eq_comm]
    · simp [find?, same, Ne.symm same, ih later]

end Entries

structure Coherent (l : Ledger) : Prop where
  increasing : l.indexes.Pairwise (· < ·)
  listed : ∀ i, i ∈ l.indexes ↔ (l.lookup i).isSome = true
  contains : ∀ i, l.contains i = (l.lookup i).isSome
  size : l.size = l.indexes.length
  keys : l.texts.map Prod.fst = l.indexes
  texts : ∀ i text, (i, text) ∈ l.texts ↔ ∃ b, l.lookup i = some b ∧ text = Hex.encode b.bytes

theorem coherent_of_increasing {l : Ledger} (increasing : l.indexes.Pairwise (· < ·)) : l.Coherent where
  increasing := increasing
  listed _ := find_isSome.symm
  contains _ := rfl
  size := (List.length_map _).symm
  keys := List.map_map
  texts i text := by
    have found {b : Block} : (i, b) ∈ l.entries ↔ l.lookup i = some b := mem_iff_find increasing
    simp only [texts, List.mem_map, Prod.mk.injEq]
    constructor
    · rintro ⟨⟨j, b⟩, member, rfl, rfl⟩
      exact ⟨b, found.mp member, rfl⟩
    · rintro ⟨b, held, rfl⟩
      exact ⟨(i, b), found.mpr held, rfl, rfl⟩

/-- A call that changes a ledger unless it is refused. -/
inductive Use
  | advance
  | record (index : Int) (bytes : Bytes)
  deriving DecidableEq, Repr

def Use.recorded? (index : Int) : Use → Option Block
  | .advance => none
  | .record i bytes => if i = index then Block.ofBytes? bytes else none

def serve (l : Ledger) : Use → Except Refusal Unit × Ledger
  | .advance => (.ok (), l.advance)
  | .record index bytes =>
    match l.record index bytes with
    | .error refusal => (.error refusal, l)
    | .ok after => (.ok (), after)

def used (l : Ledger) (uses : List Use) : Ledger := uses.foldl (fun l use => (l.serve use).2) l

section Serving

variable (l : Ledger) (index : Int) {bytes : Bytes}

theorem serve_badLength (short : bytes.length ≠ blockLength) :
    l.serve (.record index bytes) = (.error (.badLength index bytes.length), l) := by
  have none : Block.ofBytes? bytes = none := by simp [Block.ofBytes?, short]
  simp only [serve, record, none]

variable {index}

theorem serve_taken (whole : bytes.length = blockLength) (taken : (l.lookup index).isSome = true) :
    l.serve (.record index bytes) = (.error (.taken index), l) := by
  have block : Block.ofBytes? bytes = some ⟨bytes, whole⟩ := by simp [Block.ofBytes?, whole]
  simp only [serve, record, block, contains, taken, ↓reduceIte]

theorem serve_block (whole : bytes.length = blockLength) (absent : l.lookup index = none) :
    l.serve (.record index bytes) =
      (.ok (), { l with entries := place index ⟨bytes, whole⟩ l.entries }) := by
  have recorded := record_block (l := l) ⟨bytes, whole⟩ absent
  simp only [serve, recorded]

/-- What a call can do: refuse and change nothing, count, or put an identifier at a free index. -/
theorem serve_cases (use : Use) :
    (use = .advance ∧ l.serve use = (.ok (), l.advance)) ∨
    (∃ index bytes refusal, use = .record index bytes ∧
      (bytes.length ≠ blockLength ∨ (l.lookup index).isSome = true) ∧
      l.serve use = (.error refusal, l)) ∨
    ∃ index b, use = .record index b.bytes ∧ l.lookup index = none ∧
      l.serve use = (.ok (), { l with entries := place index b l.entries }) := by
  cases use with
  | advance => exact .inl ⟨rfl, rfl⟩
  | record index bytes =>
    by_cases whole : bytes.length = blockLength
    · cases held : l.lookup index with
      | some b =>
        have taken : (l.lookup index).isSome = true := by rw [held]; rfl
        exact .inr (.inl ⟨index, bytes, _, rfl, .inr taken, l.serve_taken whole taken⟩)
      | none => exact .inr (.inr ⟨index, ⟨bytes, whole⟩, rfl, held, l.serve_block whole held⟩)
    · exact .inr (.inl ⟨index, bytes, _, rfl, .inl whole, l.serve_badLength index whole⟩)

theorem serve_refused : (∃ refusal, (l.serve (.record index bytes)).1 = .error refusal) ↔
    bytes.length ≠ blockLength ∨ (l.lookup index).isSome = true := by
  constructor
  · rintro ⟨refusal, refused⟩
    rcases l.serve_cases (.record index bytes) with ⟨other, _⟩ | ⟨_, _, _, same, cause, _⟩ |
      ⟨_, _, _, _, done⟩
    · cases other
    · cases same
      exact cause
    · rw [done] at refused
      cases refused
  · intro cause
    by_cases whole : bytes.length = blockLength
    · have taken := cause.resolve_left (not_not_intro whole)
      exact ⟨_, congrArg Prod.fst (l.serve_taken whole taken)⟩
    · exact ⟨_, congrArg Prod.fst (l.serve_badLength index whole)⟩

theorem serve_lookup (use : Use) (i : Int) :
    (l.serve use).2.lookup i = (l.lookup i).or (use.recorded? i) := by
  rcases l.serve_cases use with ⟨rfl, done⟩ | ⟨index, bytes, _, rfl, cause, done⟩ |
    ⟨index, b, rfl, absent, done⟩
  · rw [done, Use.recorded?, Option.or_none]
    rfl
  · rw [done, Use.recorded?]
    split
    · rename_i same
      subst same
      rcases cause with short | taken
      · simp [Block.ofBytes?, short]
      · obtain ⟨b, held⟩ := Option.isSome_iff_exists.mp taken
        rw [held, Option.some_or]
    · rw [Option.or_none]
  · rw [done, Use.recorded?, lookup_recorded b absent i, Block.ofBytes_bytes]
    by_cases same : i = index
    · rw [if_pos same, if_pos same.symm, same, absent, Option.none_or]
    · rw [if_neg same, if_neg (Ne.symm same), Option.or_none]

theorem serve_increasing (use : Use) (increasing : l.indexes.Pairwise (· < ·)) :
    (l.serve use).2.indexes.Pairwise (· < ·) := by
  rcases l.serve_cases use with ⟨_, done⟩ | ⟨_, _, _, _, _, done⟩ | ⟨_, _, _, absent, done⟩
  · rw [done]
    exact increasing
  · rw [done]
    exact increasing
  · rw [done]
    exact place_increasing increasing absent

theorem serve_step (use : Use) : (l.serve use).2.step = l.step + [use].count .advance := by
  rcases l.serve_cases use with ⟨rfl, done⟩ | ⟨_, _, _, rfl, _, done⟩ | ⟨_, _, rfl, _, done⟩
  all_goals
    rw [done]
    rfl

end Serving

section Using

variable (l : Ledger) (uses : List Use)

theorem used_lookup (i : Int) :
    (l.used uses).lookup i = (l.lookup i).or (uses.findSome? (Use.recorded? i)) := by
  induction uses generalizing l with
  | nil => exact (Option.or_none).symm
  | cons use rest ih =>
    have later := ih (l.serve use).2
    -- What the call in front leaves at the index goes before all that is recorded behind it.
    rw [serve_lookup, Option.or_assoc] at later
    rw [List.findSome?_cons]
    cases recorded : use.recorded? i <;> simpa [used, recorded] using later

theorem used_increasing (increasing : l.indexes.Pairwise (· < ·)) :
    (l.used uses).indexes.Pairwise (· < ·) := by
  induction uses generalizing l with
  | nil => exact increasing
  | cons use rest ih => exact ih (l.serve use).2 (l.serve_increasing use increasing)

theorem used_step : (l.used uses).step = l.step + uses.count .advance := by
  induction uses generalizing l with
  | nil => rfl
  | cons use rest ih =>
    have later := ih (l.serve use).2
    rw [serve_step, Nat.add_assoc, ← List.count_append] at later
    exact later

end Using

/-- A ledger is written once under any use. After any calls on a fresh ledger an index holds the identifier
of the first call that records one there, and nothing if there was no such call; the counter is at the number
of advances. Recording is refused just if the bytes are no identifier or the index holds one, and then nothing
changes; else the index holds the identifier, and all other indexes and the counter are as before. Advancing
changes the counter alone. What can be asked of the ledger agrees with look-up: membership, size, the indexes,
which come in increasing order, and the texts, each of which is the lowercase hexadecimal text of its entry. -/
theorem entries_are_written_once (uses : List Use) :
    let l := ({} : Ledger).used uses
    (∀ i, l.lookup i = uses.findSome? (Use.recorded? i)) ∧
    l.step = uses.count .advance ∧
    (∀ index bytes, ((∃ refusal, (l.serve (.record index bytes)).1 = .error refusal) ↔
      bytes.length ≠ blockLength ∨ (l.lookup index).isSome = true)) ∧
    (∀ index bytes,
      ((∃ refusal, (l.serve (.record index bytes)).1 = .error refusal) ∧
        (l.serve (.record index bytes)).2 = l) ∨
      ((l.serve (.record index bytes)).1 = .ok () ∧ l.lookup index = none ∧
        (l.serve (.record index bytes)).2.step = l.step ∧
        ∃ b : Block, b.bytes = bytes ∧
          ∀ i, (l.serve (.record index bytes)).2.lookup i = if i = index then some b else l.lookup i)) ∧
    l.serve .advance = (.ok (), { l with step := l.step + 1 }) ∧
    l.Coherent ∧
    ∀ entry ∈ l.texts, entry.2.toList.length = 2 * blockLength ∧
      ∀ c ∈ entry.2.toList, c ∈ "0123456789abcdef".toList := by
  intro l
  have coherent : l.Coherent := coherent_of_increasing (used_increasing {} uses .nil)
  refine ⟨used_lookup {} uses, ?_, fun _ _ => l.serve_refused, ?_, rfl, coherent, ?_⟩
  · exact (used_step {} uses).trans (Nat.zero_add _)
  · intro index bytes
    rcases l.serve_cases (.record index bytes) with ⟨other, _⟩ | ⟨_, _, refusal, _, _, done⟩ |
      ⟨_, b, same, absent, done⟩
    · cases other
    · exact .inl ⟨⟨refusal, congrArg Prod.fst done⟩, congrArg Prod.snd done⟩
    · cases same
      rw [done]
      exact .inr ⟨rfl, absent, rfl, b, rfl, lookup_recorded b absent⟩
  · rintro ⟨i, text⟩ member
    obtain ⟨b, _, rfl⟩ := (coherent.texts i text).mp member
    exact ⟨by rw [Hex.length_encode, b.length_bytes], Hex.encode_lower b.bytes⟩

theorem first_identifier_stays_behind_refusals :
    let uses := [.record 3 [1], .record 3 (Block.ofNat 5).bytes, .advance,
      .record (-2) (Block.ofNat 6).bytes, .record 3 (Block.ofNat 7).bytes]
    let l := ({} : Ledger).used uses
    l.lookup 3 = some (.ofNat 5) ∧ (3, (Block.ofNat 5).text) ∈ l.texts ∧
      (Block.ofNat 5).text.toList.length = 2 * blockLength := by
  intro uses l
  obtain ⟨held, _, _, _, _, coherent, lower⟩ := entries_are_written_once uses
  have first : l.lookup 3 = some (.ofNat 5) := (held 3).trans (by decide)
  have listed : (3, (Block.ofNat 5).text) ∈ l.texts := (coherent.texts 3 _).mpr ⟨_, first, rfl⟩
  exact ⟨first, listed, (lower _ listed).1⟩

end Ledger

end Rehearsal
