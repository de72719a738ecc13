import Mathlib.Data.Nat.Find
import Mathlib.Data.PFun
import Rehearsal.Proofs.Draws.FreshBlocks

namespace Rehearsal

namespace Draws

variable {stream : Nat → Block} {s : Store} {n : Nat}

def turn (stream : Nat → Block) : Store × Nat → (Block × Store × Nat) ⊕ (Store × Nat)
  | (s, n) =>
    if s.contains (Store.programKey (stream n).bytes) then .inr (s, n + 1)
    else .inl (stream n, s, n + 1)

/-- Draws from a stream until a block names no program of the store. Nothing counts the turns, and a search
without an end has no result. -/
def drawFree (stream : Nat → Block) (s : Store) (n : Nat) : Part (Block × Store × Nat) :=
  PFun.fix (fun p => Part.some (turn stream p)) (s, n)

theorem turn_free (free : stream n ∉ s.programs) : turn stream (s, n) = .inl (stream n, s, n + 1) :=
  if_neg (mt Store.mem_programs.mpr free)

theorem turn_taken (taken : stream n ∈ s.programs) : turn stream (s, n) = .inr (s, n + 1) :=
  if_pos (Store.mem_programs.mp taken)

theorem drawFree_free (free : stream n ∉ s.programs) :
    drawFree stream s n = Part.some (stream n, s, n + 1) := by
  have ended := (turn_free free).symm
  exact Part.eq_some_iff.mpr (PFun.fix_stop (Part.mem_some_iff.mpr ended))

theorem drawFree_taken (taken : stream n ∈ s.programs) :
    drawFree stream s n = drawFree stream s (n + 1) := by
  have on := (turn_taken taken).symm
  exact PFun.fix_fwd_eq (Part.mem_some_iff.mpr on)

/-- The first free block of a stream from a place on is at a distance. -/
structure FirstFree (stream : Nat → Block) (s : Store) (n i : Nat) : Prop where
  free : stream (n + i) ∉ s.programs
  taken : ∀ k < i, stream (n + k) ∈ s.programs

theorem exists_firstFree {j : Nat} (free : stream (n + j) ∉ s.programs) :
    ∃ i ≤ j, FirstFree stream s n i := by
  have found : ∃ i, stream (n + i) ∉ s.programs := ⟨j, free⟩
  refine ⟨Nat.find found, Nat.find_min' found free, Nat.find_spec found, ?_⟩
  intro k before
  exact not_not.mp (Nat.find_min found before)

theorem FirstFree.here (free : stream n ∉ s.programs) : FirstFree stream s n 0 :=
  ⟨free, fun _ none => by cases none⟩

theorem FirstFree.later {i : Nat} (taken : stream n ∈ s.programs)
    (first : FirstFree stream s (n + 1) i) : FirstFree stream s n (i + 1) := by
  refine ⟨?_, ?_⟩
  · rw [Nat.add_comm i 1, ← Nat.add_assoc]
    exact first.free
  · intro k before
    cases k with
    | zero => exact taken
    | succ k =>
      rw [Nat.add_comm k 1, ← Nat.add_assoc]
      exact first.taken k (Nat.lt_of_succ_lt_succ before)

theorem FirstFree.next {i : Nat} (first : FirstFree stream s n (i + 1)) :
    stream n ∈ s.programs ∧ FirstFree stream s (n + 1) i := by
  refine ⟨first.taken 0 (Nat.succ_pos i), ?_, ?_⟩
  · rw [Nat.add_assoc, Nat.add_comm 1 i]
    exact first.free
  · intro k before
    rw [Nat.add_assoc, Nat.add_comm 1 k]
    exact first.taken (k + 1) (Nat.succ_lt_succ before)

theorem drawFree_of_firstFree {i : Nat} (first : FirstFree stream s n i) :
    drawFree stream s n = Part.some (stream (n + i), s, n + i + 1) := by
  induction i generalizing n with
  | zero => exact drawFree_free first.free
  | succ i ih =>
    obtain ⟨taken, first⟩ := first.next
    rw [drawFree_taken taken, ih first, Nat.add_assoc n 1 i, Nat.add_comm 1 i]

theorem exists_of_mem_drawFree {r : Block × Store × Nat} (drawn : r ∈ drawFree stream s n) :
    ∃ i, FirstFree stream s n i := by
  -- The induction is on the turns of a search that ends: no measure has to go down with them.
  refine PFun.fixInduction (C := fun p => ∃ i, FirstFree stream p.1 p.2 i) drawn ?_
  rintro ⟨s, n⟩ - later
  by_cases taken : stream n ∈ s.programs
  · have on := (turn_taken taken).symm
    obtain ⟨i, first⟩ := later _ (Part.mem_some_iff.mpr on)
    exact ⟨i + 1, first.later taken⟩
  · exact ⟨0, .here taken⟩

theorem firstFresh_some {fuel m : Nat} {id : Block} (found : firstFresh? stream s fuel n = some (id, m)) :
    ∃ i, FirstFree stream s n i ∧ id = stream (n + i) ∧ m = n + i := by
  induction fuel generalizing n with
  | zero => cases found
  | succ fuel ih =>
    rw [firstFresh?] at found
    split at found
    · rename_i taken
      obtain ⟨i, first, rfl, rfl⟩ := ih found
      have place : n + 1 + i = n + (i + 1) := by omega
      exact ⟨i + 1, first.later (Store.mem_programs.mpr taken), by rw [place], place⟩
    · rename_i free
      cases found
      exact ⟨0, .here (mt Store.mem_programs.mp free), rfl, rfl⟩

/-- The bound on the number of draws is never what ends a search. -/
theorem nextFresh_eq (d : Draws) (s : Store) : Part.ofOption (d.nextFresh? s) =
    (drawFree d.block s d.taken).map fun (id, _, n) => (id, { d with taken := n }) := by
  cases found : firstFresh? d.block s (d.remaining + s.size + 1) d.taken with
  | some r =>
    obtain ⟨id, place⟩ := r
    obtain ⟨i, first, rfl, rfl⟩ := firstFresh_some found
    rw [nextFresh?, found, drawFree_of_firstFree first, Part.map_some]
    rfl
  | none =>
    have nothing : d.nextFresh? s = none := by rw [nextFresh?, found, Option.map_none]
    have endless : drawFree d.block s d.taken = Part.none := by
      refine Part.eq_none_iff.mpr fun r drawn => ?_
      obtain ⟨i, first⟩ := exists_of_mem_drawFree drawn
      have free : s.get? (Store.programKey (d.block (d.taken + i)).bytes) = none :=
        Store.contains_eq_false.mp (Bool.eq_false_iff.mpr (mt Store.mem_programs.mpr first.free))
      obtain ⟨_, _, some⟩ := nextFresh_some_iff.mpr ⟨_, free⟩
      cases some.symm.trans nothing
    rw [nothing, endless, Part.map_none]
    rfl

/-- Behind the supplied blocks one of as many blocks as there are programs, and one more, is free. -/
theorem exists_free (d : Draws) (few : s.programs.card < 2 ^ 256) :
    ∃ i ≤ d.remaining + s.programs.card, d.block (d.taken + i) ∉ s.programs := by
  have different : ∀ i ≤ s.programs.card, ∀ j ≤ s.programs.card,
      d.block (d.taken + (d.remaining + i)) = d.block (d.taken + (d.remaining + j)) → i = j := by
    have total : Block.total = 2 ^ 256 := by decide
    intro i here j there same
    rw [block_behind, block_behind] at same
    exact Block.ofNat_injective (by omega) (by omega) same
  obtain ⟨i, bound, free⟩ := s.exists_free different
  exact ⟨d.remaining + i, by omega, free⟩

/-- An identifier is the first free block. Whatever the stream and the store, if a block from some place on
names no program, the search from there ends, gives the first such block, uses up the blocks up to it and no
more, and leaves the store as it was. The streams of a run are searched like that, without a bound; unless
all blocks are programs the search ends, after at most as many draws as there are supplied blocks left and
programs, and one more. -/
theorem identifiers_are_first_free_blocks :
    (∀ (stream : Nat → Block) (s : Store) (n : Nat), (∃ m, n ≤ m ∧ stream m ∉ s.programs) →
      ∃ m, n ≤ m ∧ stream m ∉ s.programs ∧ (∀ k, n ≤ k → k < m → stream k ∈ s.programs) ∧
        drawFree stream s n = Part.some (stream m, s, m + 1)) ∧
    (∀ (d : Draws) (s : Store), Part.ofOption (d.nextFresh? s) =
      (drawFree d.block s d.taken).map fun (id, _, n) => (id, { d with taken := n })) ∧
    ∀ (d : Draws) (s : Store), s.programs.card < 2 ^ 256 →
      ∃ i, i + 1 ≤ d.remaining + s.programs.card + 1 ∧
        drawFree d.block s d.taken = Part.some (d.block (d.taken + i), s, d.taken + i + 1) ∧
        d.nextFresh? s = some (d.block (d.taken + i), { d with taken := d.taken + i + 1 }) := by
  refine ⟨?_, nextFresh_eq, ?_⟩
  · rintro stream s n ⟨m, bound, free⟩
    have place : m = n + (m - n) := by omega
    obtain ⟨i, _, first⟩ := exists_firstFree (n := n) (place ▸ free)
    refine ⟨n + i, Nat.le_add_right n i, first.free, ?_, drawFree_of_firstFree first⟩
    intro k behind before
    have taken := first.taken (k - n) (by omega)
    rwa [show n + (k - n) = k by omega] at taken
  · intro d s few
    obtain ⟨j, bound, free⟩ := d.exists_free few
    obtain ⟨i, before, first⟩ := exists_firstFree free
    have drawn := drawFree_of_firstFree first
    have next := nextFresh_eq d s
    rw [drawn, Part.map_some, Part.eq_some_iff, Part.mem_ofOption] at next
    exact ⟨i, by omega, drawn, next⟩

theorem fourth_block_is_first_free :
    let d : Draws := { supplied := [.ofNat 7, .ofNat 7] }
    let s := Store.ofList [(Store.programKey (Block.ofNat 7).bytes, [1]),
      (Store.programKey (Block.ofNat 3).bytes, [2])]
    drawFree d.block s 0 = Part.some (.ofNat 4, s, 4) ∧ s.programs.card = 2 ∧
      ∃ i, i + 1 ≤ 5 ∧ d.nextFresh? s = some (d.block i, { d with taken := i + 1 }) := by
  intro d s
  obtain ⟨anywhere, _, here⟩ := identifiers_are_first_free_blocks
  have two : s.programs.card = 2 := by decide
  have free : d.block 3 ∉ s.programs := by decide
  have taken : ∀ k < 3, d.block k ∈ s.programs := by decide
  obtain ⟨m, _, first, before, drawn⟩ := anywhere d.block s 0 ⟨3, Nat.zero_le 3, free⟩
  have place : m = 3 := by
    rcases Nat.lt_trichotomy m 3 with earlier | same | later
    · exact absurd (taken m earlier) first
    · exact same
    · exact absurd (before 3 (Nat.zero_le 3) later) free
  obtain ⟨i, bound, _, next⟩ := here d s (by rw [two]; decide)
  rw [two] at bound
  refine ⟨by rw [drawn, place]; rfl, two, i, bound, ?_⟩
  simpa [d] using next

end Draws

end Rehearsal
