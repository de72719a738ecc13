import Mathlib.Data.Finset.Card
import Mathlib.Data.Nat.ModEq
import Rehearsal.Proofs.Store.Gains
import Rehearsal.Proofs.Store.Namespaces

namespace Rehearsal

namespace Block

def digits (count n : Nat) : Bytes :=
  (List.range count).map fun i => UInt8.ofNat (n / 256 ^ (count - 1 - i))

def number (bytes : Bytes) : Nat := bytes.foldl (fun n b => 256 * n + b.toNat) 0

def total : Nat := 256 ^ blockLength

theorem bytes_ofNat (n : Nat) : (ofNat n).bytes = digits blockLength n := rfl

theorem digits_succ (count n : Nat) :
    digits (count + 1) n = digits count (n / 256) ++ [UInt8.ofNat n] := by
  have earlier : (List.range count).map (fun i => UInt8.ofNat (n / 256 ^ (count - i))) =
      digits count (n / 256) := by
    refine List.map_congr_left fun i member => ?_
    have exponent : count - i = count - 1 - i + 1 := by
      have := List.mem_range.mp member
      omega
    rw [exponent, Nat.pow_succ', Nat.div_div_eq_div_mul]
  rw [digits, List.range_succ, List.map_append, Nat.add_sub_cancel, earlier, List.map_singleton,
    Nat.sub_self, Nat.pow_zero, Nat.div_one]

theorem number_append (bytes : Bytes) (b : UInt8) :
    number (bytes ++ [b]) = 256 * number bytes + b.toNat := by
  rw [number, List.foldl_append]
  rfl

theorem number_digits (count n : Nat) : number (digits count n) = n % 256 ^ count := by
  induction count generalizing n with
  | zero => rw [Nat.pow_zero, Nat.mod_one]; rfl
  | succ count ih =>
    rw [digits_succ, number_append, ih, Nat.pow_succ', Nat.mod_mul, UInt8.toNat_ofNat']
    omega

theorem digits_number (bytes : Bytes) : digits bytes.length (number bytes) = bytes := by
  induction bytes using List.reverseRecOn with
  | nil => rfl
  | append_singleton bytes b ih =>
    have bound := b.toNat_lt
    have front : (256 * number bytes + b.toNat) / 256 = number bytes := by omega
    have last : UInt8.ofNat (256 * number bytes + b.toNat) = b := by
      rw [← UInt8.toNat_inj, UInt8.toNat_ofNat']
      omega
    rw [List.length_append, List.length_singleton, digits_succ, number_append, front, ih, last]

theorem bytes_injective {x y : Block} (same : x.bytes = y.bytes) : x = y := by
  obtain ⟨xs, _⟩ := x
  obtain ⟨ys, _⟩ := y
  subst same
  rfl

theorem ofNat_number (b : Block) : ofNat (number b.bytes) = b := by
  have back := digits_number b.bytes
  rw [b.length_bytes] at back
  exact bytes_injective back

theorem ofNat_congr {m n : Nat} (same : m ≡ n [MOD total]) : ofNat m = ofNat n := by
  have spelt : number (ofNat m).bytes = number (ofNat n).bytes := by
    rw [bytes_ofNat, bytes_ofNat, number_digits, number_digits]
    exact same
  rw [← ofNat_number (ofNat m), spelt, ofNat_number]

theorem ofNat_injective {start i j : Nat} (here : i < total) (there : j < total)
    (same : ofNat (start + i) = ofNat (start + j)) : i = j := by
  have spelt : number (digits blockLength (start + i)) = number (digits blockLength (start + j)) :=
    congrArg (fun b => number b.bytes) same
  rw [number_digits, number_digits] at spelt
  exact (Nat.ModEq.add_left_cancel' start spelt).eq_of_lt_of_lt here there

/-- Every block is among as many consecutive ones as there are blocks. -/
theorem exists_ofNat (b : Block) (start : Nat) : ∃ i < total, ofNat (start + i) = b := by
  have positive : 0 < total := Nat.pow_pos (by decide)
  let n := number b.bytes
  have enough : start ≤ total * start := Nat.le_mul_of_pos_left start positive
  have reaches : start + (n + total * start - start) % total ≡ n [MOD total] :=
    calc start + (n + total * start - start) % total
        ≡ start + (n + total * start - start) [MOD total] := (Nat.mod_modEq _ _).add_left start
      _ = n + total * start := by omega
      _ ≡ n [MOD total] := Nat.add_mul_mod_self_left n total start
  exact ⟨_, Nat.mod_lt _ positive, (ofNat_congr reaches).trans b.ofNat_number⟩

end Block

namespace Store

variable {s : Store} {key : Bytes} {b : Block}

def programOf? : Bytes → Option Block
  | [] => none
  | mark :: id => if mark = 0x01 then Block.ofBytes? id else none

def programs (s : Store) : Finset Block := (s.entries.filterMap fun e => programOf? e.1).toFinset

theorem programOf_eq_some : programOf? key = some b ↔ key = programKey b.bytes := by
  constructor
  · intro named
    cases key with
    | nil => cases named
    | cons mark id =>
      obtain ⟨rfl, block⟩ : mark = 0x01 ∧ Block.ofBytes? id = some b := by
        simpa [programOf?] using named
      unfold Block.ofBytes? at block
      split at block
      · cases block
        rfl
      · cases block
  · rintro rfl
    exact b.ofBytes_bytes

theorem find_isSome {entries : List (Bytes × Bytes)} :
    (find? key entries).isSome = true ↔ key ∈ entries.map Prod.fst := by
  induction entries with
  | nil => simp [find?]
  | cons entry rest ih =>
    by_cases same : entry.1 = key
    · simp [find?, same]
    · simp [find?, same, ih, Ne.symm same]

theorem mem_programs : b ∈ s.programs ↔ s.contains (programKey b.bytes) = true := by
  simp only [programs, List.mem_toFinset, List.mem_filterMap, programOf_eq_some, contains, get?,
    find_isSome, List.mem_map]

theorem card_programs_le (s : Store) : s.programs.card ≤ s.size :=
  (List.toFinset_card_le _).trans (List.length_filterMap_le _ _)

theorem exists_free (s : Store) {blocks : Nat → Block}
    (different : ∀ i ≤ s.programs.card, ∀ j ≤ s.programs.card, blocks i = blocks j → i = j) :
    ∃ i ≤ s.programs.card, blocks i ∉ s.programs := by
  have apart : Set.InjOn blocks (Finset.range (s.programs.card + 1)) := by
    intro i here j there same
    simp only [Finset.coe_range, Set.mem_Iio, Nat.lt_succ_iff] at here there
    exact different i here j there same
  have more : s.programs.card < ((Finset.range (s.programs.card + 1)).image blocks).card := by
    rw [Finset.card_image_of_injOn apart, Finset.card_range]
    exact Nat.lt_succ_self _
  obtain ⟨b, among, free⟩ := Finset.exists_mem_notMem_of_card_lt_card more
  obtain ⟨i, bound, rfl⟩ := Finset.mem_image.mp among
  exact ⟨i, Nat.le_of_lt_succ (Finset.mem_range.mp bound), free⟩

end Store

namespace Draws

variable {d : Draws} {store : Store}

theorem firstFresh_none {stream : Nat → Block} {fuel n : Nat} :
    firstFresh? stream store fuel n = none ↔
      ∀ i < fuel, (store.get? (Store.programKey (stream (n + i)).bytes)).isSome = true := by
  induction fuel generalizing n with
  | zero => simp [firstFresh?]
  | succ fuel ih =>
    cases taken : store.contains (Store.programKey (stream n).bytes) with
    | true =>
      rw [firstFresh?, if_pos taken, ih]
      constructor
      · intro all i bound
        cases i with
        | zero => exact taken
        | succ i =>
          rw [← Nat.add_assoc, Nat.add_right_comm]
          exact all i (by omega)
      · intro all i bound
        rw [Nat.add_right_comm, Nat.add_assoc]
        exact all (i + 1) (by omega)
    | false =>
      rw [firstFresh?, if_neg (by simp [taken])]
      refine iff_of_false (by simp) fun all => ?_
      have here := all 0 (by omega)
      rw [Nat.add_zero] at here
      exact absurd here (by simpa [Store.contains] using taken)

theorem block_behind (d : Draws) (i : Nat) :
    d.block (d.taken + (d.remaining + i)) = .ofNat (d.taken + d.remaining + 1 + i) := by
  have behind : d.supplied.length ≤ d.taken + (d.remaining + i) := by
    rw [remaining]
    omega
  rw [block, List.getElem?_eq_none behind, Option.getD_none]
  congr 1
  omega

theorem nextFresh_some_iff :
    (∃ id d', d.nextFresh? store = some (id, d')) ↔
      ∃ b : Block, store.get? (Store.programKey b.bytes) = none := by
  constructor
  · rintro ⟨id, d', found⟩
    exact ⟨id, nextFresh_absent found⟩
  · rintro ⟨b, free⟩
    cases searched : firstFresh? d.block store (d.remaining + store.size + 1) d.taken with
    | some found => exact ⟨_, _, by rw [nextFresh?, searched]; rfl⟩
    | none =>
      have taken (i : Nat) (bound : i ≤ store.size) :
          Block.ofNat (d.taken + d.remaining + 1 + i) ∈ store.programs := by
        rw [← d.block_behind]
        exact Store.mem_programs.mpr (firstFresh_none.mp searched (d.remaining + i) (by omega))
      have few := store.card_programs_le
      by_cases fits : store.programs.card < Block.total
      · have different : ∀ i ≤ store.programs.card, ∀ j ≤ store.programs.card,
            Block.ofNat (d.taken + d.remaining + 1 + i) = Block.ofNat (d.taken + d.remaining + 1 + j) →
              i = j := fun i here j there => Block.ofNat_injective (by omega) (by omega)
        obtain ⟨i, bound, absent⟩ := store.exists_free different
        exact absurd (taken i (bound.trans few)) absent
      · obtain ⟨i, bound, reached⟩ := b.exists_ofNat (d.taken + d.remaining + 1)
        have held := Store.mem_programs.mp (taken i (by omega))
        rw [reached, Store.contains, free] at held
        cases held

end Draws

end Rehearsal
