import Rehearsal.Proofs.Json.TextReadBack
import Rehearsal.Proofs.Reference.Grammar

namespace Rehearsal.Json

def Printed (d : Datum) : Prop := ∀ c ∈ write .wire d, ' ' ≤ c

theorem Printed.notMem {d : Datum} (printed : Printed d) {c : Char} (control : ¬ ' ' ≤ c) :
    c ∉ write .wire d := fun member => control (printed c member)

theorem Printed.null : Printed .null := by
  show ∀ c ∈ ['n', 'u', 'l', 'l'], ' ' ≤ c
  simp only [List.forall_mem_cons]
  exact ⟨by decide, by decide, by decide, by decide, by simp⟩

theorem Printed.text (s : String) : Printed (.text s) := writeText_printed s

theorem write_number (n : Nat) : write .wire (.int n) = Nat.toDigits 10 n := by
  show (toString (n : Int)).toList = _
  rw [show toString (n : Int) = n.repr from rfl, Nat.toList_repr]

theorem write_negative (n : Nat) :
    write .wire (.int (.negSucc n)) = '-' :: Nat.toDigits 10 (n + 1) := by
  show ("-" ++ (n + 1).repr).toList = _
  simp

theorem toDigits_ascii (n : Nat) : ∀ c ∈ Nat.toDigits 10 n, Ascii c := by
  intro c member
  have bounds := Reference.isDigit_bounds (Decimal.isDigit_of_mem_toDigits n c member)
  rw [Ascii, Char.le_def, Char.le_def, UInt32.le_iff_toNat_le, UInt32.le_iff_toNat_le]
  show 0x20 ≤ c.toNat ∧ c.toNat ≤ 0x7E
  omega

theorem writeInt_ascii (style : Style) (i : Int) : ∀ c ∈ write style (.int i), Ascii c := by
  intro c member
  change c ∈ write .wire (.int i) at member
  cases i with
  | ofNat n =>
    have digit : c ∈ Nat.toDigits 10 n := write_number n ▸ member
    exact toDigits_ascii n c digit
  | negSucc n =>
    rw [write_negative, List.mem_cons] at member
    rcases member with rfl | digit
    · decide
    · exact toDigits_ascii _ c digit

theorem Printed.int (i : Int) : Printed (.int i) := fun c member => (writeInt_ascii .wire i c member).1

section Parts

variable {p : Char → Prop} {opening closing : Char} {separator : List Char} {parts : List (List Char)}

theorem joined_all (between : ∀ c ∈ separator, p c) (inside : ∀ part ∈ parts, ∀ c ∈ part, p c) :
    ∀ c ∈ joined separator parts, p c := by
  induction parts using joined.induct with
  | case1 => simp [joined]
  | case2 part => simpa [joined] using inside
  | case3 part rest more ih =>
    intro c member
    rw [joined, List.mem_append, List.mem_append] at member
    · rcases member with (first | mark) | later
      · exact inside part List.mem_cons_self c first
      · exact between c mark
      · exact ih (fun part among => inside part (.tail _ among)) c later
    · exact more

theorem bracketed_all (first : p opening) (last : p closing) (between : ∀ c ∈ separator, p c)
    (inside : ∀ part ∈ parts, ∀ c ∈ part, p c) :
    ∀ c ∈ opening :: joined separator parts ++ [closing], p c := by
  intro c member
  simp only [List.cons_append, List.mem_cons, List.mem_append, List.not_mem_nil, or_false] at member
  rcases member with rfl | among | rfl
  · exact first
  · exact joined_all between inside c among
  · exact last

end Parts

theorem writeAll_eq_map (style : Style) (items : List Datum) :
    writeAll style items = items.map (write style) := by
  induction items with
  | nil => rfl
  | cons d items ih => rw [writeAll, ih, List.map_cons]

theorem comma_printed : ∀ c ∈ Style.wire.comma.toList, ' ' ≤ c :=
  List.forall_mem_singleton.mpr (by decide)

theorem Printed.list {items : List Datum} (printed : ∀ d ∈ items, Printed d) : Printed (.list items) := by
  refine bracketed_all (by decide) (by decide) comma_printed fun part member => ?_
  rw [writeAll_eq_map, List.mem_map] at member
  obtain ⟨d, listed, rfl⟩ := member
  exact printed d listed

theorem Printed.map {entries : List (Datum × Datum)} (named : ∀ e ∈ entries, ∃ key, e.1 = .text key)
    (printed : ∀ e ∈ entries, Printed e.2) : Printed (.map entries) := by
  refine bracketed_all (by decide) (by decide) comma_printed ?_
  induction entries with
  | nil => simp [writeEntries]
  | cons entry entries ih =>
    obtain ⟨k, d⟩ := entry
    obtain ⟨key, rfl⟩ := named (k, d) List.mem_cons_self
    have colon : ∀ c ∈ [':'], ' ' ≤ c := List.forall_mem_singleton.mpr (by decide)
    rw [writeEntries, List.forall_mem_cons]
    constructor
    · intro c inside
      rw [List.mem_append, List.mem_append] at inside
      rcases inside with (name | mark) | value
      · exact writeText_printed key c name
      · exact colon c mark
      · exact printed _ List.mem_cons_self c value
    · exact ih (fun e member => named e (.tail _ member)) fun e member => printed e (.tail _ member)

end Rehearsal.Json
