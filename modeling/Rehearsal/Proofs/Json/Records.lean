import Rehearsal.Proofs.Json.ReadBack
import Rehearsal.Proofs.Json.Surrogates

namespace Rehearsal.Json

/-- A datum that is read back at once from how the audit log writes it, in front of what may stand
behind it. -/
structure Leaf (d : Datum) : Prop where
  solid : ∀ rest, skipBlanks (write .audit d ++ rest) = write .audit d ++ rest
  reading : ∀ {fuel rest}, Behind rest →
    readValue front (fuel + 1) (write .audit d ++ rest) = .ok (d.mated, rest)

theorem Leaf.text (s : String) : Leaf (.text s) where
  solid rest := by
    show skipBlanks (writeText .audit s ++ rest) = writeText .audit s ++ rest
    rw [writeText_append]
    rfl
  reading _ := readValue_text .audit s

theorem Leaf.unpaired {points : List Nat} (codes : ∀ n ∈ points, n < 0x110000) :
    Leaf (.unpaired points) where
  solid rest := by
    show skipBlanks (writePoints .audit points ++ rest) = writePoints .audit points ++ rest
    rw [writePoints_append]
    rfl
  reading {fuel rest} _ := by
    show readValue front (fuel + 1) (writePoints .audit points ++ rest) =
      .ok (.ofPoints (Text.paired points), rest)
    rw [writePoints_append, readValue, readPoints_written codes]

theorem Leaf.ofText {t : Text} (codes : t.IsOfCodes) : Leaf (.ofText t) := by
  cases t with
  | whole s => exact .text s
  | torn points => exact .unpaired codes

theorem Leaf.null : Leaf .null where
  solid _ := rfl
  reading {fuel rest} _ := by
    show readValue front (fuel + 1) ('n' :: 'u' :: 'l' :: 'l' :: rest) = .ok (.null, rest)
    simp [readValue, readAtom, afterWord?]

theorem Leaf.int {i : Int} (short : i.natAbs < 10 ^ Decimal.maxDigits) : Leaf (.int i) where
  solid := (ReadsBack.int short).solid
  reading behind := by
    cases i with
    | ofNat n => exact readValue_number behind short
    | negSucc n => exact readValue_negative behind short

def Plain (d : Datum) : Prop := ∀ c ∈ write .audit d, Ascii c

theorem Plain.text (s : String) : Plain (.text s) := writeText_ascii rfl s

theorem Plain.ofText {t : Text} (codes : t.IsOfCodes) : Plain (.ofText t) := by
  cases t with
  | whole s => exact .text s
  | torn points => exact writePoints_ascii rfl codes

theorem Plain.int (i : Int) : Plain (.int i) := writeInt_ascii .audit i

theorem Plain.null : Plain .null := by
  show ∀ c ∈ ['n', 'u', 'l', 'l'], Ascii c
  simp only [List.forall_mem_cons]
  exact ⟨by decide, by decide, by decide, by decide, by simp⟩

theorem Style.Spaced.audit : Style.audit.Spaced [' '] := ⟨rfl, rfl, fun _ => rfl⟩

section Records

variable {entries : List (String × Datum)}

theorem Plain.record (plain : ∀ e ∈ entries, Plain e.2) : Plain (.map (keyed entries)) := by
  have mark {c : Char} (ascii : Ascii c) : ∀ d ∈ [c, ' '], Ascii d :=
    List.forall_mem_cons.mpr ⟨ascii, List.forall_mem_singleton.mpr (by decide)⟩
  have comma : ∀ c ∈ Style.audit.comma.toList, Ascii c := mark (by decide : Ascii ',')
  have colon : ∀ c ∈ Style.audit.colon.toList, Ascii c := mark (by decide : Ascii ':')
  refine bracketed_all (by decide) (by decide) comma ?_
  rw [writeEntries_keyed, List.forall_mem_map]
  intro e member c inside
  rw [List.mem_append, List.mem_append] at inside
  rcases inside with (name | mark) | value
  · exact writeText_ascii rfl e.1 c name
  · exact colon c mark
  · exact plain e member c value

theorem read_record (leaves : ∀ e ∈ entries, Leaf e.2) (different : (entries.map Prod.fst).Nodup) :
    read (render .audit (.map (keyed entries))) = .ok (.map (keyed (retold Datum.mated entries))) := by
  let written := write .audit (.map (keyed entries))
  have long : entries.length + 2 ≤ written.length := length_keyed_ge .audit entries
  have reading : ∀ e ∈ entries, ∀ {fuel rest}, Behind rest → 1 ≤ fuel →
      readValue front fuel (skipBlanks (write .audit e.2 ++ rest)) = .ok (e.2.mated, rest) := by
    intro e member fuel rest behind positive
    obtain ⟨fuel, rfl⟩ := Nat.exists_eq_add_of_le' positive
    rw [(leaves e member).solid]
    exact (leaves e member).reading behind
  have whole : readValue front (2 * written.length + 1 + 1) (written ++ []) = _ :=
    readValue_keyed .audit reading different (by omega)
  rw [List.append_nil] at whole
  exact read_of_readValue ⟨'\x7b', _, rfl, rfl⟩ whole

end Records

end Rehearsal.Json
