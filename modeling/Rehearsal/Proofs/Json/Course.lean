import Rehearsal.Proofs.Json.Leaves
import Rehearsal.Proofs.Outcome

namespace Rehearsal.Json

variable {look : List Char → Nat}

def BeginsAtom (s : List Char) : Prop := ∀ c ∈ s.head?, c ≠ '"' ∧ c ≠ '[' ∧ c ≠ '\x7b'

mutual

/-- What the value at the front of a text comes to: a datum with what is left behind it, or the number of
digits of a whole number in it that has too many. These relations follow the grammar and know no fuel; the
reader has as much of it as any course needs. -/
inductive ValueComes (look : List Char → Nat) :
    List Char → Except Nat (Datum × List Char) → Prop
  | text {rest left : List Char} {points : List Nat}
      (read : readPoints look ('"' :: rest) rest = .ok (points, left)) :
      ValueComes look ('"' :: rest) (.ok (.ofPoints points, left))
  | emptyList {rest left : List Char} (closed : skipBlanks rest = ']' :: left) :
      ValueComes look ('[' :: rest) (.ok (.list [], left))
  | list {rest : List Char} {r : Except Nat (List Datum × List Char)}
      (opened : ∀ left, skipBlanks rest ≠ ']' :: left) (items : ItemsCome look (skipBlanks rest) r) :
      ValueComes look ('[' :: rest) (r.map fun (items, left) => (.list items, left))
  | emptyMap {rest left : List Char} (closed : skipBlanks rest = '\x7d' :: left) :
      ValueComes look ('\x7b' :: rest) (.ok (.map [], left))
  | map {rest : List Char} {r : Except Nat (List (Datum × Datum) × List Char)}
      (opened : ∀ left, skipBlanks rest ≠ '\x7d' :: left) (entries : EntriesCome look [] (skipBlanks rest) r) :
      ValueComes look ('\x7b' :: rest) (r.map fun (entries, left) => (.map entries, left))
  | atom {s left : List Char} {d : Datum} (begins : BeginsAtom s) (read : readAtom s = .ok (d, left)) :
      ValueComes look s (.ok (d, left))
  | long {s : List Char} {n : Nat} (numeral : LongNumeral s n) : ValueComes look s (.error n)

inductive ItemsCome (look : List Char → Nat) :
    List Char → Except Nat (List Datum × List Char) → Prop
  | stops {s : List Char} {n : Nat} (item : ValueComes look s (.error n)) : ItemsCome look s (.error n)
  | last {s left rest : List Char} {d : Datum} (item : ValueComes look s (.ok (d, left)))
      (closed : skipBlanks left = ']' :: rest) : ItemsCome look s (.ok ([d], rest))
  | more {s left rest : List Char} {d : Datum} {r : Except Nat (List Datum × List Char)}
      (item : ValueComes look s (.ok (d, left))) (comma : skipBlanks left = ',' :: rest)
      (later : ItemsCome look (skipBlanks rest) r) :
      ItemsCome look s (r.map fun (items, left) => (d :: items, left))

inductive EntriesCome (look : List Char → Nat) :
    List (Datum × Datum) → List Char → Except Nat (List (Datum × Datum) × List Char) → Prop
  | stops {seen : List (Datum × Datum)} {rest left value : List Char} {points : List Nat} {n : Nat}
      (key : readPoints look ('"' :: rest) rest = .ok (points, left)) (colon : skipBlanks left = ':' :: value)
      (item : ValueComes look (skipBlanks value) (.error n)) : EntriesCome look seen ('"' :: rest) (.error n)
  | last {seen : List (Datum × Datum)} {rest left value behind last : List Char} {points : List Nat}
      {d : Datum} (key : readPoints look ('"' :: rest) rest = .ok (points, left))
      (colon : skipBlanks left = ':' :: value) (item : ValueComes look (skipBlanks value) (.ok (d, behind)))
      (closed : skipBlanks behind = '\x7d' :: last) :
      EntriesCome look seen ('"' :: rest) (.ok (Datum.putEntry (.ofPoints points) d seen, last))
  | more {seen : List (Datum × Datum)} {rest left value behind next : List Char} {points : List Nat}
      {d : Datum} {r : Except Nat (List (Datum × Datum) × List Char)}
      (key : readPoints look ('"' :: rest) rest = .ok (points, left)) (colon : skipBlanks left = ':' :: value)
      (item : ValueComes look (skipBlanks value) (.ok (d, behind))) (comma : skipBlanks behind = ',' :: next)
      (later : EntriesCome look (Datum.putEntry (.ofPoints points) d seen) (skipBlanks next) r) :
      EntriesCome look seen ('"' :: rest) r

end

section Sound

variable {fuel : Nat} {α : Type}

theorem ok_mapError {r : Except Nat α} {a : α} (same : .ok a = r.mapError Stop.digits) : r = .ok a := by
  cases r <;> cases same
  rfl

theorem error_mapError {r : Except Nat α} {stop : Stop} (same : .error stop = r.mapError Stop.digits) :
    ∃ n, stop = .digits n ∧ r = .error n := by
  cases r <;> cases same
  exact ⟨_, rfl, rfl⟩

theorem fault_mapError {r : Except Nat α} {f : Fault} {left : List Char} :
    .error (.fault f left) ≠ r.mapError Stop.digits := by
  cases r <;> nofun

theorem valueComes_of_read
    (ofItems : ∀ {s r}, readItems look fuel s = r.mapError .digits → ItemsCome look s r)
    (ofEntries : ∀ {seen s r}, readEntries look fuel seen s = r.mapError .digits → EntriesCome look seen s r)
    {s : List Char} {r : Except Nat (Datum × List Char)}
    (read : readValue look (fuel + 1) s = r.mapError .digits) : ValueComes look s r := by
  unfold readValue at read
  split at read
  · split at read
    · rename_i found
      rw [ok_mapError read]
      exact .text found
    · rename_i found
      obtain ⟨f, left, rfl⟩ := readPoints_error found
      exact absurd read fault_mapError
  · split at read
    · rename_i closed
      rw [ok_mapError read]
      exact .emptyList closed
    · rename_i opened
      split at read
      · rename_i items left found
        rw [ok_mapError read]
        exact .list (r := .ok (items, left)) (fun _ => opened _) (ofItems found)
      · rename_i found
        obtain ⟨n, rfl, rfl⟩ := error_mapError read
        exact .list (r := .error n) (fun _ => opened _) (ofItems found)
  · split at read
    · rename_i closed
      rw [ok_mapError read]
      exact .emptyMap closed
    · rename_i opened
      split at read
      · rename_i entries left found
        rw [ok_mapError read]
        exact .map (r := .ok (entries, left)) (fun _ => opened _) (ofEntries found)
      · rename_i found
        obtain ⟨n, rfl, rfl⟩ := error_mapError read
        exact .map (r := .error n) (fun _ => opened _) (ofEntries found)
  · rename_i noText noList noMap
    have begins : BeginsAtom s := by
      rintro c member
      obtain ⟨rest, rfl⟩ := List.head?_eq_some_iff.mp member
      refine ⟨?_, ?_, ?_⟩ <;> rintro rfl
      · exact noText rest rfl
      · exact noList rest rfl
      · exact noMap rest rfl
    cases r with
    | ok parts => exact .atom begins read
    | error n => exact .long (readAtom_digits.mp read)

theorem itemsCome_of_read
    (ofValue : ∀ {s r}, readValue look fuel s = r.mapError .digits → ValueComes look s r)
    (ofItems : ∀ {s r}, readItems look fuel s = r.mapError .digits → ItemsCome look s r)
    {s : List Char} {r : Except Nat (List Datum × List Char)}
    (read : readItems look (fuel + 1) s = r.mapError .digits) : ItemsCome look s r := by
  unfold readItems at read
  split at read
  · rename_i found
    obtain ⟨n, rfl, rfl⟩ := error_mapError read
    exact .stops (ofValue (r := .error n) found)
  · rename_i d left found
    have item : ValueComes look s (.ok (d, left)) := ofValue (r := .ok (d, left)) found
    split at read
    · rename_i closed
      rw [ok_mapError read]
      exact .last item closed
    · rename_i comma
      split at read
      · rename_i items behind found
        rw [ok_mapError read]
        exact .more (r := .ok (items, behind)) item comma (ofItems found)
      · rename_i found
        obtain ⟨n, rfl, rfl⟩ := error_mapError read
        exact .more (r := .error n) item comma (ofItems found)
    · exact absurd read fault_mapError

theorem entriesCome_of_read
    (ofValue : ∀ {s r}, readValue look fuel s = r.mapError .digits → ValueComes look s r)
    (ofEntries : ∀ {seen s r}, readEntries look fuel seen s = r.mapError .digits → EntriesCome look seen s r)
    {seen : List (Datum × Datum)} {s : List Char} {r : Except Nat (List (Datum × Datum) × List Char)}
    (read : readEntries look (fuel + 1) seen s = r.mapError .digits) : EntriesCome look seen s r := by
  unfold readEntries at read
  split at read
  · split at read
    · rename_i found
      obtain ⟨f, left, rfl⟩ := readPoints_error found
      exact absurd read fault_mapError
    · rename_i key
      split at read
      · rename_i colon
        split at read
        · rename_i found
          obtain ⟨n, rfl, rfl⟩ := error_mapError read
          exact .stops key colon (ofValue (r := .error n) found)
        · rename_i d behind found
          have item := ofValue (r := .ok (d, behind)) found
          simp only at read
          split at read
          · rename_i closed
            rw [ok_mapError read]
            exact .last key colon item closed
          · rename_i comma
            exact .more key colon item comma (ofEntries read)
          · exact absurd read fault_mapError
      · exact absurd read fault_mapError
  · exact absurd read fault_mapError

theorem comes_of_read (fuel : Nat) :
    (∀ {s r}, readValue look fuel s = r.mapError .digits → ValueComes look s r) ∧
      (∀ {s r}, readItems look fuel s = r.mapError .digits → ItemsCome look s r) ∧
      ∀ {seen s r}, readEntries look fuel seen s = r.mapError .digits → EntriesCome look seen s r := by
  induction fuel with
  | zero => exact ⟨fun read => absurd read fault_mapError, fun read => absurd read fault_mapError,
      fun read => absurd read fault_mapError⟩
  | succ fuel ih =>
    obtain ⟨ofValue, ofItems, ofEntries⟩ := ih
    exact ⟨valueComes_of_read ofItems ofEntries, itemsCome_of_read ofValue ofItems,
      entriesCome_of_read ofValue ofEntries⟩

end Sound

section Length

theorem length_behind {s rest : List Char} {c : Char} (found : skipBlanks s = c :: rest) :
    rest.length < s.length := by
  have shorter := skipBlanks_length_le s
  rw [found, List.length_cons] at shorter
  exact shorter

theorem length_next {s rest : List Char} {c : Char} (found : skipBlanks s = c :: rest) :
    (skipBlanks rest).length < s.length :=
  (skipBlanks_length_le rest).trans_lt (length_behind found)

theorem length_value {rest left value : List Char} {points : List Nat}
    (key : readPoints look ('"' :: rest) rest = .ok (points, left)) (colon : skipBlanks left = ':' :: value) :
    (skipBlanks value).length < ('"' :: rest).length :=
  (length_next colon).trans_le (Nat.le_succ_of_le (readPoints_length_le key))

mutual

theorem ValueComes.length_le {s : List Char} {r : Except Nat (Datum × List Char)} {d : Datum}
    {left : List Char} (same : r = .ok (d, left)) : ValueComes look s r → left.length ≤ s.length
  | .text read => by
    cases same
    exact Nat.le_succ_of_le (readPoints_length_le read)
  | .emptyList closed | .emptyMap closed => by
    cases same
    exact Nat.le_succ_of_le (Nat.le_of_lt (length_behind closed))
  | .list _ items => by
    obtain ⟨⟨_, _⟩, found, parts⟩ := Outcome.map_ok.mp same
    cases parts
    exact Nat.le_succ_of_le ((items.length_le found).trans (skipBlanks_length_le _))
  | .map _ entries => by
    obtain ⟨⟨_, _⟩, found, parts⟩ := Outcome.map_ok.mp same
    cases parts
    exact Nat.le_succ_of_le ((entries.length_le found).trans (skipBlanks_length_le _))
  | .atom _ read => by
    cases same
    exact (readAtom_ok read).1
  | .long _ => nomatch same

theorem ItemsCome.length_le {s : List Char} {r : Except Nat (List Datum × List Char)}
    {items : List Datum} {left : List Char} (same : r = .ok (items, left)) :
    ItemsCome look s r → left.length ≤ s.length
  | .stops _ => nomatch same
  | .last item closed => by
    cases same
    exact (Nat.le_of_lt (length_behind closed)).trans (item.length_le rfl)
  | .more item comma later => by
    obtain ⟨⟨_, _⟩, found, parts⟩ := Outcome.map_ok.mp same
    cases parts
    have behind := (later.length_le found).trans (skipBlanks_length_le _)
    exact behind.trans ((Nat.le_of_lt (length_behind comma)).trans (item.length_le rfl))

theorem EntriesCome.length_le {seen : List (Datum × Datum)} {s : List Char}
    {r : Except Nat (List (Datum × Datum) × List Char)} {entries : List (Datum × Datum)}
    {left : List Char} (same : r = .ok (entries, left)) :
    EntriesCome look seen s r → left.length ≤ s.length
  | .stops .. => nomatch same
  | .last key colon item closed => by
    cases same
    have value := (item.length_le rfl).trans_lt (length_value key colon)
    exact Nat.le_of_lt ((length_behind closed).trans value)
  | .more key colon item comma later => by
    have value := (item.length_le rfl).trans_lt (length_value key colon)
    exact (later.length_le same).trans (Nat.le_of_lt ((length_next comma).trans value))

end

end Length

section Complete

theorem readValue_atom {s : List Char} (begins : BeginsAtom s) (fuel : Nat) :
    readValue look (fuel + 1) s = readAtom s := by
  rw [readValue]
  all_goals
    rintro rest rfl
    obtain ⟨noText, noList, noMap⟩ := begins _ rfl
    contradiction

theorem LongNumeral.beginsAtom {s : List Char} {n : Nat} (numeral : LongNumeral s n) : BeginsAtom s := by
  obtain ⟨signed, all, _, long⟩ := numeral
  rename_i sign digits rest
  obtain ⟨d, more, rfl⟩ := List.exists_cons_of_ne_nil (List.length_pos_iff.mp (Nat.zero_lt_of_lt long))
  intro c member
  rcases signed with rfl | rfl
  · obtain rfl : d = c := Option.some.inj member
    have digit := all d List.mem_cons_self
    refine ⟨?_, ?_, ?_⟩ <;> rintro rfl <;> cases digit
  · obtain rfl : '-' = c := Option.some.inj member
    decide

mutual

theorem ValueComes.read {s : List Char} {r : Except Nat (Datum × List Char)} {fuel : Nat}
    (enough : 2 * s.length + 1 ≤ fuel) (comes : ValueComes look s r) :
    readValue look fuel s = r.mapError .digits := by
  obtain ⟨fuel, rfl⟩ : ∃ more, fuel = more + 1 := ⟨fuel - 1, by omega⟩
  match comes with
  | .text read =>
    rw [readValue, read]
    rfl
  | .emptyList closed | .emptyMap closed =>
    rw [readValue, closed]
    rfl
  | @ValueComes.list _ rest r opened items =>
    have shorter := skipBlanks_length_le rest
    simp only [List.length_cons] at enough
    rw [readValue]
    split
    · rename_i closed
      exact absurd closed (opened _)
    · rw [items.read (by omega)]
      cases r <;> rfl
  | @ValueComes.map _ rest r opened entries =>
    have shorter := skipBlanks_length_le rest
    simp only [List.length_cons] at enough
    rw [readValue]
    split
    · rename_i closed
      exact absurd closed (opened _)
    · rw [entries.read (by omega)]
      cases r <;> rfl
  | .atom begins read =>
    rw [readValue_atom begins, read]
    rfl
  | .long numeral =>
    rw [readValue_atom numeral.beginsAtom, readAtom_digits.mpr numeral]
    rfl

theorem ItemsCome.read {s : List Char} {r : Except Nat (List Datum × List Char)} {fuel : Nat}
    (enough : 2 * s.length + 2 ≤ fuel) (comes : ItemsCome look s r) :
    readItems look fuel s = r.mapError .digits := by
  obtain ⟨fuel, rfl⟩ : ∃ more, fuel = more + 1 := ⟨fuel - 1, by omega⟩
  match comes with
  | .stops item =>
    rw [readItems, item.read (by omega)]
    rfl
  | .last item closed =>
    rw [readItems, item.read (by omega)]
    simp only [Except.mapError, closed]
  | .more (r := r) item comma later =>
    have shorter := length_next comma
    have left := item.length_le rfl
    rw [readItems, item.read (by omega)]
    simp only [Except.mapError, comma]
    rw [later.read (by omega)]
    cases r <;> rfl

theorem EntriesCome.read {seen : List (Datum × Datum)} {s : List Char}
    {r : Except Nat (List (Datum × Datum) × List Char)} {fuel : Nat} (enough : 2 * s.length + 2 ≤ fuel)
    (comes : EntriesCome look seen s r) : readEntries look fuel seen s = r.mapError .digits := by
  obtain ⟨fuel, rfl⟩ : ∃ more, fuel = more + 1 := ⟨fuel - 1, by omega⟩
  match comes with
  | .stops key colon item =>
    have shorter := length_value key colon
    simp only [readEntries, key, colon]
    rw [item.read (by omega)]
    rfl
  | .last key colon item closed =>
    have shorter := length_value key colon
    simp only [readEntries, key, colon]
    rw [item.read (by omega)]
    simp only [Except.mapError, closed]
  | .more key colon item comma later =>
    have shorter := length_value key colon
    have left := item.length_le rfl
    have next := length_next comma
    simp only [readEntries, key, colon]
    rw [item.read (by omega)]
    simp only [Except.mapError, comma]
    exact later.read (by omega)

end

end Complete

/-- A text in which reading meets a whole number of so many digits, more than a numeral may have, before
anything is wrong. -/
def Overlong (t : Text) (n : Nat) : Prop :=
  (chars t).head? ≠ some '\ufeff' ∧ ValueComes (lookAt t) (skipBlanks (chars t)) (.error n)

theorem readChars_digits {s : List Char} {n : Nat} :
    readChars look s = .error (.digits n) ↔ s.head? ≠ some '\ufeff' ∧ ValueComes look (skipBlanks s) (.error n) := by
  constructor
  · intro stops
    unfold readChars at stops
    split at stops
    · cases stops
    · rename_i noMark
      refine ⟨fun mark => ?_, ?_⟩
      · obtain ⟨rest, rfl⟩ := List.head?_eq_some_iff.mp mark
        exact noMark rest rfl
      · split at stops
        · rename_i found
          cases stops
          exact (comes_of_read _).1 (r := .error n) found
        · split at stops <;> cases stops
  · rintro ⟨noMark, comes⟩
    have shorter := skipBlanks_length_le s
    unfold readChars
    split
    · exact absurd rfl noMark
    · rw [comes.read (by omega)]
      rfl

/-- Reading stops at a numeral with too many digits just if it meets one by the grammar. -/
theorem readText_digits {t : Text} {n : Nat} : readText t = .error (.digits n) ↔ Overlong t n := by
  rw [Overlong, ← readChars_digits, readText]
  cases readChars (lookAt t) (chars t) with
  | ok d => simp [Except.mapError]
  | error stop => cases stop <;> simp [Except.mapError, Stop.problem]

theorem readText_whole (s : String) : readText s = read s := rfl

theorem readText_ok {t : Text} {d : Datum} (done : readText t = .ok d) :
    ∃ left, ValueComes (lookAt t) (skipBlanks (chars t)) (.ok (d, left)) := by
  unfold readText at done
  cases read : readChars (lookAt t) (chars t) with
  | error stop =>
    rw [read] at done
    cases done
  | ok e =>
    rw [read] at done
    cases done
    unfold readChars at read
    split at read
    · cases read
    · split at read
      · cases read
      · rename_i left found
        split at read
        · cases read
          exact ⟨left, (comes_of_read _).1 (r := .ok (d, left)) found⟩
        · cases read

section Shown

theorem isTooLong_ofPoints (points : List Nat) : (Datum.ofPoints points).isTooLong = false := by
  unfold Datum.ofPoints Datum.ofText
  split <;> rfl

theorem anyEntryTooLong_putEntry {key value : Datum} {entries : List (Datum × Datum)}
    (shortKey : key.isTooLong = false) (shortValue : value.isTooLong = false)
    (short : Datum.anyEntryTooLong entries = false) :
    Datum.anyEntryTooLong (Datum.putEntry key value entries) = false := by
  induction entries with
  | nil => simp [Datum.putEntry, Datum.anyEntryTooLong, shortKey, shortValue]
  | cons entry rest ih =>
    obtain ⟨k, v⟩ := entry
    simp only [Datum.anyEntryTooLong, Bool.or_eq_false_iff] at short
    obtain ⟨⟨first, _⟩, later⟩ := short
    unfold Datum.putEntry
    split <;> simp_all [Datum.anyEntryTooLong]

mutual

theorem ValueComes.short {s : List Char} {r : Except Nat (Datum × List Char)} {d : Datum}
    {left : List Char} (same : r = .ok (d, left)) : ValueComes look s r → d.isTooLong = false
  | .text _ => by
    cases same
    exact isTooLong_ofPoints _
  | .emptyList _ | .emptyMap _ => by
    cases same
    rfl
  | .list _ items => by
    obtain ⟨⟨_, _⟩, found, parts⟩ := Outcome.map_ok.mp same
    cases parts
    exact items.short found
  | .map _ entries => by
    obtain ⟨⟨_, _⟩, found, parts⟩ := Outcome.map_ok.mp same
    cases parts
    exact entries.short rfl found
  | .atom _ read => by
    cases same
    exact (readAtom_ok read).2
  | .long _ => nomatch same

theorem ItemsCome.short {s : List Char} {r : Except Nat (List Datum × List Char)}
    {items : List Datum} {left : List Char} (same : r = .ok (items, left)) :
    ItemsCome look s r → Datum.anyTooLong items = false
  | .stops _ => nomatch same
  | .last item _ => by
    cases same
    simp [Datum.anyTooLong, item.short rfl]
  | .more item _ later => by
    obtain ⟨⟨_, _⟩, found, parts⟩ := Outcome.map_ok.mp same
    cases parts
    simp [Datum.anyTooLong, item.short rfl, later.short found]

theorem EntriesCome.short {seen : List (Datum × Datum)} {s : List Char}
    {r : Except Nat (List (Datum × Datum) × List Char)} {entries : List (Datum × Datum)}
    {left : List Char} (before : Datum.anyEntryTooLong seen = false) (same : r = .ok (entries, left)) :
    EntriesCome look seen s r → Datum.anyEntryTooLong entries = false
  | .stops .. => nomatch same
  | .last _ _ item _ => by
    cases same
    exact anyEntryTooLong_putEntry (isTooLong_ofPoints _) (item.short rfl) before
  | .more _ _ item _ later =>
    later.short (anyEntryTooLong_putEntry (isTooLong_ofPoints _) (item.short rfl) before) same

end

theorem isTooLong_of_readText {t : Text} {d : Datum} (done : readText t = .ok d) :
    d.isTooLong = false := by
  obtain ⟨_, comes⟩ := readText_ok done
  exact comes.short rfl

end Shown

end Rehearsal.Json
