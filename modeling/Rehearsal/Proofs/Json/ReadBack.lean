import Rehearsal.Proofs.Json.OneLine

namespace Rehearsal.Json

/-- What may stand behind a value: nothing, or what separates or closes. -/
inductive Behind : List Char → Prop
  | nothing : Behind []
  | comma (rest : List Char) : Behind (',' :: rest)
  | bracket (rest : List Char) : Behind (']' :: rest)
  | brace (rest : List Char) : Behind ('\x7d' :: rest)

section Number

theorem digitChar_ne_zero : ∀ n < 10, 0 < n → n.digitChar ≠ '0' := by decide

theorem toDigits_head {n : Nat} (positive : 0 < n) (rest : List Char) :
    Nat.toDigits 10 n ≠ '0' :: rest := by
  induction n using Nat.strongRecOn generalizing rest with
  | ind n ih =>
    rcases Nat.lt_or_ge n 10 with small | large
    · rw [Nat.toDigits_of_lt_base small]
      intro same
      exact digitChar_ne_zero n small positive (List.head_eq_of_cons_eq same)
    · rw [Nat.toDigits_of_base_le (by decide) large]
      intro same
      rcases List.append_eq_cons_iff.mp same with ⟨empty, _⟩ | ⟨more, front, _⟩
      · exact Nat.toDigits_ne_nil empty
      · exact ih (n / 10) (by omega) (by omega) more front

variable {rest : List Char}

theorem Behind.takeDigits (behind : Behind rest) {digits : List Char}
    (all : ∀ d ∈ digits, Decimal.isDigit d = true) : takeDigits (digits ++ rest) = (digits, rest) := by
  have stops : rest.takeWhile Decimal.isDigit = [] ∧ rest.dropWhile Decimal.isDigit = rest := by
    cases behind <;> exact ⟨rfl, rfl⟩
  rw [Json.takeDigits, List.takeWhile_append_of_pos all, List.dropWhile_append_of_pos all, stops.1,
    stops.2, List.append_nil]

theorem takeWhole_toDigits (behind : Behind rest) (n : Nat) :
    takeWhole? (Nat.toDigits 10 n ++ rest) = some (Nat.toDigits 10 n, rest) := by
  rcases Nat.eq_zero_or_pos n with rfl | positive
  · rfl
  · have digits := behind.takeDigits (Decimal.isDigit_of_mem_toDigits n)
    obtain ⟨d, more, written⟩ := List.exists_cons_of_ne_nil (Nat.toDigits_ne_nil (n := n) (b := 10))
    have nonzero : d ≠ '0' := by
      rintro rfl
      exact toDigits_head positive more written
    rw [written] at digits ⊢
    rw [List.cons_append] at digits ⊢
    rw [takeWhole?, digits]
    · intro _ same
      exact nonzero (List.head_eq_of_cons_eq same)

theorem readNumber_toDigits (behind : Behind rest) {n : Nat} (short : n < 10 ^ Decimal.maxDigits)
    (start : List Char) (negative : Bool) :
    readNumber start negative (Nat.toDigits 10 n ++ rest) =
      .ok (.int (if negative then -n else n), rest) := by
  have fits : (Nat.toDigits 10 n).length ≤ Decimal.maxDigits :=
    (Nat.length_toDigits_le_iff (by decide) (by decide)).mpr short
  have fraction : takeFraction rest = ([], rest) := by cases behind <;> rfl
  have exponent : takeExponent? rest = none := by cases behind <;> rfl
  rw [readNumber, takeWhole_toDigits behind]
  simp only [fraction, exponent, Decimal.value_toDigits]
  rw [if_neg (by omega)]

theorem readAtom_digit {c : Char} (digit : Decimal.isDigit c = true) (s : List Char) :
    readAtom (c :: s) = readNumber (c :: s) false (c :: s) := by
  have apart {w : Char} (letter : Decimal.isDigit w = false) : w ≠ c := by
    rintro rfl
    rw [digit] at letter
    cases letter
  have sign : c ≠ '-' := (apart rfl).symm
  rw [readAtom]
  · simp [afterWord?, apart, Decimal.isDigit]
  · intro _ same
    exact sign (List.head_eq_of_cons_eq same)

theorem readAtom_minus {d : Char} (digit : Decimal.isDigit d = true) (s : List Char) :
    readAtom ('-' :: d :: s) = readNumber ('-' :: d :: s) true (d :: s) := by
  have infinity : ('I' == d) = false := by
    rw [beq_eq_false_iff_ne]
    rintro rfl
    cases digit
  simp [readAtom, afterWord?, infinity]

end Number

def opens (c : Char) : Bool :=
  c == '"' || c == '[' || c == '\x7b' || c == '-' || Decimal.isDigit c

theorem skipBlanks_opens {c : Char} (opening : opens c = true) (rest : List Char) :
    skipBlanks (c :: rest) = c :: rest := by
  have solid : isBlank c = false := by
    rw [Bool.eq_false_iff]
    intro blank
    simp only [isBlank, Bool.or_eq_true, beq_iff_eq] at blank
    rcases blank with ((rfl | rfl) | rfl) | rfl <;> revert opening <;> decide
  rw [skipBlanks, List.dropWhile_cons, solid]
  rfl

theorem Behind.skipBlanks {rest : List Char} (behind : Behind rest) : skipBlanks rest = rest := by
  cases behind <;> rfl

theorem writeText_append (style : Style) (s : String) (rest : List Char) :
    writeText style s ++ rest = '"' :: (s.toList.flatMap (writeChar style) ++ '"' :: rest) := by
  simp [writeText]

section Reading

variable {fuel : Nat} {rest : List Char}

theorem readValue_text (style : Style) (s : String) :
    readValue front (fuel + 1) (writeText style s ++ rest) = .ok (.text s, rest) := by
  rw [writeText_append, readValue, readPoints_text]
  simp only [ofPoints_text]

theorem readValue_number (behind : Behind rest) {n : Nat} (short : n < 10 ^ Decimal.maxDigits) :
    readValue front (fuel + 1) (write .wire (.int n) ++ rest) = .ok (.int n, rest) := by
  obtain ⟨c, more, written⟩ := List.exists_cons_of_ne_nil (Nat.toDigits_ne_nil (n := n) (b := 10))
  have digit := Decimal.isDigit_of_mem_toDigits n c (written ▸ List.mem_cons_self)
  have read := readNumber_toDigits behind short (Nat.toDigits 10 n ++ rest) false
  rw [write_number]
  rw [written, List.cons_append] at read ⊢
  rw [readValue, readAtom_digit digit, read]
  · rfl
  all_goals
    intro _ same
    rw [List.head_eq_of_cons_eq same] at digit
    cases digit

theorem readValue_negative (behind : Behind rest) {n : Nat} (short : n + 1 < 10 ^ Decimal.maxDigits) :
    readValue front (fuel + 1) (write .wire (.int (.negSucc n)) ++ rest) = .ok (.int (.negSucc n), rest) := by
  obtain ⟨d, more, written⟩ := List.exists_cons_of_ne_nil (Nat.toDigits_ne_nil (n := n + 1) (b := 10))
  have digit := Decimal.isDigit_of_mem_toDigits (n + 1) d (written ▸ List.mem_cons_self)
  have read := readNumber_toDigits behind short ('-' :: (Nat.toDigits 10 (n + 1) ++ rest)) true
  rw [write_negative, List.cons_append]
  rw [written, List.cons_append] at read ⊢
  rw [readValue, readAtom_minus digit, read]
  · rfl
  all_goals
    intro _ same
    cases List.head_eq_of_cons_eq same

end Reading

/-- A datum whose wire form holds no controls and is read back in front of what may stand behind it. -/
structure ReadsBack (d : Datum) : Prop where
  opening : ∃ c more, write .wire d = c :: more ∧ opens c = true
  printed : Printed d
  reading : ∀ {fuel rest}, Behind rest → 2 * (write .wire d).length ≤ fuel →
    readValue front fuel (write .wire d ++ rest) = .ok (d, rest)

theorem ReadsBack.text (s : String) : ReadsBack (.text s) where
  opening := ⟨'"', _, rfl, rfl⟩
  printed := .text s
  reading {fuel rest} _ enough := by
    obtain ⟨fuel, rfl⟩ := Nat.exists_eq_succ_of_ne_zero (n := fuel) (by
      simp only [write, writeText, List.length_append, List.length_cons] at enough
      omega)
    exact readValue_text .wire s

theorem ReadsBack.number {n : Nat} (short : n < 10 ^ Decimal.maxDigits) : ReadsBack (.int n) := by
  obtain ⟨c, more, written⟩ := List.exists_cons_of_ne_nil (Nat.toDigits_ne_nil (n := n) (b := 10))
  have digit := Decimal.isDigit_of_mem_toDigits n c (written ▸ List.mem_cons_self)
  have length : (write .wire (.int n)).length = more.length + 1 := by
    rw [write_number, written, List.length_cons]
  refine ⟨⟨c, more, by rw [write_number, written], by simp [opens, digit]⟩, .int n, ?_⟩
  intro fuel rest behind enough
  obtain ⟨fuel, rfl⟩ := Nat.exists_eq_succ_of_ne_zero (n := fuel) (by omega)
  exact readValue_number behind short

theorem ReadsBack.int {i : Int} (short : i.natAbs < 10 ^ Decimal.maxDigits) : ReadsBack (.int i) := by
  cases i with
  | ofNat n => exact .number short
  | negSucc n =>
    refine ⟨⟨'-', _, write_negative n, rfl⟩, .int _, ?_⟩
    intro fuel rest behind enough
    rw [write_negative, List.length_cons] at enough
    obtain ⟨fuel, rfl⟩ := Nat.exists_eq_succ_of_ne_zero (n := fuel) (by omega)
    exact readValue_negative behind short

theorem joined_opens {part : List Char} (opening : ∃ c more, part = c :: more ∧ opens c = true)
    (separator : List Char) (parts : List (List Char)) :
    ∃ c more, joined separator (part :: parts) = c :: more ∧ opens c = true := by
  obtain ⟨c, more, rfl, opening⟩ := opening
  cases parts with
  | nil => exact ⟨c, more, rfl, opening⟩
  | cons next parts => exact ⟨c, _, rfl, opening⟩

section Items

variable {fuel : Nat} {s left rest : List Char} {d : Datum} {items : List Datum}

theorem readItems_last (reading : readValue front fuel s = .ok (d, ']' :: rest)) :
    readItems front (fuel + 1) s = .ok ([d], rest) := by
  rw [readItems, reading]
  rfl

theorem readItems_more (reading : readValue front fuel s = .ok (d, ',' :: left))
    (others : readItems front fuel (skipBlanks left) = .ok (items, rest)) :
    readItems front (fuel + 1) s = .ok (d :: items, rest) := by
  have comma : skipBlanks (',' :: left) = ',' :: left := rfl
  simp only [readItems, reading, comma, others]

theorem readValue_items {c : Char} (opening : opens c = true)
    (read : readItems front fuel (c :: s) = .ok (items, rest)) :
    readValue front (fuel + 1) ('[' :: c :: s) = .ok (.list items, rest) := by
  have filled : c ≠ ']' := by
    rintro rfl
    revert opening
    decide
  rw [readValue, skipBlanks_opens opening]
  split
  · rename_i same
    exact absurd (List.head_eq_of_cons_eq same) filled
  · rw [read]

theorem readItems_written (back : ∀ e ∈ d :: items, ReadsBack e)
    (enough : 2 * (joined [','] (writeAll .wire (d :: items))).length + 1 ≤ fuel) :
    readItems front fuel (joined [','] (writeAll .wire (d :: items)) ++ ']' :: rest) =
      .ok (d :: items, rest) := by
  induction items generalizing d fuel with
  | nil =>
    obtain ⟨fuel, rfl⟩ := Nat.exists_eq_succ_of_ne_zero (n := fuel) (by omega)
    simp only [writeAll, joined] at enough ⊢
    exact readItems_last ((back d List.mem_cons_self).reading (.bracket rest) (by omega))
  | cons next items ih =>
    obtain ⟨fuel, rfl⟩ := Nat.exists_eq_succ_of_ne_zero (n := fuel) (by omega)
    have split : joined [','] (writeAll .wire (d :: next :: items)) =
        write .wire d ++ ',' :: joined [','] (writeAll .wire (next :: items)) := by
      simp [writeAll, joined]
    simp only [split, List.length_append, List.length_cons, List.append_assoc,
      List.cons_append] at enough ⊢
    have others : readItems front fuel (joined [','] (writeAll .wire (next :: items)) ++ ']' :: rest) =
        .ok (next :: items, rest) := ih (fun e member => back e (.tail _ member)) (by omega)
    obtain ⟨c, more, written, opening⟩ :=
      joined_opens (back next (by simp)).opening [','] (writeAll .wire items)
    have solid : skipBlanks (joined [','] (writeAll .wire (next :: items)) ++ ']' :: rest) =
        joined [','] (writeAll .wire (next :: items)) ++ ']' :: rest := by
      rw [writeAll, written]
      exact skipBlanks_opens opening _
    refine readItems_more ((back d List.mem_cons_self).reading (.comma _) (by omega)) ?_
    rw [solid, others]

end Items

theorem ReadsBack.list {items : List Datum} (back : ∀ e ∈ items, ReadsBack e) :
    ReadsBack (.list items) := by
  refine ⟨⟨'[', _, rfl, rfl⟩, .list fun e member => (back e member).printed, ?_⟩
  intro fuel rest _ enough
  simp only [write, List.length_append, List.length_cons, List.cons_append, List.append_assoc,
    List.nil_append] at enough ⊢
  obtain ⟨fuel, rfl⟩ := Nat.exists_eq_succ_of_ne_zero (n := fuel) (by omega)
  cases items with
  | nil => rfl
  | cons d items =>
    have comma : Style.wire.comma.toList = [','] := rfl
    rw [comma] at enough ⊢
    have read : readItems front fuel (joined [','] (writeAll .wire (d :: items)) ++ ']' :: rest) =
        .ok (d :: items, rest) := readItems_written back (by omega)
    obtain ⟨c, more, written, opening⟩ :=
      joined_opens (back d (by simp)).opening [','] (writeAll .wire items)
    rw [writeAll, written] at read ⊢
    exact readValue_items opening read

theorem ReadsBack.solid {d : Datum} (back : ReadsBack d) (rest : List Char) :
    skipBlanks (write .wire d ++ rest) = write .wire d ++ rest := by
  obtain ⟨c, more, written, opening⟩ := back.opening
  rw [written]
  exact skipBlanks_opens opening _

def keyed (entries : List (String × Datum)) : List (Datum × Datum) :=
  entries.map fun e => (.text e.1, e.2)

theorem putEntry_fresh {seen : List (String × Datum)} {key : String} (fresh : key ∉ seen.map Prod.fst)
    (d : Datum) : Datum.putEntry (.text key) d (keyed seen) = keyed (seen ++ [(key, d)]) := by
  induction seen with
  | nil => rfl
  | cons entry seen ih =>
    simp only [List.map_cons, List.mem_cons, not_or] at fresh
    have other : Datum.isSameKey (.text entry.1) (.text key) = false := by
      simpa [Datum.isSameKey, Datum.keyNumber?] using Ne.symm fresh.1
    show (if Datum.isSameKey (.text entry.1) (.text key) then _
      else (Datum.text entry.1, entry.2) :: Datum.putEntry (.text key) d (keyed seen)) = _
    rw [other, ih fresh.2]
    rfl

structure Style.Spaced (style : Style) (gap : List Char) : Prop where
  comma : style.comma.toList = ',' :: gap
  colon : style.colon.toList = ':' :: gap
  blank : ∀ rest, skipBlanks (gap ++ rest) = skipBlanks rest

theorem Style.Spaced.wire : Style.wire.Spaced [] := ⟨rfl, rfl, fun _ => rfl⟩

theorem Style.Spaced.separates {style : Style} {gap : List Char} (spaced : style.Spaced gap) :
    style.comma.toList ≠ [] := by
  rw [spaced.comma]
  exact List.cons_ne_nil _ _

section Entries

variable {style : Style} {gap : List Char} {fuel need : Nat} {left rest : List Char} {key : String}
  {d : Datum} {seen entries : List (String × Datum)}

theorem readEntries_closing (style : Style) (fresh : key ∉ seen.map Prod.fst)
    (value : readValue front fuel (skipBlanks left) = .ok (d, '\x7d' :: rest)) :
    readEntries front (fuel + 1) (keyed seen) (writeText style key ++ ':' :: left) =
      .ok (keyed (seen ++ [(key, d)]), rest) := by
  have colon : skipBlanks (':' :: left) = ':' :: left := rfl
  rw [writeText_append, readEntries, readPoints_text]
  simp only [colon, value, ofPoints_text, putEntry_fresh fresh, (Behind.brace rest).skipBlanks]

theorem readEntries_comma (style : Style) (fresh : key ∉ seen.map Prod.fst)
    (value : readValue front fuel (skipBlanks left) = .ok (d, ',' :: rest)) :
    readEntries front (fuel + 1) (keyed seen) (writeText style key ++ ':' :: left) =
      readEntries front fuel (keyed (seen ++ [(key, d)])) (skipBlanks rest) := by
  have colon : skipBlanks (':' :: left) = ':' :: left := rfl
  rw [writeText_append, readEntries, readPoints_text]
  simp only [colon, value, ofPoints_text, putEntry_fresh fresh, (Behind.comma rest).skipBlanks]

theorem key_fresh (different : ((seen ++ (key, d) :: entries).map Prod.fst).Nodup) :
    key ∉ seen.map Prod.fst := by
  rw [List.map_append, List.nodup_append] at different
  exact fun member => different.2.2 key member key List.mem_cons_self rfl

theorem writeEntries_keyed (style : Style) (entries : List (String × Datum)) :
    writeEntries style (keyed entries) =
      entries.map fun e => writeText style e.1 ++ style.colon.toList ++ write style e.2 := by
  induction entries with
  | nil => rfl
  | cons e entries ih => exact congrArg (_ :: ·) ih

theorem keyed_opens (style : Style) (e : String × Datum) (entries : List (String × Datum)) :
    ∃ c more, joined style.comma.toList (writeEntries style (keyed (e :: entries))) = c :: more ∧
      opens c = true :=
  joined_opens ⟨'"', _, rfl, rfl⟩ style.comma.toList (writeEntries style (keyed entries))

def retold (back : Datum → Datum) (entries : List (String × Datum)) : List (String × Datum) :=
  entries.map fun e => (e.1, back e.2)

theorem retold_id (entries : List (String × Datum)) : retold id entries = entries := entries.map_id

variable {back : Datum → Datum}

/-- Entries are read one after another if the value of each is, with so much fuel. -/
theorem readEntries_written (spaced : style.Spaced gap)
    (reading : ∀ e ∈ (key, d) :: entries, ∀ {fuel rest}, Behind rest → need ≤ fuel →
      readValue front fuel (skipBlanks (write style e.2 ++ rest)) = .ok (back e.2, rest))
    (different : ((seen ++ (key, d) :: entries).map Prod.fst).Nodup)
    (enough : need + entries.length < fuel) :
    readEntries front fuel (keyed seen)
        (joined style.comma.toList (writeEntries style (keyed ((key, d) :: entries))) ++ '\x7d' :: rest) =
      .ok (keyed (seen ++ retold back ((key, d) :: entries)), rest) := by
  induction entries generalizing key d seen fuel with
  | nil =>
    obtain ⟨fuel, rfl⟩ := Nat.exists_eq_succ_of_ne_zero (n := fuel) (by omega)
    have alone : joined style.comma.toList (writeEntries style (keyed [(key, d)])) ++ '\x7d' :: rest =
        writeText style key ++ ':' :: (gap ++ (write style d ++ '\x7d' :: rest)) := by
      simp [keyed, writeEntries, joined, spaced.colon]
    rw [alone]
    refine readEntries_closing style (key_fresh different) ?_
    rw [spaced.blank]
    exact reading (key, d) List.mem_cons_self (.brace rest) (Nat.le_of_lt_succ enough)
  | cons next entries ih =>
    obtain ⟨name, value⟩ := next
    obtain ⟨fuel, rfl⟩ := Nat.exists_eq_succ_of_ne_zero (n := fuel) (by omega)
    rw [List.length_cons] at enough
    let others := joined style.comma.toList (writeEntries style (keyed ((name, value) :: entries)))
    have split : joined style.comma.toList
        (writeEntries style (keyed ((key, d) :: (name, value) :: entries))) ++ '\x7d' :: rest =
        writeText style key ++
          ':' :: (gap ++ (write style d ++ ',' :: (gap ++ (others ++ '\x7d' :: rest)))) := by
      simp [others, keyed, writeEntries, joined, spaced.colon, spaced.comma]
    have own : readValue front fuel (skipBlanks (gap ++ (write style d ++
        ',' :: (gap ++ (others ++ '\x7d' :: rest))))) =
        .ok (back d, ',' :: (gap ++ (others ++ '\x7d' :: rest))) := by
      rw [spaced.blank]
      exact reading (key, d) List.mem_cons_self (.comma _) (by omega)
    have solid : skipBlanks (gap ++ (others ++ '\x7d' :: rest)) = others ++ '\x7d' :: rest := by
      obtain ⟨c, more, written, opening⟩ : ∃ c more, others = c :: more ∧ opens c = true :=
        keyed_opens style (name, value) entries
      rw [spaced.blank, written]
      exact skipBlanks_opens opening _
    have distinct : (((seen ++ [(key, back d)]) ++ (name, value) :: entries).map Prod.fst).Nodup := by
      rw [List.append_assoc, List.map_append] at *
      exact different
    rw [split, readEntries_comma style (key_fresh different) own, solid,
      ih (fun e member => reading e (.tail _ member)) distinct (by omega), List.append_assoc]
    rfl

theorem readValue_entries {c : Char} {s : List Char} (opening : opens c = true)
    (read : readEntries front fuel [] (c :: s) = .ok (keyed entries, rest)) :
    readValue front (fuel + 1) ('\x7b' :: c :: s) = .ok (.map (keyed entries), rest) := by
  have filled : c ≠ '\x7d' := by
    rintro rfl
    revert opening
    decide
  rw [readValue, skipBlanks_opens opening]
  split
  · rename_i same
    exact absurd (List.head_eq_of_cons_eq same) filled
  · rw [read]

theorem readValue_keyed (spaced : style.Spaced gap)
    (reading : ∀ e ∈ entries, ∀ {fuel rest}, Behind rest → need ≤ fuel →
      readValue front fuel (skipBlanks (write style e.2 ++ rest)) = .ok (back e.2, rest))
    (different : (entries.map Prod.fst).Nodup) (enough : need + entries.length < fuel) :
    readValue front (fuel + 1) (write style (.map (keyed entries)) ++ rest) =
      .ok (.map (keyed (retold back entries)), rest) := by
  have braced : write style (.map (keyed entries)) ++ rest =
      '\x7b' :: (joined style.comma.toList (writeEntries style (keyed entries)) ++ '\x7d' :: rest) := by
    simp [write]
  rw [braced]
  cases entries with
  | nil => rfl
  | cons e entries =>
    obtain ⟨name, value⟩ := e
    rw [List.length_cons] at enough
    have read : readEntries front fuel (keyed []) _ =
        .ok (keyed (retold back ((name, value) :: entries)), rest) :=
      readEntries_written spaced reading different (Nat.lt_of_succ_lt enough)
    obtain ⟨c, more, written, opening⟩ := keyed_opens style (name, value) entries
    rw [written] at read ⊢
    exact readValue_entries opening read

theorem length_joined {separator : List Char} (separated : separator ≠ []) {parts : List (List Char)} :
    ∀ part ∈ parts, part.length + parts.length ≤ (joined separator parts).length + 1 := by
  have positive := List.length_pos_of_ne_nil separated
  induction parts using joined.induct with
  | case1 => exact List.forall_mem_nil _
  | case2 part => exact List.forall_mem_singleton.mpr (Nat.le_refl _)
  | case3 first rest more ih =>
    obtain ⟨next, rest, rfl⟩ := List.exists_cons_of_ne_nil more
    have behind := ih next List.mem_cons_self
    intro part among
    rw [joined, List.length_cons, List.length_append, List.length_append]
    · rcases List.mem_cons.mp among with rfl | later
      · omega
      · have longer := ih part later
        omega
    · exact more

theorem length_keyed (spaced : style.Spaced gap) {e : String × Datum} (member : e ∈ entries) :
    (write style e.2).length + entries.length + 3 ≤ (write style (.map (keyed entries))).length := by
  let parts := writeEntries style (keyed entries)
  let part := writeText style e.1 ++ style.colon.toList ++ write style e.2
  have each : parts = entries.map _ := writeEntries_keyed style entries
  have among : part ∈ parts := by
    rw [each]
    exact List.mem_map.mpr ⟨e, member, rfl⟩
  have count : parts.length = entries.length := by rw [each, List.length_map]
  have quoted : (write style e.2).length + 2 ≤ part.length := by
    simp only [part, writeText, List.length_append, List.length_cons, List.length_nil]
    omega
  have long := length_joined spaced.separates part among
  have whole : (write style (.map (keyed entries))).length =
      (joined style.comma.toList parts).length + 2 := by
    rw [write, List.length_append, List.length_cons, List.length_singleton]
  omega

theorem length_keyed_ge (spaced : style.Spaced gap) (entries : List (String × Datum)) :
    entries.length + 2 ≤ (write style (.map (keyed entries))).length := by
  cases entries with
  | nil => exact Nat.le_refl 2
  | cons e entries =>
    have long := length_keyed spaced (List.mem_cons_self (a := e) (l := entries))
    omega

end Entries

theorem ReadsBack.map {entries : List (String × Datum)} (different : (entries.map Prod.fst).Nodup)
    (back : ∀ e ∈ entries, ReadsBack e.2) : ReadsBack (.map (keyed entries)) := by
  have printed : Printed (.map (keyed entries)) := by
    apply Printed.map
    · intro e member
      obtain ⟨entry, _, rfl⟩ := List.mem_map.mp member
      exact ⟨entry.1, rfl⟩
    · intro e member
      obtain ⟨entry, listed, rfl⟩ := List.mem_map.mp member
      exact (back entry listed).printed
  refine ⟨⟨'\x7b', _, rfl, rfl⟩, printed, ?_⟩
  intro fuel rest _ enough
  have long := length_keyed_ge .wire entries
  obtain ⟨fuel, rfl⟩ := Nat.exists_eq_succ_of_ne_zero (n := fuel) (by omega)
  have reading : ∀ e ∈ entries, ∀ {more left}, Behind left → fuel - entries.length - 1 ≤ more →
      readValue front more (skipBlanks (write .wire e.2 ++ left)) = .ok (e.2, left) := by
    intro e member more left behind rich
    have fits := length_keyed .wire member
    rw [(back e member).solid]
    exact (back e member).reading behind (by omega)
  have whole : readValue front (fuel + 1) (write .wire (.map (keyed entries)) ++ rest) =
      .ok (.map (keyed (retold id entries)), rest) := readValue_keyed .wire reading different (by omega)
  rwa [retold_id] at whole

theorem read_of_readValue {style : Style} {d e : Datum}
    (opening : ∃ c more, write style d = c :: more ∧ opens c = true)
    (reading : readValue front (2 * (write style d).length + 2) (write style d) = .ok (e, [])) :
    read (render style d) = .ok e := by
  obtain ⟨c, more, written, opening⟩ := opening
  have unmarked : c ≠ '\ufeff' := by
    rintro rfl
    revert opening
    decide
  rw [written] at reading
  have chars : readChars front (c :: more) = .ok e := by
    rw [readChars]
    · rw [skipBlanks_opens opening, reading]
      rfl
    · intro _ same
      exact unmarked (List.head_eq_of_cons_eq same)
  rw [read, render, String.toList_ofList, written, chars]
  rfl

theorem ReadsBack.read_render {d : Datum} (back : ReadsBack d) : read (render .wire d) = .ok d := by
  have reading : readValue front (2 * (write .wire d).length + 2) (write .wire d ++ []) = .ok (d, []) :=
    back.reading .nothing (by omega)
  rw [List.append_nil] at reading
  exact read_of_readValue back.opening reading

end Rehearsal.Json
