import Rehearsal.Text.Quoted

namespace Rehearsal

namespace Text

def isPlain (c : Char) : Bool := 0 < c.toNat && c.toNat < 0x80 && c != '\\'

theorem isPlain_bounds {c : Char} (plain : isPlain c = true) : 0 < c.toNat ∧ c.toNat < 0x80 := by
  simp only [isPlain, Bool.and_eq_true, decide_eq_true_eq] at plain
  exact plain.1

end Text

namespace Utf8

theorem encodeChar_ascii {c : Char} (ascii : c.toNat < 0x80) :
    encodeChar c = [UInt8.ofNat c.toNat] := by
  simp [encodeChar, ascii]

theorem encode_ascii {s : String} (ascii : ∀ c ∈ s.toList, c.toNat < 0x80) :
    encode s = s.toList.map fun c => UInt8.ofNat c.toNat := by
  have single : ∀ c ∈ s.toList, encodeChar c = [UInt8.ofNat c.toNat] := by
    intro c member
    exact encodeChar_ascii (ascii c member)
  rw [encode, List.flatMap_def, List.map_congr_left single, ← List.flatMap_def, ← List.map_eq_flatMap]

theorem chars_encode {s : String} (ascii : ∀ c ∈ s.toList, c.toNat < 0x80) :
    (encode s).map (fun b => Char.ofNat b.toNat) = s.toList := by
  rw [encode_ascii ascii, List.map_map]
  apply (List.map_congr_left _).trans s.toList.map_id
  intro c member
  have small := ascii c member
  have byte : (UInt8.ofNat c.toNat).toNat = c.toNat := by
    rw [UInt8.toNat_ofNat']
    omega
  simp only [Function.comp_apply, byte, Char.ofNat_toNat, id]

theorem item_ascii {lead : UInt8} (ascii : lead.toNat < 0x80) (rest : Bytes) :
    item lead rest = .char (Char.ofNat lead.toNat) 0 := by
  simp [item, ascii]

theorem toNat_ofNat_of_lt {n : Nat} (ascii : n < 0x80) : (Char.ofNat n).toNat = n := by
  have valid : n.isValidChar := .inl (by omega)
  rw [Char.ofNat, dif_pos valid]
  rfl

theorem encode_chars {bytes : Bytes} (ascii : ∀ b ∈ bytes, b.toNat < 0x80) :
    encode (String.ofList (bytes.map fun b => Char.ofNat b.toNat)) = bytes := by
  have code (b : UInt8) (member : b ∈ bytes) : (Char.ofNat b.toNat).toNat = b.toNat :=
    toNat_ofNat_of_lt (ascii b member)
  rw [encode_ascii, String.toList_ofList, List.map_map]
  · apply (List.map_congr_left _).trans bytes.map_id
    intro b member
    simp only [Function.comp_apply, code b member, UInt8.ofNat_toNat, id]
  · intro c member
    rw [String.toList_ofList] at member
    obtain ⟨b, among, rfl⟩ := List.mem_map.mp member
    rw [code b among]
    exact ascii b among

theorem toNat_ofNat_of_le {n : Nat} (wide : 0x80 ≤ n) :
    (Char.ofNat n).toNat = 0 ∨ 0x80 ≤ (Char.ofNat n).toNat := by
  by_cases valid : n.isValidChar
  · right
    rw [Char.ofNat, dif_pos valid]
    exact wide
  · left
    rw [Char.ofNat, dif_neg valid]
    rfl

theorem isTail_bounds {b : UInt8} (tail : isTail b = true) : 0x80 ≤ b.toNat ∧ b.toNat < 0xC0 := by
  simpa [isTail, UInt8.le_iff_toNat_le, UInt8.lt_iff_toNat_lt] using tail

theorem item_wide {lead : UInt8} (wide : 0x80 ≤ lead.toNat) {rest : Bytes} {c : Char} {more : Nat}
    (read : item lead rest = .char c more) : c.toNat = 0 ∨ 0x80 ≤ c.toNat := by
  have notAscii : ¬ lead.toNat < 0x80 := by omega
  unfold item at read
  simp only [notAscii, ↓reduceIte] at read
  repeat' split at read
  all_goals cases read
  all_goals apply toNat_ofNat_of_le
  · omega
  · rename_i b guarded _ d _ _
    simp only [Bool.or_eq_true, Bool.not_eq_true', Bool.and_eq_true, beq_iff_eq, decide_eq_true_eq,
      not_or, not_and, UInt8.lt_iff_toNat_lt, UInt8.reduceToNat, Bool.not_eq_false] at guarded
    have tail := isTail_bounds guarded.1.1
    have long := guarded.1.2
    change 0x80 ≤ (lead.toNat - 0xE0) * 0x1000 + b.toNat % 0x40 * 0x40 + d.toNat % 0x40
    omega
  · rename_i b guarded _ d _ _ e _ _
    simp only [Bool.or_eq_true, Bool.not_eq_true', Bool.and_eq_true, beq_iff_eq, decide_eq_true_eq,
      not_or, not_and, UInt8.lt_iff_toNat_lt, UInt8.reduceToNat, Bool.not_eq_false] at guarded
    have tail := isTail_bounds guarded.1.1
    have long := guarded.1.2
    change 0x80 ≤ (lead.toNat - 0xF0) * 0x40000 + b.toNat % 0x40 * 0x1000 + d.toNat % 0x40 * 0x40 +
      e.toNat % 0x40
    omega

end Utf8

namespace Text

theorem decodeEscaped_ascii {lead : UInt8} (ascii : lead.toNat < 0x80) (rest : Bytes) :
    decodeEscaped (lead :: rest) = Char.ofNat lead.toNat :: decodeEscaped rest := by
  simp only [decodeEscaped, Utf8.item_ascii ascii, List.drop_zero]

theorem decodeEscaped_wide {lead : UInt8} (wide : 0x80 ≤ lead.toNat) (rest : Bytes) :
    ∃ c cs, decodeEscaped (lead :: rest) = c :: cs ∧ isPlain c = false := by
  cases read : Utf8.item lead rest with
  | char c more =>
    refine ⟨c, decodeEscaped (rest.drop more), by simp only [decodeEscaped, read], ?_⟩
    have range := Utf8.item_wide wide read
    simp only [isPlain, Bool.and_eq_false_iff, decide_eq_false_iff_not]
    omega
  | bad more fault =>
    simp only [decodeEscaped, read, List.flatMap_cons, String.toList_append]
    exact ⟨'\\', _, rfl, by decide⟩

theorem decodeEscaped_encode {cs : List Char} (ascii : ∀ c ∈ cs, c.toNat < 0x80) (rest : Bytes) :
    decodeEscaped (Utf8.encode (String.ofList cs) ++ rest) = cs ++ decodeEscaped rest := by
  simp only [Utf8.encode, String.toList_ofList]
  induction cs with
  | nil => rfl
  | cons c later ih =>
    have small := ascii c List.mem_cons_self
    have byte : (UInt8.ofNat c.toNat).toNat = c.toNat := by
      rw [UInt8.toNat_ofNat']
      omega
    rw [List.flatMap_cons, Utf8.encodeChar_ascii small, List.cons_append, List.nil_append,
      List.cons_append, decodeEscaped_ascii (by omega), byte, Char.ofNat_toNat,
      ih fun d member => ascii d (List.mem_cons_of_mem c member), List.cons_append]

/-- Bytes that read as plain text are those that it is written with. -/
theorem decodeEscaped_eq_plain {bytes : Bytes} {cs : List Char} (plain : ∀ c ∈ cs, isPlain c = true)
    (read : decodeEscaped bytes = cs) : bytes = Utf8.encode (String.ofList cs) := by
  simp only [Utf8.encode, String.toList_ofList]
  induction bytes generalizing cs with
  | nil =>
    subst read
    simp [decodeEscaped]
  | cons lead rest ih =>
    by_cases ascii : lead.toNat < 0x80
    · rw [decodeEscaped_ascii ascii] at read
      subst read
      have later := ih (fun c member => plain c (List.mem_cons_of_mem _ member)) rfl
      have value := Utf8.toNat_ofNat_of_lt ascii
      rw [List.flatMap_cons, Utf8.encodeChar_ascii (by omega), value, UInt8.ofNat_toNat,
        List.singleton_append, ← later]
    · obtain ⟨c, later, head, escaped⟩ := decodeEscaped_wide (Nat.le_of_not_lt ascii) rest
      have shown := plain c (by rw [← read, head]; exact List.mem_cons_self)
      rw [escaped] at shown
      cases shown

end Text

end Rehearsal
