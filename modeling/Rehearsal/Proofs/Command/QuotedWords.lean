import Rehearsal.Proofs.Run.KnownFailures

namespace Rehearsal.Command

def isSafe (c : Char) : Bool := c.isAlphanum || "_@%+=:,./-".toList.contains c

def quotedChar (c : Char) : List Char := if c = '\'' then "'\"'\"'".toList else [c]

/-- A value as a word of a line. -/
def quoted (value : String) : List Char :=
  if value ≠ "" ∧ value.toList.all isSafe = true then value.toList
  else '\'' :: value.toList.flatMap quotedChar ++ ['\'']

structure IsGap (gap : List Char) : Prop where
  nonempty : gap ≠ []
  blank : ∀ c ∈ gap, isSeparator c = true

def stepFlags : List String := ["--step", "-s"]

def fileFlags : List String := ["--file", "-f"]

inductive Assigns : List (String × String) → List Char → Prop
  | done {blanks : List Char} (blank : ∀ c ∈ blanks, isSeparator c = true) : Assigns [] blanks
  | next {flag value : String} {lead gap s : List Char} {rest : List (String × String)}
      (known : flag ∈ stepFlags ++ fileFlags) (leads : IsGap lead) (parts : IsGap gap)
      (later : Assigns rest s) :
      Assigns ((flag, value) :: rest) (lead ++ flag.toList ++ (gap ++ quoted value ++ s))

def lastValue (spellings : List String) (pairs : List (String × String)) : Option String :=
  (pairs.filter fun pair => spellings.contains pair.1).getLast?.map Prod.snd

section Reading

variable {s rest gap : List Char} {word : Option (List Char)}

theorem isSafe_bare {c : Char} (safe : isSafe c = true) :
    c ≠ '\\' ∧ c ≠ '\'' ∧ c ≠ '"' ∧ isSeparator c = false := by
  have apart {d : Char} (special : isSafe d = false) : c ≠ d := by
    rintro rfl
    cases safe.symm.trans special
  have noSeparator : isSeparator c = false := by
    simp [isSeparator, apart (d := ' ') rfl, apart (d := '\t') rfl, apart (d := '\r') rfl,
      apart (d := '\n') rfl]
  exact ⟨apart rfl, apart rfl, apart rfl, noSeparator⟩

theorem wordsFrom_safe {c : Char} (safe : isSafe c = true) :
    wordsFrom .bare word (c :: rest) = wordsFrom .bare (some (word.getD [] ++ [c])) rest := by
  obtain ⟨noEscape, noSingle, noDouble, noSeparator⟩ := isSafe_bare safe
  rw [wordsFrom]
  · simp [noSingle, noDouble, noSeparator]
  · exact noEscape

theorem wordsFrom_bare (safe : s.all isSafe = true) (w : List Char) :
    wordsFrom .bare (some w) (s ++ rest) = wordsFrom .bare (some (w ++ s)) rest := by
  induction s generalizing w with
  | nil => simp
  | cons c s ih =>
    obtain ⟨first, others⟩ : isSafe c = true ∧ s.all isSafe = true := by simpa using safe
    rw [List.cons_append, wordsFrom_safe first, ih others]
    simp

/-- Between single quotes all is kept, up to the one that ends them. -/
theorem wordsFrom_single (s w : List Char) :
    wordsFrom .single (some w) (s.flatMap quotedChar ++ '\'' :: rest) =
      wordsFrom .bare (some (w ++ s)) rest := by
  induction s generalizing w with
  | nil => simp [wordsFrom]
  | cons c s ih =>
    have joined : w ++ c :: s = w ++ [c] ++ s := by simp
    rw [joined, ← ih, List.flatMap_cons, List.append_assoc]
    by_cases quote : c = '\''
    · subst quote
      rfl
    · have kept : quotedChar c = [c] := if_neg quote
      rw [kept, List.singleton_append]
      by_cases escape : c = '\\'
      · subst escape
        rfl
      · rw [wordsFrom]
        · simp [quote]
        · exact escape

theorem wordsFrom_quoted (value : String) :
    wordsFrom .bare none (quoted value ++ rest) = wordsFrom .bare (some value.toList) rest := by
  unfold quoted
  split
  · rename_i bare
    obtain ⟨filled, safe⟩ := bare
    cases chars : value.toList with
    | nil => exact absurd (String.toList_eq_nil_iff.mp chars) filled
    | cons c s =>
      rw [chars] at safe
      obtain ⟨first, others⟩ : isSafe c = true ∧ s.all isSafe = true := by simpa using safe
      rw [List.cons_append, wordsFrom_safe first, wordsFrom_bare others]
      rfl
  · have opened : wordsFrom .bare none ('\'' :: (value.toList.flatMap quotedChar ++ '\'' :: rest)) =
        wordsFrom .single (some []) (value.toList.flatMap quotedChar ++ '\'' :: rest) := rfl
    rw [List.append_assoc, List.cons_append, List.singleton_append, opened, wordsFrom_single]
    rfl

theorem wordsFrom_separator {c : Char} (blank : isSeparator c = true) :
    wordsFrom .bare word (c :: rest) = (wordsFrom .bare none rest).map (close word) := by
  have apart {d : Char} (solid : isSeparator d = false) : c ≠ d := by
    rintro rfl
    cases blank.symm.trans solid
  rw [wordsFrom]
  · simp [apart (d := '\'') rfl, apart (d := '"') rfl, blank]
  · exact apart rfl

theorem wordsFrom_blanks (blank : ∀ c ∈ gap, isSeparator c = true) :
    wordsFrom .bare none (gap ++ rest) = wordsFrom .bare none rest := by
  induction gap with
  | nil => rfl
  | cons c gap ih =>
    obtain ⟨first, others⟩ := List.forall_mem_cons.mp blank
    rw [List.cons_append, wordsFrom_separator first, ih others]
    cases wordsFrom .bare none rest <;> rfl

theorem wordsFrom_gap (isGap : IsGap gap) :
    wordsFrom .bare word (gap ++ rest) = (wordsFrom .bare none rest).map (close word) := by
  obtain ⟨c, gap, rfl⟩ := List.exists_cons_of_ne_nil isGap.nonempty
  obtain ⟨first, others⟩ := List.forall_mem_cons.mp isGap.blank
  rw [List.cons_append, wordsFrom_separator first, wordsFrom_blanks others]

def HoldsWords (s : List Char) (words : List String) : Prop :=
  ∀ word, wordsFrom .bare word s = .ok (close word words)

theorem holdsWords_blanks (blank : ∀ c ∈ gap, isSeparator c = true) : HoldsWords gap [] := by
  intro word
  cases gap with
  | nil => rfl
  | cons c gap =>
    obtain ⟨first, others⟩ := List.forall_mem_cons.mp blank
    rw [wordsFrom_separator first, ← List.append_nil gap, wordsFrom_blanks others]
    rfl

theorem HoldsWords.cons {words : List String} (later : HoldsWords s words) (isGap : IsGap gap)
    (value : String) : HoldsWords (gap ++ quoted value ++ s) (value :: words) := by
  intro word
  rw [List.append_assoc, wordsFrom_gap isGap, wordsFrom_quoted, later]
  simp [Except.map, close]

end Reading

theorem quoted_flag {flag : String} (known : flag ∈ stepFlags ++ fileFlags) :
    quoted flag = flag.toList := by
  have each : ∀ flag ∈ stepFlags ++ fileFlags, flag ≠ "" ∧ flag.toList.all isSafe = true := by decide
  rw [quoted, if_pos (each flag known)]

theorem Assigns.holdsWords {pairs : List (String × String)} {s : List Char} (assigns : Assigns pairs s) :
    HoldsWords s (pairs.flatMap fun pair => [pair.1, pair.2]) := by
  induction assigns with
  | done blank => exact holdsWords_blanks blank
  | @next flag value lead gap s rest known leads parts later ih =>
    have both := (ih.cons parts value).cons leads flag
    rw [quoted_flag known] at both
    exact both

theorem assigns_spaced {pairs : List (String × String)}
    (known : ∀ pair ∈ pairs, pair.1 ∈ stepFlags ++ fileFlags) :
    Assigns pairs (pairs.flatMap fun pair => ' ' :: pair.1.toList ++ (' ' :: quoted pair.2)) := by
  have space : IsGap [' '] := ⟨List.cons_ne_nil _ _, List.forall_mem_singleton.mpr (by decide)⟩
  induction pairs with
  | nil => exact .done (List.forall_mem_nil _)
  | cons pair rest ih =>
    obtain ⟨first, others⟩ := List.forall_mem_cons.mp known
    have line : Assigns ((pair.1, pair.2) :: rest) _ := .next first space space (ih others)
    simpa using line

theorem lastValue_cons (spellings : List String) (flag value : String) (rest : List (String × String)) :
    lastValue spellings ((flag, value) :: rest) =
      (lastValue spellings rest).or (if flag ∈ spellings then some value else none) := by
  unfold lastValue
  by_cases known : flag ∈ spellings
  · rw [List.filter_cons_of_pos (by simpa using known), List.getLast?_cons, if_pos known]
    cases (rest.filter fun pair => spellings.contains pair.1).getLast? <;> rfl
  · rw [List.filter_cons_of_neg (by simpa using known), if_neg known, Option.or_none]

theorem flags_pairs {pairs : List (String × String)}
    (known : ∀ pair ∈ pairs, pair.1 ∈ stepFlags ++ fileFlags) (source : Source) :
    flags source (pairs.flatMap fun pair => [pair.1, pair.2]) =
      .ok ⟨((lastValue stepFlags pairs).map Text.whole).or source.text,
        ((lastValue fileFlags pairs).map Text.whole).or source.file⟩ := by
  induction pairs generalizing source with
  | nil => rfl
  | cons pair rest ih =>
    obtain ⟨flag, value⟩ := pair
    obtain ⟨first, others⟩ := List.forall_mem_cons.mp known
    have isFlag : flag = "--step" ∨ flag = "-s" ∨ flag = "--file" ∨ flag = "-f" := by
      simpa [stepFlags, fileFlags] using first
    rw [lastValue_cons, lastValue_cons, List.flatMap_cons, List.cons_append, List.cons_append,
      List.nil_append, flags, ih others, ih others]
    rcases isFlag with rfl | rfl | rfl | rfl
    all_goals
      simp only [stepFlags, fileFlags]
      cases lastValue ["--step", "-s"] rest <;> cases lastValue ["--file", "-f"] rest <;> simp

theorem Assigns.known {pairs : List (String × String)} {s : List Char} (assigns : Assigns pairs s) :
    ∀ pair ∈ pairs, pair.1 ∈ stepFlags ++ fileFlags := by
  induction assigns with
  | done => exact List.forall_mem_nil _
  | next known leads parts later ih => exact List.forall_mem_cons.mpr ⟨known, ih⟩

theorem words_run {s : List Char} {ws : List String} (holds : HoldsWords s ws) :
    words (String.ofList ("run".toList ++ s)) = .ok ("run" :: ws) := by
  have bare : quoted "run" = "run".toList := by decide
  rw [words, String.toList_ofList, ← bare, wordsFrom_quoted, holds]
  rfl

theorem read_run {s : List Char} {ws : List String} (holds : HoldsWords s ws) :
    read (String.ofList ("run".toList ++ s)) = flags {} ws := by
  have unbraced : ¬ (String.ofList ("run".toList ++ s)).startsWith "\x7b" = true := by
    have letters : "run".toList = ['r', 'u', 'n'] := by decide
    rw [String.startsWith_string_iff, String.toList_ofList, String.toList_ofList, letters]
    rintro ⟨rest, same⟩
    cases (List.cons.inj same).1
  rw [read, if_neg unbraced, words_run holds]
  rfl

/-- The word for running a step, with flags and quoted values behind it, is read as the last value of the
flag for a text and the last one of the flag for a file, whatever the values are. A line that begins with a
brace is a text by itself. Every line is read as something, or else refused as malformed. -/
theorem command_lines_decode_their_quoting :
    (∀ pairs : List (String × String), (∀ pair ∈ pairs, pair.1 ∈ stepFlags ++ fileFlags) →
      ∃ s, Assigns pairs s) ∧
    (∀ (pairs : List (String × String)) (s : List Char), Assigns pairs s →
      read (String.ofList ("run".toList ++ s)) =
        .ok ⟨(lastValue stepFlags pairs).map .whole, (lastValue fileFlags pairs).map .whole⟩) ∧
    (∀ line : String, line.toList.head? = some '\x7b' → read line = .ok { text := some line }) ∧
    ∀ line : String, (∃ source, read line = .ok source) ∨
      ∃ cause, read line = .error (.rejected ⟨cause, none⟩) ∧ cause.family = .malformedPlan := by
  refine ⟨fun pairs known => ⟨_, assigns_spaced known⟩, ?_, ?_, ?_⟩
  · intro pairs s assigns
    rw [read_run assigns.holdsWords, flags_pairs assigns.known]
    simp
  · intro line braced
    obtain ⟨rest, whole⟩ := List.head?_eq_some_iff.mp braced
    have opening : line.startsWith "\x7b" = true := by
      rw [String.startsWith_string_iff, whole]
      exact ⟨rest, rfl⟩
    rw [read, if_pos opening]
  · intro line
    cases result : read line with
    | ok source => exact .inl ⟨source, rfl⟩
    | error f =>
      obtain ⟨cause, rfl, family⟩ := read_fails result
      exact .inr ⟨cause, rfl, family⟩

def awkward : List (String × String) :=
  [("--step", "it's"), ("-f", "\\ \n"), ("-s", ""), ("--file", "a.b")]

theorem awkward_line_gives_last_values :
    let s := " --step 'it'\"'\"'s' -f '\\ \n' -s '' --file a.b".toList
    Assigns awkward s ∧ read (String.ofList ("run".toList ++ s)) = .ok ⟨some (.whole ""), some (.whole "a.b")⟩ ∧
      read "\x7b '" = .ok ⟨some (.whole "\x7b '"), none⟩ := by
  intro s
  have known : ∀ pair ∈ awkward, pair.1 ∈ stepFlags ++ fileFlags := by decide
  have assigns : Assigns awkward s := assigns_spaced known
  obtain ⟨_, decodes, braced, _⟩ := command_lines_decode_their_quoting
  exact ⟨assigns, decodes awkward s assigns, braced "\x7b '" rfl⟩

end Rehearsal.Command
