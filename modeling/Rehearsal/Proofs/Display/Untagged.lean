import Mathlib.Data.List.TakeWhile
import Rehearsal.Proofs.Display.MarkupText

namespace Rehearsal.Display

def Colour.Harmless {α : Type} (x : Except Fault α) : Prop := (∃ a, x = .ok a) ∨ x = .error .unknown

theorem Colour.Harmless.bind {α β : Type} {x : Except Fault α} {next : α → Except Fault β} (first : Harmless x)
    (second : ∀ a, Harmless (next a)) : Harmless (x >>= next) := by
  rcases first with ⟨a, rfl⟩ | rfl
  · exact second a
  · exact .inr rfl

namespace Style

open Colour (Harmless)

def isSimple (word : String) : Bool := Text.small word == word && !word.toList.contains '('

theorem small_simple {word : String} (simple : isSimple word = true) : Text.small word = word :=
  beq_iff_eq.mp (Bool.and_eq_true_iff.mp simple).1

theorem read_simple {word : String} (simple : isSimple word = true) : Harmless (Colour.read word) := by
  have bare : '(' ∉ word.toList := by
    have without := (Bool.and_eq_true_iff.mp simple).2
    simpa using without
  have unshared : Colour.within? "rgb(" word.toList = none := by
    refine if_neg fun shares => bare ?_
    rw [Bool.and_eq_true, List.isPrefixOf_iff_prefix] at shares
    exact shares.1.subset (by decide)
  unfold Colour.read
  simp only [small_simple simple, unshared]
  split
  · exact .inl ⟨_, rfl⟩
  · split
    · exact .inl ⟨_, rfl⟩
    · exact .inr rfl

theorem readWords_simple (s : Style) {ws : List String} (simple : ∀ word ∈ ws, isSimple word = true) :
    Harmless (readWords s ws) := by
  fun_induction readWords s ws with
  | case1 s => exact .inl ⟨s, rfl⟩
  | case2 s word behind rest _ ih =>
    obtain ⟨_, behind⟩ := List.forall_mem_cons.mp simple
    obtain ⟨colour, others⟩ := List.forall_mem_cons.mp behind
    exact (read_simple colour).bind fun name => ih name others
  | case3 s word behind rest _ name _ ih =>
    obtain ⟨_, behind⟩ := List.forall_mem_cons.mp simple
    exact ih (List.forall_mem_cons.mp behind).2
  | case4 => exact .inr rfl
  | case5 s word url rest _ ih =>
    obtain ⟨_, behind⟩ := List.forall_mem_cons.mp simple
    exact ih (List.forall_mem_cons.mp behind).2
  | case6 s word rest _ _ _ name _ ih => exact ih (List.forall_mem_cons.mp simple).2
  | case7 s word rest _ _ _ _ ih =>
    obtain ⟨colour, others⟩ := List.forall_mem_cons.mp simple
    rw [small_simple colour]
    exact (read_simple colour).bind fun name => ih name others

theorem tagName_simple {style : String} (simple : ∀ word ∈ words style, isSimple word = true) :
    ∃ name, tagName style = .ok name := by
  have whole : Harmless (read style) := by
    unfold read
    split
    · exact .inl ⟨_, rfl⟩
    · exact readWords_simple {} simple
  rcases whole with ⟨t, done⟩ | unknown
  · exact ⟨_, by rw [tagName, done]⟩
  · exact ⟨_, by rw [tagName, unknown]⟩

end Style

namespace Markup

def holdsTag : List Char → Bool
  | [] => false
  | c :: rest => (c == '[' && (tag? rest).isSome) || holdsTag rest

structure IsTag (style : String) : Prop where
  opens : style.toList.head?.any (fun c => startsTag c && c != '/') = true
  plain : ∀ c ∈ style.toList, c ≠ '[' ∧ c ≠ ']' ∧ c ≠ '='
  trimmed : Text.trimmed style = style
  simple : ∀ word ∈ Style.words style, Style.isSimple word = true

variable {style : String} {content cs rest : List Char} {tags : List Tag} {parts : List Part}
  {ends : Except Fault Shown → Prop}

theorem tagBody?_cons {c : Char} (noOpening : c ≠ '[') (noClosing : c ≠ ']') (s : List Char) :
    tagBody? (c :: s) = (tagBody? s).map fun (content, rest) => (c :: content, rest) := by
  rw [tagBody?]
  · exact noOpening
  · exact noClosing

theorem tagBody?_plain (plain : ∀ c ∈ content, c ≠ '[' ∧ c ≠ ']') (rest : List Char) :
    tagBody? (content ++ ']' :: rest) = some (content, rest) := by
  induction content with
  | nil => rfl
  | cons c content ih =>
    obtain ⟨⟨noOpening, noClosing⟩, others⟩ := List.forall_mem_cons.mp plain
    rw [List.cons_append, tagBody?_cons noOpening noClosing, ih others]
    rfl

/-- What may stand behind a text so that no bracket in the text becomes a tag. -/
def Bounds (rest : List Char) : Prop := rest = [] ∨ ∃ more, rest = '[' :: more

theorem tagBody?_append (untagged : tagBody? cs = none) (bounds : Bounds rest) :
    tagBody? (cs ++ rest) = none := by
  induction cs with
  | nil => rcases bounds with rfl | ⟨more, rfl⟩ <;> rfl
  | cons c cs ih =>
    by_cases opening : c = '['
    · subst opening
      rfl
    · by_cases closing : c = ']'
      · subst closing
        cases untagged
      · rw [tagBody?_cons opening closing, Option.map_eq_none_iff] at untagged
        rw [List.cons_append, tagBody?_cons opening closing, ih untagged]
        rfl

theorem tag?_append (untagged : tag? cs = none) (bounds : Bounds rest) : tag? (cs ++ rest) = none := by
  cases cs with
  | nil => rcases bounds with rfl | ⟨more, rfl⟩ <;> rfl
  | cons c cs =>
    rw [tag?] at untagged
    rw [List.cons_append, tag?]
    split at untagged
    · rename_i starts
      rw [if_pos starts, tagBody?_append (Option.map_eq_none_iff.mp untagged) bounds]
      rfl
    · rename_i other
      rw [if_neg other]

def Bare (tags : List Tag) : Prop := ∀ tag ∈ tags, tag.setting = none

/-- Parts of which, while certain tags are open, something comes that ends well. -/
def Leads (ends : Except Fault Shown → Prop) (tags : List Tag) (parts : List Part) : Prop :=
  ∀ s : Shown, s.opened.map Prod.fst = tags → ends (show? s parts)

def EndsBare (x : Except Fault Shown) : Prop := ∃ t, x = .ok t ∧ Bare (t.opened.map Prod.fst)

abbrev Runs : List Tag → List Part → Prop := Leads EndsBare

theorem runs_nil (bare : Bare tags) : Runs tags [] := fun s same => ⟨s, rfl, same ▸ bare⟩

theorem Leads.behind (leads : Leads ends tags parts) (t : List Char) : Leads ends tags (.text t :: parts) :=
  fun s same => leads { s with text := { s.text with chars := s.text.chars ++ Part.seen (.text t) } } same

theorem ofContent_plain (plain : ∀ c ∈ content, c ≠ '=') :
    Tag.ofContent content = { name := String.ofList content } := by
  have all : content.takeWhile (· != '=') = content :=
    List.takeWhile_eq_self_iff.mpr fun c member => bne_iff_ne.mpr (plain c member)
  have none : content.dropWhile (· != '=') = [] :=
    List.dropWhile_eq_nil_iff.mpr fun c member => by simpa using plain c member
  rw [Tag.ofContent, all, none]
  rfl

theorem IsTag.unbracketed (isTag : IsTag style) : ∀ c ∈ style.toList, c ≠ '[' ∧ c ≠ ']' :=
  fun c member => ⟨(isTag.plain c member).1, (isTag.plain c member).2.1⟩

theorem IsTag.opening (isTag : IsTag style) (rest : List Char) :
    tag? (style.toList ++ ']' :: rest) = some (style.toList, rest) := by
  have opens := isTag.opens
  have plain := isTag.unbracketed
  cases whole : style.toList with
  | nil =>
    rw [whole] at opens
    cases opens
  | cons c more =>
    rw [whole] at opens plain
    have starts : startsTag c = true := (Bool.and_eq_true_iff.mp opens).1
    rw [List.cons_append, tag?, if_pos starts, tagBody?_plain (List.forall_mem_cons.mp plain).2]
    rfl

theorem IsTag.named (isTag : IsTag style) : ∃ name, Style.tagName style = .ok name :=
  Style.tagName_simple isTag.simple

theorem Leads.opens {name : String} (isTag : IsTag style) (named : Style.tagName style = .ok name)
    (leads : Leads ends ({ name } :: tags) parts) (position : Nat) :
    Leads ends tags (.tag style.toList position :: parts) := by
  intro s same
  have content : Tag.ofContent style.toList = { name := style } := by
    rw [ofContent_plain fun c member => (isTag.plain c member).2.2, String.ofList_toList]
  have unslashed : ¬ style.startsWith "/" = true := by
    rw [String.startsWith_string_iff]
    rintro ⟨more, whole⟩
    have opens := isTag.opens
    rw [← whole] at opens
    cases opens
  have followed : s.follow style.toList position =
      .ok { s with opened := ({ name }, s.position) :: s.opened } := by
    unfold Shown.follow
    simp only [content, named]
    rw [if_neg unslashed]
    rfl
  rw [show?, followed]
  exact leads { s with opened := ({ name }, s.position) :: s.opened } (by simp [same])

theorem IsTag.follow_closing {name : String} (isTag : IsTag style) (named : Style.tagName style = .ok name)
    (s : Shown) (position : Nat) :
    s.follow ('/' :: style.toList) position = match Shown.close? name s.opened with
      | none => .error (.notOpen (String.ofList ('/' :: style.toList)) position)
      | some ((tag, start), rest) => Shown.finish { s with opened := rest } tag start := by
  have content : Tag.ofContent ('/' :: style.toList) = { name := String.ofList ('/' :: style.toList) } := by
    refine ofContent_plain (List.forall_mem_cons.mpr ⟨by decide, fun c member => ?_⟩)
    exact (isTag.plain c member).2.2
  have slashed : (String.ofList ('/' :: style.toList)).startsWith "/" = true := by
    rw [String.startsWith_string_iff, String.toList_ofList, String.toList_ofList]
    exact List.prefix_append ['/'] style.toList
  have closed : Text.trimmed (String.ofList ((String.ofList ('/' :: style.toList)).toList.drop 1)) = style := by
    rw [String.toList_ofList, List.drop_one, List.tail_cons, String.ofList_toList, isTag.trimmed]
  have filled : ¬ style.isEmpty = true := by
    intro empty
    have opens := isTag.opens
    rw [String.isEmpty_iff.mp empty] at opens
    cases opens
  unfold Shown.follow
  simp only [content, closed, named]
  rw [if_pos slashed, if_neg filled]
  rfl

theorem Leads.closes {name : String} (isTag : IsTag style) (named : Style.tagName style = .ok name)
    (leads : Leads ends tags parts) (position : Nat) :
    Leads ends ({ name } :: tags) (.tag ('/' :: style.toList) position :: parts) := by
  intro s same
  obtain ⟨⟨tag, start⟩, opened, whole, rfl, rest⟩ := List.map_eq_cons_iff.mp same
  have found : Shown.close? name s.opened = some (({ name }, start), opened) := by
    rw [whole, Shown.close?]
    simp
  have followed : s.follow ('/' :: style.toList) position =
      .ok (Shown.styledFrom { s with opened } start) := by
    rw [isTag.follow_closing named, found]
    rfl
  rw [show?, followed]
  exact leads (Shown.styledFrom { s with opened } start) rest

/-- Markup that is shown without fault wherever no backslash stands before it, whichever tags are open. -/
def Safe (s : List Char) : Prop :=
  ∀ fuel position plain tags, Bare tags → Runs tags (partsFrom fuel position plain 0 s)

theorem safe_nil : Safe [] := by
  intro fuel position plain tags bare
  cases fuel <;> exact (runs_nil bare).behind _

theorem partsFrom_plain {c : Char} (fuel position : Nat) (plain : List Char) (slashes : Nat) (s : List Char)
    (noSlash : c ≠ '\\') (noTag : c = '[' → tag? s = none) :
    partsFrom (fuel + 1) position plain slashes (c :: s) =
      partsFrom fuel (position + 1) (c :: List.replicate slashes '\\' ++ plain) 0 s := by
  have none : (if (c == '[') = true then tag? s else none) = none := by
    split
    · rename_i opening
      exact noTag (beq_iff_eq.mp opening)
    · rfl
  rw [partsFrom, if_neg (by simpa using noSlash), none]

theorem partsFrom_tag {after : List Char} (fuel position : Nat) (plain : List Char) (slashes : Nat)
    (s : List Char) (tag : tag? s = some (content, after)) :
    partsFrom (fuel + 1) position plain slashes ('[' :: s) =
      .text plain.reverse :: .text (List.replicate (slashes / 2) '\\') ::
        (if slashes % 2 == 1 then .text ('[' :: content ++ [']']) else .tag content position) ::
          partsFrom fuel (position + content.length + 2) [] 0 after := by
  have opening : (if ('[' == '[') = true then tag? s else none) = some (content, after) := by
    rw [if_pos (beq_self_eq_true '['), tag]
  rw [partsFrom, if_neg (by decide), opening]

theorem Safe.behind_plain (safe : Safe rest) (plain : ∀ c ∈ cs, c ≠ '[' ∧ c ≠ '\\') : Safe (cs ++ rest) := by
  induction cs with
  | nil => exact safe
  | cons c cs ih =>
    obtain ⟨⟨noOpening, noSlash⟩, others⟩ := List.forall_mem_cons.mp plain
    intro fuel position before tags bare
    cases fuel with
    | zero => exact (runs_nil bare).behind _
    | succ fuel =>
      rw [List.cons_append, partsFrom_plain _ _ _ _ _ noSlash fun opening => absurd opening noOpening]
      exact ih others fuel _ _ tags bare

/-- A text without tags leads to what is behind it, with as many backslashes as it ends in. -/
theorem runs_untagged (bare : Bare tags) (untagged : holdsTag cs = false) (bounds : Bounds rest)
    (behind : ∀ fuel position plain slashes, Runs tags (partsFrom fuel position plain slashes rest))
    (fuel position : Nat) (plain : List Char) (slashes : Nat) :
    Runs tags (partsFrom fuel position plain slashes (cs ++ rest)) := by
  induction cs generalizing fuel position plain slashes with
  | nil => exact behind fuel position plain slashes
  | cons c cs ih =>
    obtain ⟨noTag, others⟩ := Bool.or_eq_false_iff.mp untagged
    cases fuel with
    | zero => exact (runs_nil bare).behind _
    | succ fuel =>
      by_cases slash : c = '\\'
      · subst slash
        exact ih others fuel (position + 1) plain (slashes + 1)
      · have single : c = '[' → tag? (cs ++ rest) = none := by
          rintro rfl
          refine tag?_append ?_ bounds
          simpa using noTag
        rw [List.cons_append, partsFrom_plain _ _ _ _ _ slash single]
        exact ih others fuel _ _ 0

theorem safe_untagged (untagged : holdsTag cs = false) : Safe cs := by
  intro fuel position plain tags bare
  have ending (fuel position : Nat) (plain : List Char) (slashes : Nat) :
      Runs tags (partsFrom fuel position plain slashes []) := by
    cases fuel <;> exact (runs_nil bare).behind _
  rw [← List.append_nil cs]
  exact runs_untagged bare untagged (.inl rfl) ending fuel position plain 0

theorem runs_closing {name : String} (isTag : IsTag style) (named : Style.tagName style = .ok name)
    (bare : Bare tags) (safe : Safe rest) (fuel position : Nat) (plain : List Char) (slashes : Nat) :
    Runs ({ name } :: tags)
      (partsFrom fuel position plain slashes ('[' :: '/' :: (style.toList ++ ']' :: rest))) := by
  have bareToo : Bare ({ name } :: tags) := List.forall_mem_cons.mpr ⟨rfl, bare⟩
  cases fuel with
  | zero => exact (runs_nil bareToo).behind _
  | succ fuel =>
    have closing : tag? ('/' :: (style.toList ++ ']' :: rest)) = some ('/' :: style.toList, rest) := by
      rw [tag?, if_pos (by decide), tagBody?_plain isTag.unbracketed]
      rfl
    rw [partsFrom_tag _ _ _ _ _ closing]
    split
    · exact (((safe fuel _ [] _ bareToo).behind _).behind _).behind _
    · exact ((((safe fuel _ [] _ bare).closes isTag named position).behind _).behind _)

theorem Safe.behind_styled (safe : Safe rest) (isTag : IsTag style) (untagged : holdsTag cs = false) :
    Safe ('[' :: (style.toList ++ ']' :: (cs ++ '[' :: '/' :: (style.toList ++ ']' :: rest)))) := by
  intro fuel position plain tags bare
  obtain ⟨name, named⟩ := isTag.named
  have bareToo : Bare ({ name } :: tags) := List.forall_mem_cons.mpr ⟨rfl, bare⟩
  cases fuel with
  | zero => exact (runs_nil bare).behind _
  | succ fuel =>
    have opening : tag? (style.toList ++ ']' :: (cs ++ '[' :: '/' :: (style.toList ++ ']' :: rest))) =
        some (style.toList, cs ++ '[' :: '/' :: (style.toList ++ ']' :: rest)) := isTag.opening _
    rw [partsFrom_tag _ _ _ _ _ opening]
    have inside := runs_untagged bareToo untagged (.inr ⟨_, rfl⟩) (runs_closing isTag named bare safe)
    exact (((inside fuel _ [] 0).opens isTag named position).behind _).behind _

theorem finishAll_bare {s : Shown} {opened : List (Tag × Nat)} (bare : Bare (opened.map Prod.fst)) :
    ∃ t, s.finishAll opened = .ok t := by
  induction opened generalizing s with
  | nil => exact ⟨s, rfl⟩
  | cons first opened ih =>
    obtain ⟨tag, start⟩ := first
    obtain ⟨unset, others⟩ := List.forall_mem_cons.mp bare
    have finished : s.finish tag start = .ok (s.styledFrom start) := by
      rw [Shown.finish, Tag.check, show tag.setting = none from unset]
      rfl
    obtain ⟨t, done⟩ := ih (s := s.styledFrom start) others
    refine ⟨t, ?_⟩
    rw [Shown.finishAll, finished]
    split <;> exact done

theorem text_of_safe {markup : String} (safe : Safe markup.toList) : ∃ s, Markup.text markup = .ok s := by
  obtain ⟨t, shown, bare⟩ := safe (markup.toList.length + 1) 0 [] [] (List.forall_mem_nil _) {} rfl
  obtain ⟨u, finished⟩ := finishAll_bare (s := t) bare
  have seen : show? {} (parts markup.toList) = .ok t := shown
  exact ⟨u.text, by simp only [Markup.text, seen, finished, bind, Except.bind, pure, Except.pure]⟩

def EndsFaulty (x : Except Fault Shown) : Prop := ∃ fault, x = .error fault

theorem Leads.closes_last {tag : Tag} (unset : tag.setting = none) (leads : Leads ends tags parts)
    (position : Nat) : Leads ends (tag :: tags) (.tag ['/'] position :: parts) := by
  intro s same
  obtain ⟨⟨_, start⟩, opened, whole, rfl, rest⟩ := List.map_eq_cons_iff.mp same
  have slashed : (Tag.ofContent ['/']).name.startsWith "/" = true := by decide +kernel
  have unnamed : (Text.trimmed (String.ofList ((Tag.ofContent ['/']).name.toList.drop 1))).isEmpty = true := by
    decide +kernel
  have followed : s.follow ['/'] position = .ok (Shown.styledFrom { s with opened } start) := by
    unfold Shown.follow
    simp only [slashed, unnamed, ↓reduceIte, whole]
    rw [Shown.finish, Tag.check, unset]
    rfl
  rw [show?, followed]
  exact leads (Shown.styledFrom { s with opened } start) rest

theorem IsTag.unopened (isTag : IsTag style) (position : Nat) (parts : List Part) :
    Leads EndsFaulty [] (.tag ('/' :: style.toList) position :: parts) := by
  intro s same
  obtain ⟨name, named⟩ := isTag.named
  refine ⟨.notOpen (String.ofList ('/' :: style.toList)) position, ?_⟩
  rw [show?, isTag.follow_closing named, List.map_eq_nil_iff.mp same]
  rfl

theorem text_of_faulty {markup : String} (faulty : Leads EndsFaulty [] (Markup.parts markup.toList)) :
    ∃ fault, Markup.text markup = .error fault := by
  obtain ⟨fault, fails⟩ := faulty {} rfl
  exact ⟨fault, by rw [Markup.text, fails]; rfl⟩

end Markup

end Rehearsal.Display
