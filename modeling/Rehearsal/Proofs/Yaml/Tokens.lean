import Mathlib
import Rehearsal.Proofs.Yaml.Characters

open Std.Do

namespace Rehearsal.Yaml

set_option mvcgen.warning false

namespace Lexing

variable {text : List Char} {α : Type}

abbrev Inside (text : List Char) : Assertion (.arg Lexer (.except Problem .pure)) :=
  fun l => ⌜l.cursor.Within text⌝

abbrev Stays (α : Type) (text : List Char) : PostCond α (.arg Lexer (.except Problem .pure)) :=
  post⟨fun _ l => ⌜l.cursor.Within text⌝, fun p => ⌜Blamed text p⌝⟩

@[spec]
theorem refuse_spec (Q : PostCond α (.arg Lexer (.except Problem .pure))) :
    ⦃fun _ => Q.2.1 .malformed⦄ (refuse : Lexing α) ⦃Q⦄ :=
  fun _ h => h

theorem read_spec {r : Reading α} (stays : ⦃Yaml.Inside text⦄ r ⦃Yaml.Stays α text⦄) :
    ⦃Inside text⦄ read r ⦃Stays α text⦄ := by
  intro l within
  have reads := stays l.cursor within
  unfold read
  mvcgen

attribute [spec] peek

@[spec]
theorem allowKey_spec (b : Bool) : ⦃Inside text⦄ allowKey b ⦃Stays Unit text⦄ := by
  mvcgen [allowKey]

@[spec]
theorem dropStale_spec : ⦃Inside text⦄ dropStale ⦃Stays Unit text⦄ := by
  mvcgen [dropStale]

@[spec]
theorem dropKey_spec : ⦃Inside text⦄ dropKey ⦃Stays Unit text⦄ := by
  mvcgen [dropKey]

@[spec]
theorem noteKey_spec : ⦃Inside text⦄ noteKey ⦃Stays Unit text⦄ := by
  mvcgen [noteKey]

@[spec]
theorem unindent_spec (column : Int) : ⦃Inside text⦄ unindent column ⦃Stays Unit text⦄ := by
  mvcgen [unindent]

@[spec]
theorem indentAt_spec (column : Nat) (t : Token) (place : Nat) :
    ⦃Inside text⦄ indentAt column t place ⦃Stays Unit text⦄ := by
  mvcgen [indentAt]

@[spec]
theorem streamEnd_spec : ⦃Inside text⦄ streamEnd ⦃Stays Unit text⦄ := by
  mvcgen [streamEnd]

theorem versionNumber_spec : ⦃Yaml.Inside text⦄ versionNumber ⦃Yaml.Stays Nat text⦄ := by
  -- the taking of the digits is opened, as the fault tells of them
  mvcgen [versionNumber, Reading.takeWhile, throw_spec, -Reading.takeWhile_spec, -Spec.throw_MonadExcept]
  rename_i c within taken _ _ _ digits _ same _ long
  obtain ⟨before, whole⟩ := within
  have split : text = before ++ (digits ++ c.rest.dropWhile Decimal.isDigit) := by
    rw [← same, List.takeWhile_append_dropWhile, whole]
  refine .version split (fun d member => ?_) long
  rw [← same] at member
  exact List.mem_takeWhile_imp member

@[spec]
theorem directiveLine_spec : ⦃Yaml.Inside text⦄ directiveLine ⦃Yaml.Stays Directive text⦄ := by
  mvcgen [directiveLine, versionNumber_spec]

@[spec]
theorem anchorName_spec : ⦃Yaml.Inside text⦄ anchorName ⦃Yaml.Stays String text⦄ := by
  mvcgen [anchorName]

@[spec]
theorem tagParts_spec : ⦃Yaml.Inside text⦄ tagParts ⦃Yaml.Stays (Option String × String) text⦄ := by
  mvcgen [tagParts]

@[spec]
theorem separator_spec (t : Token) : ⦃Inside text⦄ separator t ⦃Stays Unit text⦄ := by
  mvcgen [separator, read_spec]

@[spec]
theorem openFlow_spec (t : Token) : ⦃Inside text⦄ openFlow t ⦃Stays Unit text⦄ := by
  mvcgen [openFlow, read_spec]

@[spec]
theorem closeFlow_spec (t : Token) : ⦃Inside text⦄ closeFlow t ⦃Stays Unit text⦄ := by
  mvcgen [closeFlow, read_spec]

@[spec]
theorem flowEntry_spec : ⦃Inside text⦄ flowEntry ⦃Stays Unit text⦄ := by
  mvcgen [flowEntry, read_spec]

@[spec]
theorem openBlock_spec (t : Token) : ⦃Inside text⦄ openBlock t ⦃Stays Unit text⦄ := by
  mvcgen [openBlock]

@[spec]
theorem blockEntry_spec : ⦃Inside text⦄ blockEntry ⦃Stays Unit text⦄ := by
  mvcgen [blockEntry, read_spec]

@[spec]
theorem explicitKey_spec : ⦃Inside text⦄ explicitKey ⦃Stays Unit text⦄ := by
  mvcgen [explicitKey, read_spec]

@[spec]
theorem value_spec : ⦃Inside text⦄ value ⦃Stays Unit text⦄ := by
  mvcgen [value, read_spec]

theorem content_spec {t : Reading Token} (stays : ⦃Yaml.Inside text⦄ t ⦃Yaml.Stays Token text⦄) :
    ⦃Inside text⦄ content t ⦃Stays Unit text⦄ := by
  mvcgen [content, read_spec]

@[spec]
theorem blockScalar_spec (folding : Bool) : ⦃Inside text⦄ blockScalar folding ⦃Stays Unit text⦄ := by
  mvcgen [blockScalar, read_spec]

@[spec]
theorem quotedScalar_spec (double : Bool) : ⦃Inside text⦄ quotedScalar double ⦃Stays Unit text⦄ := by
  mvcgen [quotedScalar, content_spec]

@[spec]
theorem plainScalar_spec : ⦃Inside text⦄ plainScalar ⦃Stays Unit text⦄ := by
  mvcgen [plainScalar, read_spec]

theorem next_spec : ⦃Inside text⦄ next ⦃Stays Bool text⦄ := by
  -- The branches not taken pile up as hypotheses, which the search for contradictions is slow on.
  mvcgen -trivial [next, read_spec, content_spec]
  all_goals first
    | assumption
    | exact trivial

end Lexing

variable {text : List Char} {f : ValueFault}

theorem Lexer.run_stop {l : Lexer} {fuel : Nat} (within : l.cursor.Within text)
    (stops : (run fuel l).stop = some (.value f)) : TextFault text f := by
  induction fuel generalizing l with
  | zero => cases stops
  | succ fuel ih =>
    have stays := ends_of_triple Lexing.next_spec within
    rw [run] at stops
    split at stops
    · rename_i p next
      rw [next] at stays
      cases stops
      exact stays
    · cases stops
    · rename_i l next
      rw [next] at stays
      exact ih stays stops

theorem Tokens.ofText_stop (stops : (Tokens.ofText text).stop = some (.value f)) : TextFault text f := by
  unfold ofText at stops
  split at stops
  · have within : Cursor.Within text { rest := text, size := text.length } := List.suffix_refl text
    refine Lexer.run_stop ?_ stops
    dsimp only
    split
    · exact within.skip 1
    · exact within
  · cases stops

end Rehearsal.Yaml
