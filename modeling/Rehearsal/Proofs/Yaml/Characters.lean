import Mathlib
import Rehearsal.Proofs.Bytes.HexRoundTrip
import Rehearsal.Proofs.Reference.Grammar
import Rehearsal.Yaml.Token

open Std.Do

namespace Rehearsal.Yaml

set_option mvcgen.warning false

inductive TextFault (text : List Char) : ValueFault → Prop
  | point {before digits after : List Char} (split : text = before ++ '\\' :: 'U' :: (digits ++ after))
      (width : digits.length = 8) (hex : ∀ c ∈ digits, (Hex.value? c).isSome = true)
      (beyond : 0x10FFFF < Decimal.value 16 digits) :
      TextFault text (.badPoint (0x7FFFFFFF < Decimal.value 16 digits))
  | version {before digits after : List Char} (split : text = before ++ (digits ++ after))
      (all : ∀ c ∈ digits, Decimal.isDigit c = true) (long : Decimal.maxDigits < digits.length) :
      TextFault text (.tooManyDigits digits.length)

/-- The problems that a text can be blamed for. -/
def Blamed (text : List Char) : Problem → Prop
  | .malformed => True
  | .value f => TextFault text f

def Cursor.Within (text : List Char) (c : Cursor) : Prop := c.rest <:+ text

-- In place of the library's rule for exceptions, which leaves a universe open here.
theorem throw_spec {σ α : Type} (p : Problem) (Q : PostCond α (.arg σ (.except Problem .pure))) :
    ⦃fun _ => Q.2.1 p⦄ (throw p : StateT σ (Except Problem) α) ⦃Q⦄ :=
  fun _ h => h

theorem ends_of_triple {σ α : Type} {x : StateT σ (Except Problem) α} {s : σ} {P : σ → Prop}
    {Q : α → σ → Prop} {E : Problem → Prop}
    (triple : ⦃fun s => ⌜P s⌝⦄ x ⦃post⟨fun a s => ⌜Q a s⌝, fun p => ⌜E p⌝⟩⦄) (holds : P s) :
    match x.run s with
    | .ok (a, s') => Q a s'
    | .error p => E p :=
  Except.of_wp_eq rfl
    (fun r => match r with
      | .ok (a, s') => Q a s'
      | .error p => E p)
    fun _ => triple s holds

namespace Cursor

theorem rest_step (c : Cursor) : c.step.rest = c.rest.tail := by
  unfold step
  split
  · rename_i none
    rw [none]
    rfl
  · rename_i found
    rw [found]
    split
    · rfl
    · split <;> rfl

theorem rest_skip (n : Nat) (c : Cursor) : (skip n c).rest = c.rest.drop n := by
  induction n generalizing c with
  | zero => rfl
  | succ n ih => rw [skip, ih, rest_step, List.drop_tail]

theorem Within.skip {text : List Char} {c : Cursor} (within : c.Within text) (n : Nat) :
    (skip n c).Within text := by
  rw [Within, rest_skip]
  exact (List.drop_suffix n c.rest).trans within

theorem rest_of_ahead {c : Cursor} {x : Char} (ahead : c.ahead 0 = x) (present : x ≠ '\x00') :
    c.rest = x :: (skip 1 c).rest := by
  rw [rest_skip]
  cases rest : c.rest with
  | nil => simp [Cursor.ahead, rest, present.symm] at ahead
  | cons y left =>
    obtain rfl : y = x := by simpa [Cursor.ahead, rest] using ahead
    rfl

end Cursor

theorem digitValue_codes : ∀ code < 0x67, ∀ n ∈ Hex.value? (Char.ofNat code),
    Decimal.digitValue (Char.ofNat code) = n ∧ n < 16 := by decide +kernel

theorem digitValue_of_hex {c : Char} {n : Nat} (hex : Hex.value? c = some n) :
    Decimal.digitValue c = n ∧ n < 16 := by
  have digit := digitValue_codes c.toNat (Hex.code_of_value hex) n
  rw [Char.ofNat_toNat] at digit
  exact digit hex

variable {text : List Char} {α : Type}

abbrev Inside (text : List Char) : Assertion (.arg Cursor (.except Problem .pure)) :=
  fun c => ⌜c.Within text⌝

abbrev Stays (α : Type) (text : List Char) : PostCond α (.arg Cursor (.except Problem .pure)) :=
  post⟨fun _ c => ⌜c.Within text⌝, fun p => ⌜Blamed text p⌝⟩

@[spec]
theorem refuse_spec (Q : PostCond α (.arg Cursor (.except Problem .pure))) :
    ⦃fun _ => Q.2.1 .malformed⦄ (refuse : Reading α) ⦃Q⦄ :=
  throw_spec _ Q

namespace Reading

attribute [spec] peek

@[spec]
theorem skip_spec (n : Nat) : ⦃Inside text⦄ skip n ⦃Stays Unit text⦄ :=
  fun _ within => Cursor.Within.skip within n

@[spec]
theorem takeWhile_spec (p : Char → Bool) : ⦃Inside text⦄ takeWhile p ⦃Stays (List Char) text⦄ := by
  mvcgen [takeWhile]

@[spec]
theorem dropWhile_spec (p : Char → Bool) : ⦃Inside text⦄ dropWhile p ⦃Stays Unit text⦄ := by
  mvcgen [dropWhile]

@[spec]
theorem lineBreak_spec : ⦃Inside text⦄ lineBreak ⦃Stays (List Char) text⦄ := by
  mvcgen [lineBreak]

@[spec]
theorem restOfLine_spec : ⦃Inside text⦄ restOfLine ⦃Stays Unit text⦄ := by
  mvcgen [restOfLine]

@[spec]
theorem blanks_spec (fuel : Nat) : ⦃Inside text⦄ blanks fuel ⦃Stays Bool text⦄ := by
  induction fuel with
  | zero => mvcgen [blanks]
  | succ fuel ih => mvcgen [blanks, ih]

@[spec]
theorem name_spec : ⦃Inside text⦄ name ⦃Stays String text⦄ := by
  mvcgen [name]

@[spec]
theorem percent_spec : ⦃Inside text⦄ percent ⦃Stays UInt8 text⦄ := by
  mvcgen [percent]

@[spec]
theorem percents_spec (fuel : Nat) : ⦃Inside text⦄ percents fuel ⦃Stays Bytes text⦄ := by
  induction fuel with
  | zero => mvcgen [percents]
  | succ fuel ih => mvcgen [percents, ih]

@[spec]
theorem uriParts_spec (fuel : Nat) : ⦃Inside text⦄ uriParts fuel ⦃Stays (List Char) text⦄ := by
  induction fuel with
  | zero => mvcgen [uriParts]
  | succ fuel ih => mvcgen [uriParts, ih]

@[spec]
theorem uri_spec : ⦃Inside text⦄ uri ⦃Stays String text⦄ := by
  mvcgen [uri]

@[spec]
theorem handle_spec : ⦃Inside text⦄ handle ⦃Stays String text⦄ := by
  mvcgen [handle]

@[spec]
theorem quotedBreaks_spec (fuel : Nat) : ⦃Inside text⦄ quotedBreaks fuel ⦃Stays (List Char) text⦄ := by
  induction fuel with
  | zero => mvcgen [quotedBreaks]
  | succ fuel ih => mvcgen [quotedBreaks, ih]

@[spec]
theorem quotedBlanks_spec : ⦃Inside text⦄ quotedBlanks ⦃Stays (List Char) text⦄ := by
  mvcgen [quotedBlanks]

theorem wide_of_beyond {x : Char} {digits : List Char} {width : Nat} (names : escapeWidth? x = some width)
    (length : digits.length = width) (hex : ∀ c ∈ digits, (Hex.value? c).isSome = true)
    (beyond : 0x10FFFF < Decimal.value 16 digits) : x = 'U' ∧ width = 8 := by
  have less : Decimal.value 16 digits < 16 ^ digits.length := Decimal.value_lt fun c member =>
    have ⟨_, read⟩ := Option.isSome_iff_exists.mp (hex c member)
    have ⟨same, small⟩ := digitValue_of_hex read
    same ▸ small
  rw [length] at less
  unfold escapeWidth? at names
  split at names <;> cases names
  · omega
  · omega
  · exact ⟨rfl, rfl⟩

theorem codePoint_spec (text : List Char) (x : Char) (width : Nat) (names : escapeWidth? x = some width) :
    ⦃fun c => ⌜ '\\' :: x :: c.rest <:+ text⌝⦄ codePoint width ⦃Stays Nat text⦄ := by
  mvcgen [codePoint, throw_spec, -Spec.throw_MonadExcept]
  case vc2.isFalse.isTrue =>
    rename_i c behind digits _ named n _ beyond
    obtain ⟨enough, hex⟩ : width ≤ digits.length ∧ ∀ d ∈ digits, (Hex.value? d).isSome = true := by
      simpa [Option.isSome_iff_ne_none] using named
    have length : digits.length = width := Nat.le_antisymm (List.length_take_le ..) enough
    obtain ⟨rfl, rfl⟩ := wide_of_beyond names length hex beyond
    obtain ⟨before, whole⟩ := behind
    have split : text = before ++ '\\' :: 'U' :: (digits ++ c.rest.drop 8) := by
      rw [← whole, List.take_append_drop]
    exact .point split length hex beyond
  case vc3.isFalse.isFalse.pre =>
    rename_i behind _ _ _ _ _ _
    exact ((List.suffix_cons ..).trans (List.suffix_cons ..)).trans behind

-- From here to the quoted scalar `skip` is opened: which character it passes is what counts.
theorem escape_spec (text : List Char) :
    ⦃fun c => ⌜ '\\' :: c.rest <:+ text⌝⦄ escape ⦃Stays (List Nat) text⦄ := by
  have named := @codePoint_spec text
  mvcgen [escape, named, skip, -skip_spec]
  case vc1.h_1 c behind _ _ _ _ _ =>
    exact Cursor.Within.skip ((List.suffix_cons ..).trans behind) 1
  case vc4.h_2.pre c behind width names _ _ =>
    have present : c.ahead 0 ≠ '\x00' := by
      intro none
      rw [none] at names
      cases names
    rwa [← Cursor.rest_of_ahead rfl present]
  case vc5.h_3.isTrue.pre behind _ _ _ =>
    exact (List.suffix_cons ..).trans behind

@[spec]
theorem quoted_spec (double : Bool) (fuel : Nat) :
    ⦃Inside text⦄ quoted double fuel ⦃Stays (List Nat) text⦄ := by
  induction fuel with
  | zero => mvcgen [quoted]
  | succ fuel ih =>
    have escaping := escape_spec text
    mvcgen [quoted, ih, escaping, skip, -skip_spec]
    case vc4.succ.post.success.isFalse.isFalse.isTrue.pre =>
      rename_i c within _ _ _ slash _
      have ahead : c.ahead 0 = '\\' := by simpa using (Bool.and_eq_true_iff.mp slash).2
      rwa [← Cursor.rest_of_ahead ahead (by decide)]
    all_goals exact Cursor.Within.skip ‹_› _

@[spec]
theorem plainBreaks_spec (fuel : Nat) :
    ⦃Inside text⦄ plainBreaks fuel ⦃Stays (Option (List Char)) text⦄ := by
  induction fuel with
  | zero => mvcgen [plainBreaks]
  | succ fuel ih => mvcgen [plainBreaks, ih]

@[spec]
theorem plainBlanks_spec : ⦃Inside text⦄ plainBlanks ⦃Stays (Option (List Char) × Bool) text⦄ := by
  mvcgen [plainBlanks]

@[spec]
theorem plain_spec (inFlow : Bool) (indent : Int) (fuel : Nat) (blank : List Char) :
    ⦃Inside text⦄ plain inFlow indent fuel blank ⦃Stays (List Char × Bool) text⦄ := by
  induction fuel generalizing blank with
  | zero => mvcgen [plain]
  | succ fuel ih => mvcgen [plain, ih]

@[spec]
theorem increment_spec : ⦃Inside text⦄ increment? ⦃Stays (Option Nat) text⦄ := by
  mvcgen [increment?]

@[spec]
theorem blockHeader_spec : ⦃Inside text⦄ blockHeader ⦃Stays (Chomping × Option Nat) text⦄ := by
  mvcgen [blockHeader]

@[spec]
theorem leadingBreaks_spec (fuel reach : Nat) :
    ⦃Inside text⦄ leadingBreaks fuel reach ⦃Stays (List Char × Nat) text⦄ := by
  induction fuel generalizing reach with
  | zero => mvcgen [leadingBreaks]
  | succ fuel ih => mvcgen [leadingBreaks, ih]

@[spec]
theorem indentTo_spec (indent fuel : Nat) : ⦃Inside text⦄ indentTo indent fuel ⦃Stays Unit text⦄ := by
  induction fuel with
  | zero => mvcgen [indentTo]
  | succ fuel ih => mvcgen [indentTo, ih]

@[spec]
theorem innerBreaks_spec (indent fuel : Nat) :
    ⦃Inside text⦄ innerBreaks indent fuel ⦃Stays (List Char) text⦄ := by
  induction fuel with
  | zero => mvcgen [innerBreaks]
  | succ fuel ih => mvcgen [innerBreaks, ih]

@[spec]
theorem atBlockLine_spec (indent : Nat) : ⦃Inside text⦄ atBlockLine indent ⦃Stays Bool text⦄ := by
  mvcgen [atBlockLine]

@[spec]
theorem blockLines_spec (folding : Bool) (chomping : Chomping) (indent fuel : Nat) (before : List Char) :
    ⦃Inside text⦄ blockLines folding chomping indent fuel before ⦃Stays (List Char) text⦄ := by
  induction fuel generalizing before with
  | zero => mvcgen [blockLines]
  | succ fuel ih => mvcgen [blockLines, ih]

@[spec]
theorem block_spec (folding : Bool) (parent : Int) :
    ⦃Inside text⦄ block folding parent ⦃Stays (List Nat) text⦄ := by
  mvcgen [block]

end Reading

end Rehearsal.Yaml
