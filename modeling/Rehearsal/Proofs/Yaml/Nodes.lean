import Mathlib
import Rehearsal.Proofs.Yaml.Tokens
import Rehearsal.Yaml.Node

open Std.Do

namespace Rehearsal.Yaml

set_option mvcgen.warning false

namespace Parsing

def StopBlamed (text : List Char) (stop : Option Problem) : Prop := ∀ p ∈ stop, Blamed text p

variable {text : List Char} {α : Type}

abbrev Toward (text : List Char) : Assertion (.arg Parser (.except Problem .pure)) :=
  fun p => ⌜StopBlamed text p.stop⌝

abbrev Keeps (α : Type) (text : List Char) : PostCond α (.arg Parser (.except Problem .pure)) :=
  post⟨fun _ p => ⌜StopBlamed text p.stop⌝, fun e => ⌜Blamed text e⌝⟩

@[spec]
theorem refuse_spec (Q : PostCond α (.arg Parser (.except Problem .pure))) :
    ⦃fun _ => Q.2.1 .malformed⦄ (refuse : Parsing α) ⦃Q⦄ :=
  fun _ h => h

@[spec]
theorem peek_spec : ⦃Toward text⦄ peek ⦃Keeps Token text⦄ := by
  mvcgen [peek, throw_spec, -Spec.throw_MonadExcept]
  rename_i p due _
  cases stop : p.stop with
  | none => trivial
  | some problem => exact due problem stop

@[spec]
theorem skip_spec : ⦃Toward text⦄ skip ⦃Keeps Unit text⦄ := by
  mvcgen [skip]

@[spec]
theorem accept_spec (t : Token) : ⦃Toward text⦄ accept t ⦃Keeps Bool text⦄ := by
  mvcgen [accept]

@[spec]
theorem expect_spec (t : Token) : ⦃Toward text⦄ expect t ⦃Keeps Unit text⦄ := by
  mvcgen [expect]

@[spec]
theorem nextIsAnyOf_spec (ts : List Token) : ⦃Toward text⦄ nextIsAnyOf ts ⦃Keeps Bool text⦄ := by
  mvcgen [nextIsAnyOf]

@[spec]
theorem directives_spec (fuel : Nat) (hasVersion : Bool) (handles : List (String × String)) :
    ⦃Toward text⦄ directives fuel hasVersion handles ⦃Keeps (List (String × String)) text⦄ := by
  induction fuel generalizing hasVersion handles with
  | zero => mvcgen [directives]
  | succ fuel ih => mvcgen [directives, ih]

@[spec]
theorem properties_spec :
    ⦃Toward text⦄ properties ⦃Keeps (Option String × Option (Option String × String)) text⦄ := by
  mvcgen [properties]

@[spec]
theorem tagName_spec (written : Option String × String) :
    ⦃Toward text⦄ tagName written ⦃Keeps String text⦄ := by
  mvcgen [tagName]

@[spec]
theorem create_spec (name : Option String) (tag : Tag) (content : Content) :
    ⦃Toward text⦄ create name tag content ⦃Keeps Nat text⦄ := by
  mvcgen [create]

@[spec]
theorem absent_spec : ⦃Toward text⦄ absent ⦃Keeps Nat text⦄ := by
  mvcgen [absent]

theorem sequence_spec (name : Option String) (tag : Tag) {items : Parsing (List Nat)}
    (keeps : ⦃Toward text⦄ items ⦃Keeps (List Nat) text⦄) :
    ⦃Toward text⦄ sequence name tag items ⦃Keeps Nat text⦄ := by
  mvcgen [sequence, keeps]

theorem mapping_spec (name : Option String) (tag : Tag) {entries : Parsing (List (Nat × Nat))}
    (keeps : ⦃Toward text⦄ entries ⦃Keeps (List (Nat × Nat)) text⦄) :
    ⦃Toward text⦄ mapping name tag entries ⦃Keeps Nat text⦄ := by
  mvcgen [mapping, keeps]

@[spec]
theorem empty_spec (name tag : Option String) : ⦃Toward text⦄ node.empty name tag ⦃Keeps Nat text⦄ := by
  mvcgen [node.empty]

@[spec]
theorem tagNames_spec (written : Option (Option String × String)) :
    ⦃Toward text⦄ written.mapM tagName ⦃Keeps (Option String) text⦄ := by
  cases written with
  | none => mvcgen [Option.mapM]
  | some written => mvcgen [Option.mapM]

structure NodesKeep (text : List Char) (fuel : Nat) : Prop where
  node (inBlock unindented : Bool) : ⦃Toward text⦄ node inBlock unindented fuel ⦃Keeps Nat text⦄
  blockItems : ⦃Toward text⦄ blockItems fuel ⦃Keeps (List Nat) text⦄
  unindentedItems : ⦃Toward text⦄ unindentedItems fuel ⦃Keeps (List Nat) text⦄
  blockEntries : ⦃Toward text⦄ blockEntries fuel ⦃Keeps (List (Nat × Nat)) text⦄
  blockPart : ⦃Toward text⦄ blockPart fuel ⦃Keeps Nat text⦄
  flowItems (isFirst : Bool) : ⦃Toward text⦄ flowItems isFirst fuel ⦃Keeps (List Nat) text⦄
  flowEntries (isFirst : Bool) :
    ⦃Toward text⦄ flowEntries isFirst fuel ⦃Keeps (List (Nat × Nat)) text⦄
  flowPart (ends : List Token) : ⦃Toward text⦄ flowPart ends fuel ⦃Keeps Nat text⦄

theorem nodesKeep (text : List Char) (fuel : Nat) : NodesKeep text fuel := by
  induction fuel with
  | zero => constructor <;> (intros; mvcgen [node, blockItems, unindentedItems, blockEntries, blockPart, flowItems, flowEntries, flowPart])
  | succ fuel ih =>
    obtain ⟨nodes, items, unindentedOnes, entries, part, flow, flowed, ended⟩ := ih
    exact {
      node := fun inBlock unindented => by
        mvcgen [node, sequence_spec, mapping_spec, items, entries, unindentedOnes, flow, flowed]
      blockItems := by mvcgen [blockItems, nodes, items]
      unindentedItems := by mvcgen [unindentedItems, nodes, unindentedOnes]
      blockEntries := by mvcgen [blockEntries, part, entries]
      blockPart := by mvcgen [blockPart, nodes]
      flowItems := fun isFirst => by mvcgen [flowItems, ended, nodes, flow]
      flowEntries := fun isFirst => by mvcgen [flowEntries, ended, nodes, flowed]
      flowPart := fun ends => by mvcgen [flowPart, nodes] }

@[spec]
theorem node_spec (inBlock unindented : Bool) (fuel : Nat) :
    ⦃Toward text⦄ node inBlock unindented fuel ⦃Keeps Nat text⦄ :=
  (nodesKeep text fuel).node inBlock unindented

@[spec]
theorem documentEnds_spec (fuel : Nat) : ⦃Toward text⦄ documentEnds fuel ⦃Keeps Unit text⦄ := by
  induction fuel with
  | zero => mvcgen [documentEnds]
  | succ fuel ih => mvcgen [documentEnds, ih]

@[spec]
theorem explicitDocument_spec (fuel : Nat) :
    ⦃Toward text⦄ explicitDocument fuel ⦃Keeps (Option Nat) text⦄ := by
  mvcgen [explicitDocument]

theorem document_spec (fuel : Nat) : ⦃Toward text⦄ document fuel ⦃Keeps (Option Nat) text⦄ := by
  mvcgen [document]

end Parsing

/-- A text that is no document because of a value holds that fault. -/
theorem Document.textFault_of_ofText {text : List Char} {f : ValueFault}
    (stops : Document.ofText? text = .error (.value f)) : TextFault text f := by
  have due : Parsing.StopBlamed text (Tokens.ofText text).stop := by
    intro p stop
    cases p with
    | malformed => trivial
    | value f => exact Tokens.ofText_stop stop
  have ends := ends_of_triple
    (Parsing.document_spec (4 * (Tokens.ofText text).list.length + 16)) (s := {
      tokens := (Tokens.ofText text).list, stop := (Tokens.ofText text).stop }) due
  unfold ofText? at stops
  dsimp only at stops
  split at ends
  · rename_i ran
    rw [ran] at stops
    cases stops
  · rename_i ran
    rw [ran] at stops
    cases stops
    exact ends

end Rehearsal.Yaml
