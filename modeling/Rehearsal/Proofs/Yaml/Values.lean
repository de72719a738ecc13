import Mathlib
import Rehearsal.Proofs.Yaml.Nodes
import Rehearsal.Yaml.Reader

open Std.Do

namespace Rehearsal.Yaml

set_option mvcgen.warning false

/-- What a node keeps while mappings are merged: it loses no more than entries, and its tag only if it
becomes text. -/
structure Node.Kept (a b : Node) : Prop where
  content : b.content = a.content ∨ ∃ old new, a.content = .mapping old ∧ b.content = .mapping new
  tag : b.tag = a.tag ∨ b.tag = .str

theorem Node.Kept.refl (a : Node) : Node.Kept a a := ⟨.inl rfl, .inl rfl⟩

theorem Node.Kept.trans {a b c : Node} (first : Node.Kept a b) (second : Node.Kept b c) :
    Node.Kept a c where
  content := by
    rcases first.content with same | ⟨old, new, whole, merged⟩ <;>
      rcases second.content with later | ⟨old', new', whole', merged'⟩
    · exact .inl (later.trans same)
    · exact .inr ⟨old', new', same ▸ whole', merged'⟩
    · exact .inr ⟨old, new, whole, later.trans merged⟩
    · exact .inr ⟨old, new', whole, merged'⟩
  tag := by
    rcases second.tag with same | text
    · rw [same]
      exact first.tag
    · exact .inr text

namespace Nodes

def Kept (ns ms : Nodes) : Prop := ∀ n, (ns.node n).Kept (ms.node n)

theorem Kept.refl (ns : Nodes) : Kept ns ns := fun _ => .refl _

theorem Kept.trans {ns ms ls : Nodes} (first : Kept ns ms) (second : Kept ms ls) : Kept ns ls :=
  fun n => (first n).trans (second n)

variable {ns ms : Nodes} {n : Nat}

theorem node_change (m : Nat) (f : Node → Node) :
    (ns.change n f).node m = if n = m ∧ m < ns.size then f (ns.node m) else ns.node m := by
  unfold change node
  rw [Array.getElem?_modify]
  by_cases same : n = m <;> by_cases inside : m < ns.size <;> simp [same, inside]

theorem kept_change {f : Node → Node} (kept : (ns.node n).Kept (f (ns.node n))) :
    Kept ns (ns.change n f) := by
  intro m
  rw [node_change]
  split
  · rename_i changed
    rw [← changed.1]
    exact kept
  · exact .refl _

theorem kept_settleKeys (ns : Nodes) (n : Nat) : Kept ns (ns.settleKeys n) := by
  unfold settleKeys
  refine List.foldlRecOn _ _ (Kept.refl ns) fun ms kept entry _ => ?_
  dsimp only
  split
  · exact kept.trans (kept_change ⟨.inl rfl, .inr rfl⟩)
  · exact kept

theorem isMapping_iff : ns.isMapping n = true ↔ ∃ entries, ns.content n = .mapping entries := by
  unfold isMapping
  split
  · rename_i entries inner
    exact ⟨fun _ => ⟨entries, inner⟩, fun _ => rfl⟩
  · rename_i other
    exact ⟨nofun, fun ⟨entries, inner⟩ => absurd inner (other entries)⟩

theorem kept_fill (mapping : ns.isMapping n = true) (entries : List (Nat × Nat)) :
    Kept ns (ns.fill n (.mapping entries)) := by
  obtain ⟨old, inner⟩ := isMapping_iff.mp mapping
  exact kept_change ⟨.inr ⟨old, entries, inner, rfl⟩, .inl rfl⟩

theorem Kept.isMapping (kept : Kept ns ms) : ms.isMapping n = ns.isMapping n := by
  rw [Bool.eq_iff_iff, isMapping_iff, isMapping_iff]
  rcases (kept n).content with same | ⟨old, new, whole, merged⟩
  · rw [content, content, same]
  · exact ⟨fun _ => ⟨old, whole⟩, fun _ => ⟨new, merged⟩⟩

theorem Kept.scalar (kept : Kept ns ms) {points : List Nat} (text : ms.content n = .scalar points) :
    ns.content n = .scalar points := by
  rcases (kept n).content with same | ⟨old, new, whole, merged⟩
  · exact same.symm.trans text
  · cases merged.symm.trans text

theorem isMapping_of_takeMerge {found : Nat × List (Nat × Nat)}
    (taken : ns.takeMerge? (ns.entries n) = some found) : ns.isMapping n = true := by
  rw [isMapping_iff]
  unfold entries at taken
  split at taken
  · rename_i entries inner
    exact ⟨entries, inner⟩
  · cases taken

def MergeEnds (ns : Nodes) : Except Problem Nodes → Prop
  | .ok ms => Kept ns ms
  | .error p => p = .malformed

theorem MergeEnds.after {r : Except Problem Nodes} (kept : Kept ns ms) (ends : MergeEnds ms r) :
    MergeEnds ns r := by
  cases r with
  | ok => exact kept.trans ends
  | error => exact ends

theorem gather_ends {merge : Nat → Nodes → Except Problem Nodes}
    (ends : ∀ n ns, MergeEnds ns (merge n ns)) (found : Merged) (sources : List Nat) :
    MergeEnds found.2 ((gather merge found sources).map Prod.snd) := by
  induction sources generalizing found with
  | nil => exact Kept.refl _
  | cons n rest ih =>
    obtain ⟨entries, ns⟩ := found
    have first := ends n ns
    unfold gather
    split
    · split
      · rename_i merged
        rw [merged] at first
        exact first
      · rename_i ms merged
        rw [merged] at first
        exact (ih (ms.entries n ++ entries, ms)).after first
    · rfl

theorem mergeWith_ends (fuel : Nat) (merged : List (Nat × Nat)) (n : Nat) (ns : Nodes)
    (inner : merged ≠ [] → ns.isMapping n = true) : MergeEnds ns (mergeWith fuel merged n ns) := by
  induction fuel generalizing merged n ns with
  | zero => rfl
  | succ fuel ih =>
    unfold mergeWith
    split
    · have settled := kept_settleKeys ns n
      cases merged with
      | nil => exact settled
      | cons entry rest =>
        exact settled.trans (kept_fill (settled.isMapping.trans (inner (by simp))) _)
    · rename_i value left taken
      have mapping := isMapping_of_takeMerge taken
      dsimp only
      split
      · rfl
      · rename_i sources _
        have gathered := gather_ends (fun n ns => ih [] n ns (absurd rfl))
          ([], ns.fill n (.mapping left)) sources
        split
        · rename_i stopped
          rw [stopped] at gathered
          exact gathered
        · rename_i more ms found
          rw [found] at gathered
          have kept : Kept ns ms := (kept_fill mapping left).trans gathered
          exact (ih (merged ++ more) n ms fun _ => kept.isMapping.trans mapping).after kept

theorem merge_ends (ns : Nodes) (n : Nat) : MergeEnds ns (ns.merge n) := by
  unfold merge
  split
  · exact kept_settleKeys ns n
  · exact mergeWith_ends _ [] n ns (absurd rfl)

theorem scalarPoints_some {fuel : Nat} {points : List Nat} (found : ns.scalarPoints? fuel n = some points) :
    ∃ m, ns.content m = .scalar points ∧ (m = n ∨ ns.isMapping n = true) := by
  induction fuel generalizing n with
  | zero => cases found
  | succ fuel ih =>
    unfold scalarPoints? at found
    split at found
    · rename_i text
      cases found
      exact ⟨n, text, .inl rfl⟩
    · cases found
    · rename_i entries inner
      split at found
      · obtain ⟨m, text, _⟩ := ih found
        exact ⟨m, text, .inr (isMapping_iff.mpr ⟨entries, inner⟩)⟩
      · cases found

/-- The faults of values that nodes give rise to: a tag that cannot read the text that stands in its node,
or in a node that stands in for it. -/
inductive Unread (ns : Nodes) : ValueFault → Prop
  | text {n m : Nat} {points : List Nat} {f : ValueFault} (content : ns.content m = .scalar points)
      (stands : m = n ∨ ns.isMapping n = true)
      (unread : Value.ofScalar n (ns.tag n) points = .error (.value f)) : Unread ns f
  | moment {n : Nat} (tag : ns.tag n = .timestamp) (mapping : ns.isMapping n = true) :
      Unread ns .mappedMoment

theorem Unread.kept {f : ValueFault} (kept : Kept ns ms) (unread : Unread ms f) : Unread ns f := by
  have retained {n : Nat} (other : ms.tag n ≠ .str) : ms.tag n = ns.tag n :=
    (kept n).tag.resolve_right other
  cases unread with
  | text content stands unread =>
    rename_i n m points
    have other : ms.tag n ≠ .str := by
      intro text
      rw [text] at unread
      cases unread
    rw [retained other] at unread
    rw [kept.isMapping] at stands
    exact .text (kept.scalar content) stands unread
  | moment tag mapping =>
    rw [retained (by rw [tag]; nofun)] at tag
    exact .moment tag (kept.isMapping.symm.trans mapping)

theorem scalar_error {f : ValueFault} (stops : ns.scalar n = .error (.value f)) : Unread ns f := by
  unfold scalar at stops
  split at stops
  · cases stops
  · rename_i points found
    split at stops
    · rename_i moment
      simp only [Bool.and_eq_true, decide_eq_true_eq] at moment
      cases stops
      exact .moment moment.1 moment.2
    · obtain ⟨m, content, stands⟩ := scalarPoints_some found
      exact .text content stands stops

end Nodes

namespace Working

def Blamed (ns : Nodes) : Problem → Prop
  | .malformed => True
  | .value f => ns.Unread f

def Within (ns : Nodes) (s : Cells) : Prop := ns.Kept s.nodes

variable {ns : Nodes} {α β : Type}

abbrev Inside (ns : Nodes) : Assertion (.arg Cells (.except Problem .pure)) :=
  fun s => ⌜Within ns s⌝

abbrev Stays (α : Type) (ns : Nodes) : PostCond α (.arg Cells (.except Problem .pure)) :=
  post⟨fun _ s => ⌜Within ns s⌝, fun p => ⌜Blamed ns p⌝⟩

@[spec]
theorem refuse_spec (Q : PostCond α (.arg Cells (.except Problem .pure))) :
    ⦃fun _ => Q.2.1 .malformed⦄ (refuse : Working α) ⦃Q⦄ :=
  throw_spec _ Q

@[spec]
theorem note_spec (n : Nat) (c : Cell) : ⦃Inside ns⦄ note n c ⦃Stays Unit ns⦄ := by
  mvcgen [note]

theorem forM_spec {f : β → Working Unit} (each : ∀ b, ⦃Inside ns⦄ f b ⦃Stays Unit ns⦄) (items : List β) :
    ⦃Inside ns⦄ items.forM f ⦃Stays Unit ns⦄ := by
  induction items with
  | nil => mvcgen [List.forM]
  | cons b rest ih => mvcgen [List.forM, each, ih]

theorem mapM_spec {f : β → Working α} (each : ∀ b, ⦃Inside ns⦄ f b ⦃Stays α ns⦄) (items : List β) :
    ⦃Inside ns⦄ items.mapM f ⦃Stays (List α) ns⦄ := by
  induction items with
  | nil => mvcgen [List.mapM_nil]
  | cons b rest ih => mvcgen [List.mapM_cons, each, ih]

theorem foldlM_spec {f : α → β → Working α} (each : ∀ a b, ⦃Inside ns⦄ f a b ⦃Stays α ns⦄) (items : List β)
    (a : α) : ⦃Inside ns⦄ items.foldlM f a ⦃Stays α ns⦄ := by
  induction items generalizing a with
  | nil => mvcgen [List.foldlM_nil, -Spec.foldlM_list]
  | cons b rest ih => mvcgen [List.foldlM_cons, each, ih, -Spec.foldlM_list]

theorem scalar_spec {ms : Nodes} (kept : ns.Kept ms) (n : Nat) :
    ⦃⌜True⌝⦄ ms.scalar n ⦃post⟨fun _ => ⌜True⌝, fun p => ⌜Blamed ns p⌝⟩⦄ := by
  intro _
  cases read : ms.scalar n with
  | ok => trivial
  | error p =>
    cases p with
    | malformed => trivial
    | value f => exact (Nodes.scalar_error read).kept kept

theorem merge_spec {ms : Nodes} (kept : ns.Kept ms) (n : Nat) :
    ⦃⌜True⌝⦄ ms.merge n ⦃post⟨fun ls => ⌜ns.Kept ls⌝, fun p => ⌜Blamed ns p⌝⟩⦄ := by
  intro _
  have ends := Nodes.merge_ends ms n
  cases merged : ms.merge n with
  | ok =>
    rw [merged] at ends
    exact kept.trans ends
  | error =>
    rw [merged] at ends
    subst ends
    trivial

@[spec]
theorem meet_spec (n : Nat) : ⦃Inside ns⦄ meet n ⦃Stays Cell ns⦄ := by
  mvcgen [meet, scalar_spec]

@[spec]
theorem entries_spec (n : Nat) : ⦃Inside ns⦄ entries n ⦃Stays (List (Datum × Nat)) ns⦄ := by
  mvcgen [entries, merge_spec, foldlM_spec, -Spec.foldlM_list]

@[spec]
theorem pair_spec (n : Nat) : ⦃Inside ns⦄ pair n ⦃Stays (Nat × Nat) ns⦄ := by
  mvcgen [pair]

@[spec]
theorem fill_spec (n : Nat) : ⦃Inside ns⦄ fill n ⦃Stays Unit ns⦄ := by
  mvcgen [fill, forM_spec, mapM_spec]

@[spec]
theorem fillFrom_spec (fuel place : Nat) : ⦃Inside ns⦄ fillFrom fuel place ⦃Stays Unit ns⦄ := by
  induction fuel generalizing place with
  | zero => mvcgen [fillFrom]
  | succ fuel ih => mvcgen [fillFrom, ih]

end Working

theorem Document.unread_of_read {d : Document} {f : ValueFault} (stops : d.read = .error (.value f)) :
    d.nodes.Unread f := by
  have reading : ⦃Working.Inside d.nodes⦄
      (do let _ ← Working.meet d.root; Working.fillFrom (d.nodes.size + 1) 0 : Working Unit)
      ⦃Working.Stays Unit d.nodes⦄ := by
    mvcgen
  have start : Working.Within d.nodes { nodes := d.nodes, cells := d.nodes.map fun _ => none } :=
    Nodes.Kept.refl d.nodes
  have ends := ends_of_triple reading start
  unfold read at stops
  dsimp only at stops
  split at ends
  · rename_i ran
    rw [ran] at stops
    cases stops
  · rename_i ran
    rw [ran] at stops
    cases stops
    exact ends

inductive FaultOf (s : String) : ValueFault → Prop
  | text {f : ValueFault} (fault : TextFault s.toList f) : FaultOf s f
  | document {d : Document} {f : ValueFault} (parsed : Document.ofText? s.toList = .ok (some d))
      (unread : d.nodes.Unread f) : FaultOf s f

theorem faultOf_read {s : String} {f : ValueFault} (stops : read s = .error (.value f)) : FaultOf s f := by
  unfold read at stops
  split at stops
  · rename_i parsed
    cases stops
    exact .text (Document.textFault_of_ofText parsed)
  · cases stops
  · rename_i parsed
    exact .document parsed (Document.unread_of_read stops)

end Rehearsal.Yaml
