import Mathlib.Tactic.Common
import FilterQuery.Proofs.Scanning
import FilterQuery.Yaml.Document

/-!
# Why a document has no value

Behind its tokens a document has two more stages: tokens form nodes, and nodes describe values.  This
file follows the faults of both, as `Scanning` does those of reading, and puts all stages together.

**Nodes.**  The fault behind the tokens is met when the tokens before it are used up.  `Assembly.Keeps`
says that a step leaves it as it is and has otherwise only the two faults of its stage.  The steps that
form nodes call each other with one bound on their steps, so `PartsKeep` collects what holds of all of
them, and its proof is one induction on the bound.

**Values.**  `Node.Misread` says that a scalar without a value is described in a node.  It has a case for
every place at which a part of a node is read, and `Node.value_onlyMet` goes through the same cases:
whichever fault is met first, it is the one of a scalar in the node.

**Documents.**  `fault_of_valueOfChars` names the possible faults of a document and says where those of
scalars come from.
-/

namespace FilterQuery.Yaml

/-! ## Nodes -/

namespace Assembly

/-- A step of forming nodes leaves the fault behind the tokens as it is, and fails over that fault or
over an arrangement or a reference. -/
structure Keeps {α : Type} (step : Assembly α) : Prop where
  fault : ∀ around a after, step.run around = .ok (a, after) → after.fault = around.fault
  failed : ∀ around fault, step.run around = .error fault →
    fault ∈ [around.fault, .arrangement, .reference]

namespace Keeps

variable {α β : Type} {step : Assembly α} {next : α → Assembly β}

lemma bind (h : Keeps step) (hnext : ∀ a, Keeps (next a)) : Keeps (step >>= next) := by
  have hrun : ∀ around, (step >>= next).run around =
      (step.run around).bind fun found => (next found.1).run found.2 := fun _ => rfl
  constructor
  case fault =>
    intro around b last hlast
    rw [hrun] at hlast
    cases hstep : step.run around with
    | error fault =>
        rw [hstep] at hlast
        cases hlast
    | ok found =>
        rw [hstep] at hlast
        exact ((hnext _).fault _ b last hlast).trans (h.fault around _ _ hstep)
  case failed =>
    intro around fault hfault
    rw [hrun] at hfault
    cases hstep : step.run around with
    | error found =>
        rw [hstep] at hfault
        cases hfault
        exact h.failed around _ hstep
    | ok found =>
        rw [hstep] at hfault
        rw [← h.fault around _ _ hstep]
        exact (hnext _).failed _ fault hfault

lemma pure (a : α) : Keeps (Pure.pure a : Assembly α) :=
  ⟨by rintro around _ _ ⟨⟩; rfl, by rintro around _ ⟨⟩⟩

lemma map (h : Keeps step) (f : α → β) : Keeps (do return f (← step)) :=
  h.bind fun a => pure (f a)

lemma fmap (h : Keeps step) (f : α → β) : Keeps (f <$> step) := by
  rw [map_eq_pure_bind]
  exact h.map f

lemma arrangement : Keeps (throw .arrangement : Assembly α) :=
  ⟨by rintro around _ _ ⟨⟩, by rintro around _ ⟨⟩; simp⟩

lemma reference : Keeps (throw .reference : Assembly α) :=
  ⟨by rintro around _ _ ⟨⟩, by rintro around _ ⟨⟩; simp⟩

lemma get : Keeps (MonadState.get : Assembly Surroundings) :=
  ⟨by rintro around _ _ ⟨⟩; rfl, by rintro around _ ⟨⟩⟩

lemma modify {change : Surroundings → Surroundings}
    (h : ∀ around, (change around).fault = around.fault) :
    Keeps (modify change : Assembly PUnit) :=
  ⟨by rintro around _ _ ⟨⟩; exact h around, by rintro around _ ⟨⟩⟩

lemma ite {condition : Prop} [Decidable condition] {first second : Assembly α} (h : Keeps first)
    (hother : Keeps second) : Keeps (if condition then first else second) := by
  split
  · exact h
  · exact hother

/-- A step that depends on whether something was found. -/
lemma option {next : Option α → Assembly β} (hnone : Keeps (next none))
    (hsome : ∀ a, Keeps (next (some a))) (found : Option α) : Keeps (next found) := by
  cases found with
  | none => exact hnone
  | some a => exact hsome a

end Keeps

/-- Of the single steps this is the one that can come upon the fault behind the tokens. -/
lemma peek_keeps : Keeps peek := by
  constructor
  case fault =>
    rintro ⟨_ | ⟨first, rest⟩, fault, handles, anchors⟩ token after h
    · cases h
    · cases h
      rfl
  case failed =>
    rintro ⟨_ | ⟨first, rest⟩, fault, handles, anchors⟩ found h
    · cases h
      exact List.mem_cons_self
    · cases h

lemma skip_keeps : Keeps skip :=
  .modify fun _ => rfl

lemma name_keeps (anchor : Option String) (node : Option Node) : Keeps (name anchor node) := by
  cases anchor with
  | none => exact .pure _
  | some anchor => exact .modify fun _ => rfl

lemma checkName_keeps (anchor : Option String) : Keeps (checkName anchor) := by
  cases anchor with
  | none => exact .pure _
  | some anchor => exact Keeps.get.bind fun _ => .ite .reference (.pure _)

lemma named_keeps (anchor : String) : Keeps (named anchor) := by
  refine Keeps.get.bind fun around => ?_
  split
  · exact .pure _
  · exact .pure _
  · exact .reference

lemma tagText_keeps (handle : Option String) (suffix : String) :
    Keeps (tagText handle suffix) := by
  cases handle with
  | none => exact .pure _
  | some handle =>
      refine Keeps.get.bind fun around => ?_
      split
      · exact .pure _
      · exact .arrangement

lemma properties_keeps : Keeps properties := by
  refine peek_keeps.bind fun first => ?_
  split
  · refine skip_keeps.bind fun _ => peek_keeps.bind fun second => ?_
    split
    · exact skip_keeps.bind fun _ => (tagText_keeps _ _).map _
    · exact .pure _
  · refine skip_keeps.bind fun _ => peek_keeps.bind fun second => ?_
    split
    · exact skip_keeps.bind fun _ => (tagText_keeps _ _).map _
    · exact (tagText_keeps _ _).map _
  · exact .pure _

lemma complete_keeps (anchor : Option String) (node : Node) : Keeps (complete anchor node) :=
  (name_keeps _ _).bind fun _ => .pure _

lemma bare_keeps (anchor tag : Option String) : Keeps (bare anchor tag) := by
  have hmake : ∀ text isPlain, Keeps (do
      checkName anchor
      complete anchor (.scalar (scalarTag tag text isPlain) text)) := fun _ _ =>
    (checkName_keeps _).bind fun _ => complete_keeps _ _
  rw [bare]
  exact .ite (Keeps.arrangement.bind fun _ => hmake _ _) (hmake _ _)

lemma collection_keeps {anchor tag : Option String} {kind : Tag} {members : Assembly Node}
    (h : Keeps members) : Keeps (collection anchor tag kind members) := by
  refine (checkName_keeps _).bind fun _ => (name_keeps _ _).bind fun _ => h.bind fun made => ?_
  split
  · exact complete_keeps _ _
  · exact complete_keeps _ _
  · exact .pure _

/-- Between brackets a comma is passed over, but before the first part. -/
lemma separator_keeps {α : Type} {next : PUnit → Assembly α} {token : Token} {isFirst : Bool}
    (h : ∀ done, Keeps (next done)) :
    Keeps (if !isFirst then
      if token = .flowEntry then skip >>= next else throw .arrangement >>= next else next ⟨⟩) :=
  .ite (.ite (skip_keeps.bind h) (Keeps.arrangement.bind h)) (h ⟨⟩)

/-! ### Nodes -/

/-- All that holds of the steps that form nodes of tokens, for one bound of theirs. -/
structure PartsKeep (steps : Nat) : Prop where
  node : ∀ inBlock afterKey, Keeps (node inBlock afterKey steps)
  blockItems : Keeps (blockItems steps)
  openItems : Keeps (openItems steps)
  blockPart : Keeps (blockPart steps)
  blockEntries : Keeps (blockEntries steps)
  flowPart : ∀ isKey closing, Keeps (flowPart isKey closing steps)
  flowEntry : ∀ closing, Keeps (flowEntry closing steps)
  flowItems : ∀ isFirst, Keeps (flowItems isFirst steps)
  flowEntries : ∀ isFirst, Keeps (flowEntries isFirst steps)

section Parts

variable {steps : Nat} (ih : PartsKeep steps)
include ih

lemma node_keeps_succ (inBlock afterKey : Bool) : Keeps (node inBlock afterKey (steps + 1)) := by
  rw [node]
  refine peek_keeps.bind fun first => ?_
  split
  · exact skip_keeps.bind fun _ => named_keeps _
  refine properties_keeps.bind fun found => peek_keeps.bind fun second => ?_
  split
  · exact skip_keeps.bind fun _ => (checkName_keeps _).bind fun _ => complete_keeps _ _
  · exact skip_keeps.bind fun _ => collection_keeps ((ih.flowItems _).map _)
  · exact skip_keeps.bind fun _ => collection_keeps ((ih.flowEntries _).map _)
  · exact .ite (skip_keeps.bind fun _ => collection_keeps (ih.blockItems.map _)) (bare_keeps _ _)
  · exact .ite (skip_keeps.bind fun _ => collection_keeps (ih.blockEntries.map _)) (bare_keeps _ _)
  · exact .ite (collection_keeps (ih.openItems.map _)) (bare_keeps _ _)
  · exact bare_keeps _ _

lemma blockItems_keeps_succ : Keeps (blockItems (steps + 1)) := by
  rw [blockItems]
  refine peek_keeps.bind fun first => ?_
  split
  · refine skip_keeps.bind fun _ => peek_keeps.bind fun second => ?_
    split
    case h_3 => exact (ih.node _ _).bind fun item => ih.blockItems.map _
    all_goals exact (Keeps.pure _).bind fun item => ih.blockItems.map _
  · exact skip_keeps.bind fun _ => .pure _
  · exact .arrangement

lemma openItems_keeps_succ : Keeps (openItems (steps + 1)) := by
  rw [openItems]
  refine peek_keeps.bind fun first => ?_
  split
  · refine skip_keeps.bind fun _ => peek_keeps.bind fun second => ?_
    split
    case h_5 => exact (ih.node _ _).bind fun item => ih.openItems.map _
    all_goals exact (Keeps.pure _).bind fun item => ih.openItems.map _
  · exact .pure _

lemma blockPart_keeps_succ : Keeps (blockPart (steps + 1)) := by
  rw [blockPart]
  refine peek_keeps.bind fun first => ?_
  split
  case h_4 => exact ih.node _ _
  all_goals exact .pure _

lemma blockEntries_keeps_succ : Keeps (blockEntries (steps + 1)) := by
  rw [blockEntries]
  refine peek_keeps.bind fun first => ?_
  split
  · refine skip_keeps.bind fun _ => ih.blockPart.bind fun key => peek_keeps.bind fun second => ?_
    split
    · exact skip_keeps.bind fun _ => ih.blockPart.bind fun value => ih.blockEntries.map _
    · exact (Keeps.pure _).bind fun value => ih.blockEntries.map _
  · exact skip_keeps.bind fun _ => .pure _
  · exact .arrangement

lemma flowPart_keeps_succ (isKey : Bool) (closing : Token) :
    Keeps (flowPart isKey closing (steps + 1)) := by
  rw [flowPart]
  exact peek_keeps.bind fun _ => .ite (.pure _) (ih.node _ _)

lemma flowEntry_keeps_succ (closing : Token) : Keeps (flowEntry closing (steps + 1)) := by
  rw [flowEntry]
  refine skip_keeps.bind fun _ => (ih.flowPart _ _).bind fun key => peek_keeps.bind fun first => ?_
  split
  · exact skip_keeps.bind fun _ => (ih.flowPart _ _).map _
  · exact .pure _

lemma flowItems_keeps_succ (isFirst : Bool) : Keeps (flowItems isFirst (steps + 1)) := by
  rw [flowItems]
  refine peek_keeps.bind fun first => ?_
  split
  · exact skip_keeps.bind fun _ => .pure _
  · refine separator_keeps fun _ => peek_keeps.bind fun second => ?_
    split
    · exact skip_keeps.bind fun _ => .pure _
    · exact (ih.flowEntry _).bind fun entry => (ih.flowItems _).map _
    · exact (ih.node _ _).bind fun item => (ih.flowItems _).map _

lemma flowEntries_keeps_succ (isFirst : Bool) : Keeps (flowEntries isFirst (steps + 1)) := by
  rw [flowEntries]
  refine peek_keeps.bind fun first => ?_
  split
  · exact skip_keeps.bind fun _ => .pure _
  · refine separator_keeps fun _ => peek_keeps.bind fun second => ?_
    split
    · exact skip_keeps.bind fun _ => .pure _
    · exact (ih.flowEntry _).bind fun entry => (ih.flowEntries _).map _
    · exact (ih.node _ _).bind fun key => (ih.flowEntries _).map _

end Parts

/-- By induction on the bound, which all of them share. -/
lemma partsKeep (steps : Nat) : PartsKeep steps := by
  induction steps with
  | zero =>
      exact ⟨fun _ _ => .arrangement, .arrangement, .arrangement, .arrangement, .arrangement,
        fun _ _ => .arrangement, fun _ => .arrangement, fun _ => .arrangement, fun _ => .arrangement⟩
  | succ steps ih =>
      exact ⟨node_keeps_succ ih, blockItems_keeps_succ ih, openItems_keeps_succ ih,
        blockPart_keeps_succ ih, blockEntries_keeps_succ ih, flowPart_keeps_succ ih,
        flowEntry_keeps_succ ih, flowItems_keeps_succ ih, flowEntries_keeps_succ ih⟩

/-! ### Documents -/

lemma directives_keeps (hasVersion : Bool) (handles : List (String × String)) (steps : Nat) :
    Keeps (directives hasVersion handles steps) := by
  induction steps generalizing hasVersion handles with
  | zero => exact .arrangement
  | succ steps ih =>
      rw [directives]
      refine peek_keeps.bind fun token => ?_
      split
      · refine skip_keeps.bind fun _ => ?_
        split
        · exact .ite (Keeps.arrangement.bind fun _ => ih _ _) (ih _ _)
        · exact .ite (Keeps.arrangement.bind fun _ => ih _ _) (ih _ _)
        · exact ih _ _
      · exact .pure _

lemma skipEnds_keeps (steps : Nat) : Keeps (skipEnds steps) := by
  induction steps with
  | zero => exact .pure _
  | succ steps ih =>
      rw [skipEnds]
      refine peek_keeps.bind fun token => ?_
      split
      · exact skip_keeps.bind fun _ => ih
      · exact .pure _

lemma nextDocument_keeps (steps : Nat) : Keeps (nextDocument steps) := by
  refine (skipEnds_keeps _).bind fun _ => peek_keeps.bind fun first => ?_
  split
  · exact .pure _
  · refine (directives_keeps _ _ _).bind fun handles => ?_
    refine Keeps.bind ?_ fun _ => peek_keeps.bind fun second => ?_
    · exact .modify fun _ => rfl
    · split
      · exact skip_keeps.bind fun _ => .pure _
      · exact .arrangement

lemma markedDocument_keeps (steps : Nat) : Keeps (markedDocument steps) := by
  refine peek_keeps.bind fun token => ?_
  split
  case h_5 => exact (partsKeep steps).node _ _
  all_goals exact .pure _

lemma onlyDocument_keeps (steps : Nat) : Keeps (onlyDocument steps) := by
  have hlast : ∀ found : Node, Keeps (do
      if ← nextDocument steps then throw .reference
      return some found) := fun found =>
    (nextDocument_keeps _).bind fun more => .ite (Keeps.reference.bind fun _ => .pure _) (.pure _)
  have hnode := (partsKeep steps).node true false
  refine peek_keeps.bind fun token => ?_
  split
  case h_4 => exact (hnode.fmap some).bind (.option (.pure _) hlast)
  all_goals
    exact (nextDocument_keeps _).bind fun more =>
      .ite (((markedDocument_keeps _).fmap some).bind (.option (.pure _) hlast))
        ((Keeps.pure none).bind (.option (.pure _) hlast))

end Assembly

/-- **Why no node is formed**: the tokens break off, or they are not arranged as a node, or they refer
to what is not there. -/
theorem Node.fault_ofTokens {tokens : Tokens} {fault : Fault}
    (h : Node.ofTokens tokens = .error fault) :
    tokens.fault = some fault ∨ fault = .arrangement ∨ fault = .reference := by
  rw [ofTokens] at h
  generalize haround : Surroundings.mk tokens.settled (tokens.fault.getD .arrangement)
    Assembly.standardHandles [] = around at h
  have hfailed := (Assembly.onlyDocument_keeps (3 * tokens.settled.length + 8)).failed around
  cases hrun : (Assembly.onlyDocument (3 * tokens.settled.length + 8)).run around with
  | ok found =>
      rw [hrun] at h
      cases h
  | error found =>
      rw [hrun] at h
      cases h
      have hmem := hfailed fault hrun
      rw [← haround] at hmem
      simp only [List.mem_cons, List.not_mem_nil, or_false] at hmem
      cases htokens : tokens.fault with
      | none =>
          rw [htokens, Option.getD_none] at hmem
          exact .inr (or_self_left.mp hmem)
      | some last =>
          rw [htokens, Option.getD_some] at hmem
          exact hmem.imp_left fun heq => congrArg some heq.symm

/-! ## Values -/

/-- A scalar has no value since its tag is of another kind or its text is not of the alphabet, or over a
scalar fault, which only four of the tags can come upon. -/
lemma scalarValue_fault {tag : Tag} {text : String} {fault : Fault}
    (h : scalarValue tag text = .error fault) :
    fault = .content ∨
      (∃ scalar, fault = .scalar scalar) ∧ tag ∈ [Tag.truth, .integer, .number, .timestamp] := by
  have hscalar : ∀ {α : Type} {result : Except ScalarFault α} {f : α → Value},
      (result.map f).mapError Fault.scalar = .error fault → ∃ scalar, fault = .scalar scalar := by
    intro α result f hresult
    cases result with
    | ok value => cases hresult
    | error scalar =>
        cases hresult
        exact ⟨scalar, rfl⟩
  cases tag with
  | null => cases h
  | text => cases h
  | truth =>
      unfold scalarValue at h
      dsimp only at h
      split at h
      · cases h
      · cases h
        exact .inr ⟨⟨_, rfl⟩, by decide⟩
  | integer => exact .inr ⟨hscalar h, by decide⟩
  | number => exact .inr ⟨hscalar h, by decide⟩
  | timestamp =>
      refine .inr ⟨?_, by decide⟩
      unfold scalarValue at h
      dsimp only at h
      split at h
      · exact hscalar h
      · exact hscalar h
      · cases h
        exact ⟨_, rfl⟩
  | binary =>
      unfold scalarValue at h
      dsimp only at h
      split at h
      · split at h
        · cases h
        · cases h
          exact .inl rfl
      · cases h
        exact .inl rfl
  | _ =>
      cases h
      exact .inl rfl

mutual

/-- A node that is misread: it stands for a scalar without a value, or there is such a node in it. -/
inductive Node.Misread : Node → ScalarFault → Prop where
  | self {node : Node} {tag : Tag} {text : String} {fault : ScalarFault} (htag : node.tag? = some tag)
    (htext : node.text? = some text) (hvalue : scalarValue tag text = .error (.scalar fault)) :
    Node.Misread node fault
  | item {tag : Tag} {items : List Node} {fault : ScalarFault} (h : ItemMisread items fault) :
    Node.Misread (.sequence tag items) fault
  | entry {tag : Tag} {entries : List (Node × Node)} {fault : ScalarFault}
    (h : EntryMisread entries fault) : Node.Misread (.mapping tag entries) fault

/-- One of some nodes is misread. -/
inductive ItemMisread : List Node → ScalarFault → Prop where
  | head {item : Node} {rest : List Node} {fault : ScalarFault} (h : Node.Misread item fault) :
    ItemMisread (item :: rest) fault
  | tail {item : Node} {rest : List Node} {fault : ScalarFault} (h : ItemMisread rest fault) :
    ItemMisread (item :: rest) fault

/-- The key or the value of one of some entries is misread. -/
inductive EntryMisread : List (Node × Node) → ScalarFault → Prop where
  | key {key held : Node} {rest : List (Node × Node)} {fault : ScalarFault}
    (h : Node.Misread key fault) : EntryMisread ((key, held) :: rest) fault
  | held {key held : Node} {rest : List (Node × Node)} {fault : ScalarFault}
    (h : Node.Misread held fault) : EntryMisread ((key, held) :: rest) fault
  | tail {entry : Node × Node} {rest : List (Node × Node)} {fault : ScalarFault}
    (h : EntryMisread rest fault) : EntryMisread (entry :: rest) fault

end

/-- A result fails over a node that describes nothing, or over one of these scalar faults. -/
def OnlyMet {α : Type} (faults : ScalarFault → Prop) (result : Except Met α) : Prop :=
  ∀ moment fault, result = .error ⟨moment, fault⟩ → Fault.OfStage .content faults fault

namespace OnlyMet

variable {α β : Type} {faults more : ScalarFault → Prop} {a : Except Met α} {b : Except Met β}

lemma mono (h : OnlyMet faults a) (hmore : ∀ fault, faults fault → more fault) : OnlyMet more a :=
  fun moment fault herror => (h moment fault herror).mono hmore

lemma ok (value : α) : OnlyMet faults (.ok value : Except Met α) := by
  rintro moment fault ⟨⟩

lemma content (moment : Nat) : OnlyMet faults (.error ⟨moment, .content⟩ : Except Met α) := by
  rintro _ fault ⟨⟩
  exact .own

lemma map (h : OnlyMet faults a) (f : α → β) : OnlyMet faults (a.map f) := by
  intro moment fault herror
  cases a with
  | ok value => cases herror
  | error met =>
      cases herror
      exact h moment fault rfl

lemma ite {condition : Prop} [Decidable condition] {first second : Except Met α}
    (h : OnlyMet faults first) (hother : OnlyMet faults second) :
    OnlyMet faults (if condition then first else second) := by
  split
  · exact h
  · exact hother

/-- The fault of both results is one of theirs, whichever is met first. -/
lemma together (h : OnlyMet faults a) (hb : OnlyMet faults b) : OnlyMet faults (together a b) := by
  intro moment fault herror
  match a, b with
  | .ok _, .ok _ => cases herror
  | .error met, .ok _ =>
      cases herror
      exact h moment fault rfl
  | .ok _, .error met =>
      cases herror
      exact hb moment fault rfl
  | .error first, .error second =>
      rw [Yaml.together] at herror
      split at herror
      · cases herror
        exact hb moment fault rfl
      · cases herror
        exact h moment fault rfl

lemma joined {a b : Except Met (List α)} (h : OnlyMet faults a) (hb : OnlyMet faults b) :
    OnlyMet faults (joined a b) :=
  (h.together hb).map _

end OnlyMet

namespace Node

/-- The value of a scalar is met with its own fault. -/
lemma plainValue_onlyMet {node : Node} {tag : Tag} {text : Option String} (round : Nat)
    (htag : node.tag? = some tag) (htext : node.text? = text) :
    OnlyMet node.Misread (plainValue round tag text) := by
  cases text with
  | none => exact .content _
  | some text =>
      intro moment fault herror
      rw [plainValue] at herror
      cases hvalue : scalarValue tag text with
      | ok value =>
          rw [hvalue] at herror
          cases herror
      | error found =>
          rw [hvalue] at herror
          cases herror
          obtain rfl | ⟨⟨scalar, rfl⟩, -⟩ := scalarValue_fault hvalue
          · exact .own
          · exact .scalar (.self htag htext hvalue)

/-- The text of a default key is always a text. -/
lemma plainValue_text_onlyMet {faults : ScalarFault → Prop} (round : Nat) (text : Option String) :
    OnlyMet faults (plainValue round .text text) := by
  cases text with
  | none => exact .content _
  | some text => exact .ok _

mutual

lemma value_onlyMet (round : Nat) : ∀ node : Node, OnlyMet node.Misread (node.value round)
  | .enclosing => .ok _
  | .scalar tag text => by
      rw [value]
      split
      · exact .content _
      · exact plainValue_onlyMet round rfl rfl
  | .sequence tag items => by
      have hvalues := (values_onlyMet (round + 1) items).mono fun _ => @Misread.item tag items _
      have hpairs := (pairs_onlyMet (round + 1) items).mono fun _ => @Misread.item tag items _
      unfold value
      split
      · exact hvalues.map _
      · exact hpairs.map _
      · exact hpairs.map _
      all_goals exact .content _
  | .mapping tag entries => by
      have hentries := ((merged_onlyMet (round + 1) entries).joined
        (own_onlyMet (round + 1) entries)).mono fun _ => @Misread.entry tag entries _
      unfold value
      split
      · exact hentries.map _
      · exact hentries.map _
      · exact .content _
      · exact .content _
      · exact .content _
      · exact plainValue_onlyMet round rfl rfl

lemma values_onlyMet (round : Nat) :
    ∀ items : List Node, OnlyMet (ItemMisread items) (values round items)
  | [] => .ok _
  | item :: rest => by
      rw [values]
      exact (((value_onlyMet round item).map _).mono fun _ => .head).joined
        ((values_onlyMet round rest).mono fun _ => .tail)

lemma pairs_onlyMet (round : Nat) :
    ∀ items : List Node, OnlyMet (ItemMisread items) (pairs round items)
  | [] => .ok _
  | item :: rest => by
      unfold pairs
      refine .joined ?_ ((pairs_onlyMet round rest).mono fun _ => .tail)
      split
      · rename_i tag key held
        have hkey := (value_onlyMet round key).mono fun _ =>
          @EntryMisread.key key held [] _
        have hheld := (value_onlyMet round held).mono fun _ =>
          @EntryMisread.held key held [] _
        exact ((hkey.together hheld).map _).mono fun _ h => .head (.entry h)
      · exact .content _

lemma own_onlyMet (round : Nat) :
    ∀ entries : List (Node × Node), OnlyMet (EntryMisread entries) (own round entries)
  | [] => .ok _
  | (key, held) :: rest => by
      rw [own]
      refine .joined ?_ ((own_onlyMet round rest).mono fun _ => .tail)
      split
      · exact .content _
      · exact .ok _
      · refine .map (.together ?_ ((value_onlyMet round held).mono fun _ => .held)) _
        refine .ite (.content _) (.ite (plainValue_text_onlyMet round _) ?_)
        exact (value_onlyMet round key).mono fun _ => .key

lemma merged_onlyMet (round : Nat) :
    ∀ entries : List (Node × Node), OnlyMet (EntryMisread entries) (merged round entries)
  | [] => .ok _
  | (key, held) :: rest => by
      unfold merged
      refine .joined (.ite ?_ (.ok _)) ((merged_onlyMet round rest).mono fun _ => .tail)
      split
      · rename_i tag entries
        exact ((merged_onlyMet round entries).joined (own_onlyMet round entries)).mono
          fun _ h => .held (.entry h)
      · rename_i tag items
        exact (mergedAll_onlyMet round items).mono fun _ h => .held (.item h)
      · exact .ok _
      · exact .content _

lemma mergedAll_onlyMet (round : Nat) :
    ∀ items : List Node, OnlyMet (ItemMisread items) (mergedAll round items)
  | [] => .ok _
  | item :: rest => by
      unfold mergedAll
      refine .map (.together ?_ ((mergedAll_onlyMet round rest).mono fun _ => .tail)) _
      split
      · rename_i tag entries
        exact ((merged_onlyMet round entries).joined (own_onlyMet round entries)).mono
          fun _ h => .head (.entry h)
      · exact .ok _
      · exact .content _

end

end Node

/-! ## Documents -/

/-- **Why a document has no value**: it is refused as a whole, or it breaks off over a scalar fault that
stands in it, or one of the scalars that it describes is misread. -/
theorem fault_of_valueOfChars {chars : List Char} {fault : Fault}
    (h : valueOfChars chars = .error fault) :
    fault ∈ [.character, .token, .arrangement, .reference, .content] ∨
      ∃ scalar, fault = .scalar scalar ∧
        (StandsIn chars scalar ∨
          ∃ node, Node.ofTokens (Tokens.ofChars chars) = .ok (some node) ∧ node.Misread scalar) := by
  rw [valueOfChars] at h
  split at h
  · cases h
    exact .inl (by decide)
  cases hnode : Node.ofTokens (Tokens.ofChars chars) with
  | error found =>
      rw [hnode] at h
      cases h
      obtain htokens | rfl | rfl := Node.fault_ofTokens hnode
      · cases Tokens.fault_ofChars htokens with
        | own => exact .inl (by decide)
        | scalar hstands => exact .inr ⟨_, rfl, .inl hstands⟩
      · exact .inl (by decide)
      · exact .inl (by decide)
  | ok found =>
      rw [hnode] at h
      cases found with
      | none => cases h
      | some node =>
          have hvalue : (node.value 0).mapError Met.fault = .error fault := h
          have hstage : Fault.OfStage .content node.Misread fault := by
            have hmet := node.value_onlyMet 0
            generalize node.value 0 = result at hmet hvalue
            cases result with
            | ok value => cases hvalue
            | error met =>
                cases hvalue
                exact hmet met.moment met.fault rfl
          cases hstage with
          | own => exact .inl (by decide)
          | scalar hmisread => exact .inr ⟨_, rfl, .inr ⟨node, rfl, hmisread⟩⟩

end FilterQuery.Yaml
