import Mathlib.Data.List.Forall2
import Mathlib.Tactic.Common
import FilterQuery.Proofs.Subquery

/-!
# What a build does

A build goes on from some progress and either fails or leaves more progress behind.  This file says
what it does at every step.

**Running.**  How the parts of a build run; all that follows is calculated with these equations.

**Paths.**  `Stands` is the invariant of walking along a path: the joins came about as `Joined`
says, and the walk stands at the alias of the prefix that lies behind.  `enter_keeps` is one step,
`walk_of_reach` a whole path; where it leads is said by `Schema.reach`.  A path that leads nowhere is
a fault, and all faults are in `FilterQuery.Proofs.Faults`.

**Operators, turns, builds.**  What an operator comes to once it is looked up, and what a build does
with all of them, over any root.  A `Turn` is one operator of one field.
-/

namespace FilterQuery

open FilterQuery.Sql

/-! ## Running -/

namespace Build

variable {α β : Type}

@[simp]
lemma run_pure (a : α) (progress : Progress) :
    (pure a : Build α).run progress = (.ok a, progress) := rfl

@[simp]
lemma run_throw (fault : BuildFault) (progress : Progress) :
    (throw fault : Build α).run progress = (.error fault, progress) := rfl

/-- What comes second goes on from where the first came to, or does not run at all. -/
@[simp]
lemma run_bind (x : Build α) (f : α → Build β) (progress : Progress) :
    (x >>= f).run progress =
      match x.run progress with
      | (.ok a, reached) => (f a).run reached
      | (.error fault, reached) => (.error fault, reached) := by
  show (ExceptT.bindCont f (x.run progress).1 : StateM Progress _) (x.run progress).2 = _
  rcases x.run progress with ⟨_ | a, reached⟩ <;> rfl

@[simp]
lemma run_get (progress : Progress) :
    (get : Build Progress).run progress = (.ok progress, progress) := rfl

@[simp]
lemma run_modify (f : Progress → Progress) (progress : Progress) :
    (modify f : Build PUnit).run progress = (.ok ⟨⟩, f progress) := rfl

@[simp]
lemma run_liftExcept (x : Except BuildFault α) (progress : Progress) :
    (liftExcept x : Build α).run progress = (x, progress) := by
  cases x <;> rfl

end Build

@[simp]
lemma run_report (event : Event) (progress : Progress) :
    (report event).run progress =
      (.ok (), { progress with events := progress.events ++ [event] }) := rfl

@[simp]
lemma run_newAlias (table : String) (progress : Progress) :
    (newAlias table).run progress =
      (.ok ⟨table, .related progress.fresh⟩, { progress with fresh := progress.fresh + 1 }) := rfl

/-- A path that leads nowhere is reported, and then the build fails. -/
@[simp]
lemma run_breakPath {α : Type} (field : FieldFilter) (cause : PathBreak) (progress : Progress) :
    (breakPath field cause : Build α).run progress =
      (.error (.invalidPath field.name cause),
        { progress with
          events := progress.events ++ [.invalidPath field.name cause.reason] }) := by
  simp only [breakPath, Build.run_bind, run_report, Build.run_throw]

/-! ## Paths -/

/-- A walk stands where it should: the joins came about one by one, and the walk is at the alias of
the prefix that lies behind. -/
structure Stands (schema : Schema) (root : Alias) (behind : FieldPath) (reached : Reached)
    (progress : Progress) : Prop where
  joined : Joined schema root progress.tracker reached.related.joins progress.fresh
  here : aliasAt? root progress.tracker behind = some reached.here
  entity : reached.here.entity = reached.entity

section Walking

variable {context : BuildContext} {field : FieldFilter} {root : Alias} {reached : Reached}
  {progress : Progress}

/-- What `enter` looks up first. -/
private lemma enter_found (segment : String) (reached : Reached) :
    (do let relationship ← reached.entity.relationship? segment
        return (relationship, ← context.schema.target? relationship)) =
      context.schema.step? reached.entity segment := rfl

/-- A segment that is no relationship ends the build. -/
lemma enter_of_break {path : FieldPath} {segment : String}
    (hstep : context.schema.step? reached.entity segment = none) :
    (enter context field path segment reached).run progress =
      (.error (.invalidPath field.name (.notRelationship segment reached.entity.name)),
        { progress with events := progress.events ++
            [.invalidPath field.name
              (PathBreak.notRelationship segment reached.entity.name).reason] }) := by
  simp only [enter, enter_found, hstep, run_breakPath]

/-- A prefix that is joined already is entered under its alias, and nothing else happens. -/
lemma enter_of_known {path : FieldPath} {segment : String} {relationship : Relationship}
    {target : Entity} {known : Alias}
    (hstep : context.schema.step? reached.entity segment = some (relationship, target))
    (hknown : progress.tracker.alias? path = some known) :
    (enter context field path segment reached).run progress =
      (.ok { reached with here := known, entity := target }, progress) := by
  simp only [enter, enter_found, hstep, Build.run_bind, Build.run_get, hknown, Build.run_pure]

/-- A prefix that is not joined yet is joined under a new alias. -/
lemma enter_of_new {path : FieldPath} {segment : String} {relationship : Relationship}
    {target : Entity} (hentity : reached.here.entity = reached.entity)
    (hstep : context.schema.step? reached.entity segment = some (relationship, target))
    (hnew : progress.tracker.alias? path = none) :
    (enter context field path segment reached).run progress =
      (.ok ⟨{ reached.related with
              joins := reached.related.joins ++ linkageJoins relationship.linkage
                reached.here.source (linkOf relationship.linkage progress.fresh)
                (entered relationship.linkage target progress.fresh).source },
            entered relationship.linkage target progress.fresh, target⟩,
        ⟨progress.tracker.add path (entered relationship.linkage target progress.fresh),
          progress.related, numberOf relationship.linkage progress.fresh + 1,
          progress.events ++ [.joined field.name (FieldPath.dotted path)]⟩) := by
  have hheld : reached.here.entity.relationship? segment = some relationship := by
    rw [hentity]
    exact (Schema.step?_eq_some.mp hstep).1
  simp only [enter, enter_found, hstep, Build.run_bind, Build.run_get, hnew, hheld]
  cases hlink : linkTable? relationship.linkage with
  | none =>
      simp only [linkOf, entered, numberOf, hlink, Build.run_bind, Build.run_pure, run_newAlias,
        Build.run_modify, run_report]
  | some table =>
      simp only [linkOf, entered, numberOf, hlink, Build.run_bind, Build.run_pure, run_newAlias,
        Build.run_modify, run_report]

/-- What walking leaves as it was, and which prefixes it tracks besides those that were tracked. -/
structure Walked (root : Alias) (path : FieldPath) (reached : Reached) (progress : Progress)
    (reached' : Reached) (progress' : Progress) : Prop where
  related : reached'.related = { reached.related with joins := reached'.related.joins }
  held : progress'.related = progress.related
  kept : ∀ other known, aliasAt? root progress.tracker other = some known →
    aliasAt? root progress'.tracker other = some known
  tracked : ∀ other, (aliasAt? root progress'.tracker other).isSome ↔
    (aliasAt? root progress.tracker other).isSome ∨ other <+: path

/-- Standing still. -/
lemma Stands.walked {behind : FieldPath} (h : Stands context.schema root behind reached progress) :
    Walked root behind reached progress reached progress where
  related := rfl
  held := rfl
  kept := fun _ _ hknown => hknown
  tracked := by
    intro other
    refine ⟨Or.inl, ?_⟩
    rintro (hsome | hsub)
    · exact hsome
    · obtain ⟨above, habove⟩ := h.joined.exists_of_prefix h.here hsub
      rw [habove]
      rfl

/-- One relationship and then the others. -/
lemma Walked.trans {path more : FieldPath} {reached' reached'' : Reached}
    {progress' progress'' : Progress} (hsub : path <+: more)
    (h : Walked root path reached progress reached' progress')
    (h' : Walked root more reached' progress' reached'' progress'') :
    Walked root more reached progress reached'' progress'' where
  related := by rw [h'.related, h.related]
  held := h'.held.trans h.held
  kept := fun other known hknown => h'.kept other known (h.kept other known hknown)
  tracked := by
    intro other
    rw [h'.tracked, h.tracked]
    constructor
    · rintro ((hsome | hother) | hother)
      · exact Or.inl hsome
      · exact Or.inr (hother.trans hsub)
      · exact Or.inr hother
    · rintro (hsome | hother)
      · exact Or.inl (Or.inl hsome)
      · exact Or.inr hother

/-- **One step.**  A relationship is entered, known or new, and the walk stands behind it. -/
theorem enter_keeps (field : FieldFilter) {behind : FieldPath} {segment : String} {relationship : Relationship}
    {target : Entity} (h : Stands context.schema root behind reached progress)
    (hstep : context.schema.step? reached.entity segment = some (relationship, target)) :
    ∃ reached' progress',
      (enter context field (behind ++ [segment]) segment reached).run progress =
        (.ok reached', progress') ∧
      Stands context.schema root (behind ++ [segment]) reached' progress' ∧
      reached'.entity = target ∧
      Walked root (behind ++ [segment]) reached progress reached' progress' := by
  cases hknown : progress.tracker.alias? (behind ++ [segment]) with
  | some known =>
      have hhere : aliasAt? root progress.tracker (behind ++ [segment]) = some known := by
        rw [aliasAt?_concat, hknown]
      -- the prefix leads where its alias stands
      have hentity : known.entity = target := by
        have hreach := h.joined.reach h.here
        rw [h.entity] at hreach
        have hnext := h.joined.reach hhere
        rw [Schema.reach_concat_eq_ok] at hnext
        obtain ⟨holder, other, hholder, hother⟩ := hnext
        obtain rfl := Except.ok.inj (hreach.symm.trans hholder)
        have hsame := Option.some.inj (hstep.symm.trans hother)
        exact (congrArg Prod.snd hsame).symm
      have hstands : Stands context.schema root (behind ++ [segment])
          { reached with here := known, entity := target } progress :=
        ⟨h.joined, hhere, hentity⟩
      exact ⟨_, _, enter_of_known hstep hknown, hstands, rfl,
        ⟨rfl, rfl, hstands.walked.kept, hstands.walked.tracked⟩⟩
  | none =>
      have hadded : ∀ other, aliasAt? root (progress.tracker.add (behind ++ [segment])
          (entered relationship.linkage target progress.fresh)) other =
            if other = behind ++ [segment]
              then some (entered relationship.linkage target progress.fresh)
              else aliasAt? root progress.tracker other := fun _ => aliasAt?_add
      refine ⟨_, _, enter_of_new h.entity hstep hknown, ⟨?_, ?_, rfl⟩, rfl, ⟨rfl, rfl, ?_, ?_⟩⟩
      · exact h.joined.enter h.here hknown (h.entity ▸ hstep)
      · rw [hadded, if_pos rfl]
      · intro other known hother
        have hne : other ≠ behind ++ [segment] := by
          rintro rfl
          rw [aliasAt?_concat, hknown] at hother
          cases hother
        rw [hadded, if_neg hne, hother]
      · intro other
        rw [hadded, List.prefix_concat_iff, ← or_assoc, or_right_comm, ← h.walked.tracked]
        split_ifs with hother <;> simp [hother]

/-- **A path that leads somewhere** is walked to its end. -/
theorem walk_of_reach (field : FieldFilter) {rest : List String} {target : Entity}
    (hreach : context.schema.reach reached.entity rest = .ok target) {behind : FieldPath}
    (h : Stands context.schema root behind reached progress) :
    ∃ reached' progress',
      (walk context field behind rest reached).run progress = (.ok reached', progress') ∧
      Stands context.schema root (behind ++ rest) reached' progress' ∧
      reached'.entity = target ∧
      Walked root (behind ++ rest) reached progress reached' progress' := by
  induction rest generalizing behind reached progress with
  | nil =>
      rw [List.append_nil]
      exact ⟨reached, progress, rfl, h, Except.ok.inj hreach, h.walked⟩
  | cons segment rest ih =>
      cases hstep : context.schema.step? reached.entity segment with
      | none => simp [Schema.reach, hstep] at hreach
      | some found =>
          obtain ⟨relationship, next⟩ := found
          obtain ⟨reached₁, progress₁, hrun₁, hstands₁, rfl, hwalked₁⟩ :=
            enter_keeps field h hstep
          have hrest : context.schema.reach reached₁.entity rest = .ok target := by
            simpa only [Schema.reach, hstep] using hreach
          obtain ⟨reached₂, progress₂, hrun₂, hstands₂, hentity, hwalked₂⟩ := ih hrest hstands₁
          rw [List.append_assoc, List.singleton_append] at hstands₂ hwalked₂
          refine ⟨reached₂, progress₂, ?_, hstands₂, hentity, hwalked₁.trans ?_ hwalked₂⟩
          · simp only [walk, Build.run_bind, hrun₁, hrun₂]
          · exact ⟨rest, by simp⟩

end Walking

/-! ## Operators -/

section Operators

variable {schema : Schema} {ignoreCase : Bool} {filters : Mapping} {field : FieldFilter}
  {declared : Value × String}

/-- The operator that counts, from what the build looks up. -/
lemma present?_eq_some {present : Present} :
    field.present? filters declared = some present ↔
      ∃ value, Mapping.find? filters (.str declared.2) = some value ∧
        present = ⟨field.path, declared.1, value⟩ := by
  rw [FieldFilter.present?, Option.map_eq_some_iff]
  constructor
  · rintro ⟨value, hfind, rfl⟩
    exact ⟨value, hfind, rfl⟩
  · rintro ⟨value, hfind, rfl⟩
    exact ⟨value, hfind, rfl⟩

/-- Whether an operator counts is what the build asks first. -/
lemma hasFilter_mapping (filters : Mapping) (key : String) :
    hasFilter (.mapping filters) key = .ok (Mapping.find? filters (.str key)).isSome := by
  rw [hasFilter, Mapping.contains_eq_isSome_find?]

/-- An operator that does not count is reported and skipped. -/
lemma applyOperator_of_absent (root : Root) (statement : Statement) (progress : Progress)
    (h : field.present? filters declared = none) :
    (applyOperator ⟨schema, .mapping filters, ignoreCase⟩ root field declared statement).run
        progress =
      (.ok statement, { progress with
        events := progress.events ++ [.skipped field.name declared.2] }) := by
  have hfind : Mapping.find? filters (.str declared.2) = none := by
    simpa [FieldFilter.present?] using h
  simp only [applyOperator, hasFilter_mapping, hfind, Except.mapError, Build.run_bind,
    Build.run_liftExcept, Option.isSome_none, Bool.not_false, if_true, run_report, Build.run_pure]

/-- An unknown operator is reported, and then the build fails. -/
lemma applyOperator_of_unknown {value : Value} (root : Root) (statement : Statement)
    (progress : Progress) (hfind : Mapping.find? filters (.str declared.2) = some value)
    (hoperator : operatorOf? declared.1 = none) :
    (applyOperator ⟨schema, .mapping filters, ignoreCase⟩ root field declared statement).run
        progress =
      (.error (.unknownOperator declared.1.display field.name),
        { progress with events := progress.events ++ [.unknownOperator
          (unknownOperatorText declared.1.display field.name) field.name declared.2] }) := by
  simp only [applyOperator, hasFilter_mapping, hfind, hoperator, Except.mapError, Build.run_bind,
    Build.run_liftExcept, Option.isSome_some, Bool.not_true, Bool.false_eq_true, if_false,
    run_report, Build.run_throw]

/-- An operator on the root entity, once its value and its meaning are known. -/
lemma applyOperator_root {operator : Operator} {value : Value} (root : Root)
    (statement : Statement) (progress : Progress)
    (hfind : Mapping.find? filters (.str declared.2) = some value)
    (hoperator : operatorOf? declared.1 = some operator) (hroot : field.path.length = 1) :
    (applyOperator ⟨schema, .mapping filters, ignoreCase⟩ root field declared statement).run
        progress =
      (do let column ← rootColumn root field
          let predicate ← liftExcept
            ((operator.predicate column value ignoreCase).mapError BuildFault.operand)
          report (.applied field.name operator declared.2)
          return statement.filter (.test predicate) : Build Statement).run progress := by
  simp only [applyOperator, hasFilter_mapping, filterValue, hfind, hoperator, hroot, Except.mapError,
    Build.run_bind, Build.run_liftExcept, Build.run_pure, Option.isSome_some, Bool.not_true,
    Bool.false_eq_true, if_false, if_true, Option.getD_some]

/-- An operator on related rows, once its value and its meaning are known. -/
lemma applyOperator_related {operator : Operator} {value : Value} (root : Root)
    (statement : Statement) (progress : Progress)
    (hfind : Mapping.find? filters (.str declared.2) = some value)
    (hoperator : operatorOf? declared.1 = some operator) (hroot : field.path.length ≠ 1) :
    (applyOperator ⟨schema, .mapping filters, ignoreCase⟩ root field declared statement).run
        progress =
      (do let column ← relatedColumn ⟨schema, .mapping filters, ignoreCase⟩ root field
          let predicate ← liftExcept
            ((operator.predicate column value ignoreCase).mapError BuildFault.operand)
          addRelated predicate
          report (.applied field.name operator declared.2)
          return statement : Build Statement).run progress := by
  simp only [applyOperator, hasFilter_mapping, filterValue, hfind, hoperator, hroot, Except.mapError,
    Build.run_bind, Build.run_liftExcept, Build.run_pure, Option.isSome_some, Bool.not_true,
    Bool.false_eq_true, if_false, Option.getD_some]

end Operators

/-! ## Turns

The loops over fields and over their operators come to one loop over all declared operators, which
have their turns one by one.
-/

/-- A declared operator whose turn it is, with its field. -/
structure Turn where
  field : FieldFilter
  declared : Value × String

namespace Turn

/-- The operator of a turn, if it counts. -/
def present? (filters : Mapping) (turn : Turn) : Option Present :=
  turn.field.present? filters turn.declared

/-- Applies the operator of a turn. -/
def apply (context : BuildContext) (root : Root) (statement : Statement) (turn : Turn) :
    Build Statement :=
  applyOperator context root turn.field turn.declared statement

end Turn

/-- The turns of the operators of some fields, in order. -/
def turns (fields : List FieldFilter) : List Turn :=
  fields.flatMap fun field => field.operators.map (Turn.mk field)

/-- What counts of some turns, the first of them apart. -/
lemma filterMap_present?_cons (filters : Mapping) (turn : Turn) (rest : List Turn) :
    (turn :: rest).filterMap (Turn.present? filters) =
      (turn.present? filters).toList ++ rest.filterMap (Turn.present? filters) := by
  cases hpresent : turn.present? filters <;> simp [hpresent]

/-- Applies the operators of turns in order. -/
def applyTurns (context : BuildContext) (root : Root) (turns : List Turn)
    (statement : Statement) : Build Statement :=
  turns.foldlM (Turn.apply context root) statement

/-- The two loops are one, by induction on the fields. -/
lemma applyFields_eq_applyTurns (context : BuildContext) (root : Root) (fields : List FieldFilter)
    (statement : Statement) :
    applyFields context root fields statement =
      applyTurns context root (turns fields) statement := by
  induction fields generalizing statement with
  | nil => rfl
  | cons field rest ih =>
      have hsplit : turns (field :: rest) = field.operators.map (Turn.mk field) ++ turns rest := rfl
      rw [hsplit, applyTurns, List.foldlM_append, List.foldlM_map, applyFields, List.foldlM_cons]
      exact bind_congr fun next => ih next

/-- What counts of some fields is what counts of their turns. -/
lemma present_eq_filterMap_turns (filters : Mapping) (fields : List FieldFilter) :
    present filters fields = (turns fields).filterMap (Turn.present? filters) := by
  simp only [present, turns, List.filterMap_flatMap, List.filterMap_map]
  rfl

/-! ## Builds -/

/-- The statement with its subquery, if there is one. -/
def withRelated (statement : Statement) (related : Option Related) : Statement :=
  match related with
  | some related => statement.filter (.exists related)
  | none => statement

/-- Over any root at all a build goes through the fields first. -/
lemma build_of_root {context : BuildContext} {definition : Definition} {base : Statement}
    (hroot : base.root ≠ .none) :
    build context definition base =
      (do let filtered ← applyFields context base.root definition.fields base
          let reached ← get
          liftExcept (((withRelated filtered reached.related).orderBy
            definition.ordering).mapError BuildFault.scope)) := by
  rw [build]
  split
  · rename_i hnone
    exact absurd hnone hroot
  · rfl

end FilterQuery
