import Mathlib.Data.List.Forall2
import Mathlib.Tactic.Common
import FilterQuery.Proofs.Faults

/-!
# What is built

A build that starts from nothing goes through all operators.  What it has put together after some
of them depends on those that are present only; this file says how.

**The subquery.**  `Collected` is the subquery after some prefixes were entered and some conditions
were added: which prefixes are tracked, and which predicate stands for which present operator.

**The statement.**  `Built` is the invariant of a build: the statement has one more condition for
each present operator on the root, and the subquery is as `Collected` says for all others, or there
is none.

**Operators.**  `applyOperator_of_test` and `applyOperator_of_fault` are the two ways in which a
present operator is applied.  Whole builds are in `FilterQuery.Proofs.Runs`.
-/

namespace FilterQuery

open FilterQuery.Sql

/-! ## The subquery -/

/-- The present operators on the root entity itself. -/
def rootOnly (all : List Present) : List Present :=
  all.filter fun present => present.IsRoot

/-- The present operators on related rows. -/
def relatedOnly (all : List Present) : List Present :=
  all.filter fun present => ¬present.IsRoot

@[simp]
lemma rootOnly_append (all more : List Present) :
    rootOnly (all ++ more) = rootOnly all ++ rootOnly more :=
  List.filter_append ..

@[simp]
lemma relatedOnly_append (all more : List Present) :
    relatedOnly (all ++ more) = relatedOnly all ++ relatedOnly more :=
  List.filter_append ..

/-- An operator on the root entity is nothing else. -/
lemma only_of_isRoot {present : Present} (h : present.IsRoot) :
    rootOnly [present] = [present] ∧ relatedOnly [present] = [] := by
  simp [rootOnly, relatedOnly, h]

/-- Neither is one on related rows. -/
lemma only_of_not_isRoot {present : Present} (h : ¬present.IsRoot) :
    rootOnly [present] = [] ∧ relatedOnly [present] = [present] := by
  simp [rootOnly, relatedOnly, h]

/-- What is asked of each operator on the root entity, and of those on related rows together if there
are any, is asked of fewer operators, too. -/
lemma only_mono {all other : List Present} {P : Present → Prop} {Q : List Present → Prop}
    (hQ : relatedOnly all ⊆ relatedOnly other → Q (relatedOnly other) → Q (relatedOnly all))
    (hsub : all ⊆ other)
    (h : (∀ present ∈ rootOnly other, P present) ∧
      (relatedOnly other ≠ [] → Q (relatedOnly other))) :
    (∀ present ∈ rootOnly all, P present) ∧ (relatedOnly all ≠ [] → Q (relatedOnly all)) := by
  have hroot : rootOnly all ⊆ rootOnly other := List.filter_subset _ hsub
  have hrelated : relatedOnly all ⊆ relatedOnly other := List.filter_subset _ hsub
  refine ⟨fun present hpresent => h.1 present (hroot hpresent), fun hsome => hQ hrelated (h.2 ?_)⟩
  rintro hnone
  exact hsome (List.subset_nil.mp (hnone ▸ hrelated))

/-- The alias of the root table in the subquery of a new build. -/
def relatedRoot (entity : Entity) : Alias :=
  ⟨⟨entity.table, .related 0⟩, entity⟩

section Invariants

variable (schema : Schema) (entity : Entity) (ignoreCase : Bool)

/-- A predicate of the subquery is the condition of a present operator on the alias of its
prefix. -/
def StandsFor (tracker : JoinTracker Alias) (present : Present)
    (predicate : Predicate ColumnRef) : Prop :=
  ∃ known test, aliasAt? (relatedRoot entity) tracker present.behind = some known ∧
    present.test schema entity ignoreCase = .ok test ∧
    predicate = test.map (ColumnRef.ofColumn known.source)

/-- The subquery after `entered` prefixes were entered and conditions were added for `tested`
operators. -/
structure Collected (entered : List FieldPath) (tested : List Present)
    (tracker : JoinTracker Alias) (fresh : Nat) (related : Related) : Prop where
  start : related = { Related.start entity (relatedRoot entity).source with
    joins := related.joins, predicates := related.predicates }
  joined : Joined schema (relatedRoot entity) tracker related.joins fresh
  tracked : ∀ path, (aliasAt? (relatedRoot entity) tracker path).isSome ↔
    path = [] ∨ ∃ whole ∈ entered, path <+: whole
  predicates : List.Forall₂ (StandsFor schema entity ignoreCase tracker) tested related.predicates

/-- The subquery that a build holds after some present operators: none if all of them are on the
root entity. -/
inductive Holding (done : List Present) : Progress → Prop
  | nothing {events : List Event} (hnone : relatedOnly done = []) :
      Holding done ⟨[], none, 0, events⟩
  | subquery {tracker : JoinTracker Alias} {related : Related} {fresh : Nat} {events : List Event}
      (hsome : relatedOnly done ≠ [])
      (h : Collected schema entity ignoreCase ((relatedOnly done).map Present.behind)
        (relatedOnly done) tracker fresh related) :
      Holding done ⟨tracker, some related, fresh, events⟩

/-- A condition of the statement is that of a present operator on the root entity. -/
def RootCondition (present : Present) (condition : Condition) : Prop :=
  ∃ test, present.test schema entity ignoreCase = .ok test ∧
    condition = .test (test.map (ColumnRef.ofColumn (.ofTable entity.table)))

/-- What is built after some present operators. -/
structure Built (base : Statement) (done : List Present) (statement : Statement)
    (progress : Progress) : Prop where
  conditions : ∃ added, statement = { base with conditions := base.conditions ++ added } ∧
    List.Forall₂ (RootCondition schema entity ignoreCase) (rootOnly done) added
  holding : Holding schema entity ignoreCase done progress

end Invariants

section Steps

variable {schema : Schema} {entity : Entity} {ignoreCase : Bool}

/-- A condition stands for an operator however many prefixes are tracked besides. -/
lemma StandsFor.mono {tracker more : JoinTracker Alias} {present : Present}
    {predicate : Predicate ColumnRef}
    (hkept : ∀ path known, aliasAt? (relatedRoot entity) tracker path = some known →
      aliasAt? (relatedRoot entity) more path = some known)
    (h : StandsFor schema entity ignoreCase tracker present predicate) :
    StandsFor schema entity ignoreCase more present predicate := by
  obtain ⟨known, test, hknown, htest, heq⟩ := h
  exact ⟨known, test, hkept _ _ hknown, htest, heq⟩

/-- Progress leads wherever the subquery is as it should be. -/
lemma Holding.leads {done : List Present} {progress : Progress}
    (h : Holding schema entity ignoreCase done progress) : progress.Leads schema entity := by
  cases h with
  | nothing hnone => exact (Progress.Leads.start schema entity).report _ _
  | subquery hsome h =>
      refine ⟨fun behind segment known hknown => ?_, fun related hrelated => ?_⟩
      · exact h.joined.reach ((aliasAt?_concat ..).trans hknown)
      · rw [← Option.some.inj hrelated, h.start]
        rfl

/-- A subquery that was just begun. -/
lemma Collected.begin (schema : Schema) (entity : Entity) (ignoreCase : Bool) :
    Collected schema entity ignoreCase [] [] [] 1
      (Related.start entity (relatedRoot entity).source) where
  start := rfl
  joined := .start rfl Nat.zero_lt_one
  tracked := by
    intro path
    constructor
    · intro hsome
      obtain ⟨known, hknown⟩ := Option.isSome_iff_exists.mp hsome
      exact Or.inl (eq_root_of_aliasAt? hknown).1
    · rintro (rfl | ⟨whole, hwhole, -⟩)
      · rfl
      · cases hwhole
  predicates := .nil

/-- The subquery is there before its first use; nothing is joined or reported for that. -/
lemma relatedScope_run {done : List Present} {progress : Progress}
    (h : Holding schema entity ignoreCase done progress) :
    ∃ related fresh,
      (relatedScope (.entity entity)).run progress =
        (.ok related, ⟨progress.tracker, some related, fresh, progress.events⟩) ∧
      Collected schema entity ignoreCase ((relatedOnly done).map Present.behind)
        (relatedOnly done) progress.tracker fresh related := by
  cases h with
  | @nothing events hnone =>
      refine ⟨Related.start entity (relatedRoot entity).source, 1, ?_, ?_⟩
      · simp only [relatedScope, Build.run_bind, Build.run_get, run_newAlias, Build.run_modify,
          Build.run_pure]
        rfl
      · rw [hnone]
        exact Collected.begin schema entity ignoreCase
  | @subquery tracker related fresh events hsome h =>
      refine ⟨related, fresh, ?_, h⟩
      simp only [relatedScope, Build.run_bind, Build.run_get, Build.run_pure]

/-- Walking along a path keeps the subquery as it should be. -/
lemma Collected.walked {entered : List FieldPath} {tested : List Present}
    {tracker : JoinTracker Alias} {fresh : Nat} {related : Related} {path : FieldPath}
    {reached reached' : Reached} {progress progress' : Progress}
    (h : Collected schema entity ignoreCase entered tested tracker fresh related)
    (htracker : progress.tracker = tracker) (hrelated : reached.related = related)
    (hstands : Stands schema (relatedRoot entity) path reached' progress')
    (hwalked : Walked (relatedRoot entity) path reached progress reached' progress') :
    Collected schema entity ignoreCase (entered ++ [path]) tested progress'.tracker progress'.fresh
      reached'.related where
  start := by
    rw [hwalked.related, hrelated, h.start]
  joined := hstands.joined
  tracked := by
    intro other
    rw [hwalked.tracked, htracker, h.tracked]
    simp only [List.mem_append, List.mem_singleton, or_and_right, exists_or, exists_eq_left,
      or_assoc]
  predicates := by
    rw [hwalked.related, hrelated]
    exact h.predicates.imp fun _ _ => StandsFor.mono (htracker ▸ hwalked.kept)

end Steps

/-! ## Columns -/

section Columns

variable {context : BuildContext} {entity : Entity} {field : FieldFilter} {done : List Present}
  {progress : Progress}

lemma columnOf_run {reached : Entity} {source : Source} {column : Column}
    (h : reached.column? (field.path.getLast?.getD "") = some column) :
    (columnOf field reached source).run progress =
      (.ok (ColumnRef.ofColumn source column), progress) := by
  simp only [columnOf, h, Build.run_pure]

/-- The column of a path of one segment, if there is one. -/
lemma rootColumn_of_column {schema : Schema} {column : Column} (hroot : field.path.length = 1)
    (hcolumn : schema.columnAt entity field.path = .ok column) (progress : Progress) :
    (rootColumn (.entity entity) field).run progress =
      (.ok (ColumnRef.ofColumn (.ofTable entity.table) column), progress) := by
  rw [Schema.columnAt_of_length_one hroot] at hcolumn
  cases hlast : entity.column? (field.path.getLast?.getD "") with
  | none => simp [hlast] at hcolumn
  | some found =>
      obtain rfl : found = column := by simpa [hlast] using hcolumn
      exact columnOf_run hlast

/-- The walk from the root of the subquery. -/
lemma stands_start {entered : List FieldPath} {tested : List Present}
    {tracker : JoinTracker Alias} {fresh : Nat} {related : Related} (events : List Event)
    (h : Collected context.schema entity context.ignoreCase entered tested tracker fresh related) :
    Stands context.schema (relatedRoot entity) [] ⟨related, ⟨related.root, related.entity⟩, entity⟩
      ⟨tracker, some related, fresh, events⟩ where
  joined := h.joined
  here := by
    rw [h.start]
    rfl
  entity := by
    rw [h.start]
    rfl

/-- A path over relationships is resolved in the subquery, whose prefixes are entered on the
way. -/
lemma relatedColumn_of_column (context : BuildContext) {column : Column}
    (h : Holding context.schema entity context.ignoreCase done progress)
    (hcolumn : context.schema.columnAt entity field.path = .ok column) :
    ∃ known tracker related fresh events,
      (relatedColumn context (.entity entity) field).run progress =
        (.ok (ColumnRef.ofColumn known.source column), ⟨tracker, some related, fresh, events⟩) ∧
      Collected context.schema entity context.ignoreCase
        ((relatedOnly done).map Present.behind ++ [field.path.dropLast]) (relatedOnly done)
        tracker fresh related ∧
      aliasAt? (relatedRoot entity) tracker field.path.dropLast = some known := by
  obtain ⟨related, fresh, hscope, hcollected⟩ := relatedScope_run h
  obtain ⟨target, hreach, htarget⟩ := Schema.columnAt_eq_ok.mp hcolumn
  obtain ⟨reached', ⟨tracker', related', fresh', events'⟩, hwalk, hstands', rfl, hwalked⟩ :=
    walk_of_reach field hreach (stands_start progress.events hcollected)
  rw [List.nil_append] at hstands' hwalked
  have hcollected' : Collected context.schema entity context.ignoreCase
      ((relatedOnly done).map Present.behind ++ [field.path.dropLast]) (relatedOnly done) tracker'
      fresh' reached'.related := by
    refine hcollected.walked ?_ ?_ hstands' hwalked <;> rfl
  refine ⟨reached'.here, tracker', reached'.related, fresh', events', ?_, hcollected',
    hstands'.here⟩
  simp only [relatedColumn, Build.run_bind, hscope, hwalk, Build.run_modify, columnOf_run htarget]

end Columns

/-! ## Operators -/

section Operators

variable {schema : Schema} {entity : Entity} {ignoreCase : Bool} {filters : Mapping}
  {field : FieldFilter} {declared : Value × String} {base statement : Statement}
  {done : List Present} {progress : Progress}

/-- What happened so far does not depend on what was reported. -/
lemma Built.report (h : Built schema entity ignoreCase base done statement progress)
    (events : List Event) :
    Built schema entity ignoreCase base done statement { progress with events := events } where
  conditions := h.conditions
  holding := by
    cases h.holding with
    | nothing hnone => exact .nothing hnone
    | subquery hsome hcollected => exact .subquery hsome hcollected

/-- One more condition of the statement. -/
lemma Built.addRoot (present : Present) {test : Predicate Column}
    (h : Built schema entity ignoreCase base done statement progress) (hroot : present.IsRoot)
    (htest : present.test schema entity ignoreCase = .ok test) :
    Built schema entity ignoreCase base (done ++ [present])
      (statement.filter
        (.test (test.map (ColumnRef.ofColumn (.ofTable entity.table))))) progress where
  conditions := by
    obtain ⟨added, rfl, hadded⟩ := h.conditions
    refine ⟨added ++ [.test (test.map (ColumnRef.ofColumn (.ofTable entity.table)))], ?_, ?_⟩
    · simp only [Statement.filter, List.append_assoc]
    · rw [rootOnly_append, (only_of_isRoot hroot).1]
      exact List.rel_append hadded (.cons ⟨test, htest, rfl⟩ .nil)
  holding := by
    have hsame : relatedOnly (done ++ [present]) = relatedOnly done := by
      rw [relatedOnly_append, (only_of_isRoot hroot).2, List.append_nil]
    cases h.holding with
    | nothing hnone => exact .nothing (hsame.trans hnone)
    | subquery hsome hcollected => exact .subquery (by rwa [hsame]) (by rwa [hsame])

/-- One more predicate of the subquery. -/
lemma Built.addRelated (present : Present) {test : Predicate Column} {known : Alias}
    {tracker : JoinTracker Alias} {related : Related} {fresh : Nat} (events : List Event)
    (h : Built schema entity ignoreCase base done statement progress) (hroot : ¬present.IsRoot)
    (htest : present.test schema entity ignoreCase = .ok test)
    (hcollected : Collected schema entity ignoreCase
      ((relatedOnly done).map Present.behind ++ [present.behind]) (relatedOnly done) tracker fresh
      related)
    (hknown : aliasAt? (relatedRoot entity) tracker present.behind = some known) :
    Built schema entity ignoreCase base (done ++ [present]) statement
      ⟨tracker, some { related with
        predicates := related.predicates ++ [test.map (ColumnRef.ofColumn known.source)] }, fresh,
        events⟩ where
  conditions := by
    rw [rootOnly_append, (only_of_not_isRoot hroot).1, List.append_nil]
    exact h.conditions
  holding := by
    have hmore : relatedOnly (done ++ [present]) = relatedOnly done ++ [present] := by
      rw [relatedOnly_append, (only_of_not_isRoot hroot).2]
    refine .subquery (by simp [hmore]) ?_
    rw [hmore, List.map_append, List.map_singleton]
    refine ⟨?_, hcollected.joined, hcollected.tracked, ?_⟩
    · rw [hcollected.start]
    · exact List.rel_append hcollected.predicates (.cons ⟨known, test, hknown, htest, rfl⟩ .nil)

/-- A condition on a column of a source is that on the column, referred to in the source. -/
lemma predicate_ofColumn {operator : Operator} {column : Column} {value : Value}
    {test : Predicate Column} (h : operator.predicate column value ignoreCase = .ok test)
    (source : Source) :
    operator.predicate (ColumnRef.ofColumn source column) value ignoreCase =
      .ok (test.map (ColumnRef.ofColumn source)) := by
  rw [Operator.predicate_map, h]
  rfl

/-- **An operator with a condition** adds it: to the statement on the root entity, else to the
subquery. -/
theorem applyOperator_of_test {present : Present} {test : Predicate Column}
    (h : Built schema entity ignoreCase base done statement progress)
    (hpresent : field.present? filters declared = some present)
    (htest : present.test schema entity ignoreCase = .ok test) :
    ∃ next after,
      (applyOperator ⟨schema, .mapping filters, ignoreCase⟩ (.entity entity) field declared
          statement).run progress = (.ok next, after) ∧
      Built schema entity ignoreCase base (done ++ [present]) next after := by
  obtain ⟨value, hfind, rfl⟩ := present?_eq_some.mp hpresent
  obtain ⟨operator, column, hoperator, hcolumn, hpredicate⟩ := Present.test_eq_ok.mp htest
  by_cases hroot : field.path.length = 1
  · refine ⟨_, { progress with
      events := progress.events ++ [.applied field.name operator declared.2] }, ?_,
      (h.addRoot ⟨field.path, declared.1, value⟩ hroot htest).report _⟩
    rw [applyOperator_root _ _ _ hfind hoperator hroot]
    simp only [Build.run_bind, rootColumn_of_column hroot hcolumn, predicate_ofColumn hpredicate,
      Except.mapError, Build.run_liftExcept, run_report, Build.run_pure]
  · obtain ⟨known, tracker, related, fresh, events, hrun, hcollected, hknown⟩ :=
      relatedColumn_of_column ⟨schema, .mapping filters, ignoreCase⟩ h.holding hcolumn
    refine ⟨_, _, ?_, h.addRelated ⟨field.path, declared.1, value⟩
      (events ++ [.applied field.name operator declared.2]) hroot htest hcollected hknown⟩
    rw [applyOperator_related _ _ _ hfind hoperator hroot]
    simp only [Build.run_bind, hrun, predicate_ofColumn hpredicate, Except.mapError,
      Build.run_liftExcept, addRelated, Build.run_modify, Option.map_some, run_report,
      Build.run_pure]

/-- **An operator with a fault** ends the build with it. -/
theorem applyOperator_of_fault {present : Present} {fault : BuildFault}
    (h : Built schema entity ignoreCase base done statement progress)
    (hpresent : field.present? filters declared = some present)
    (htest : present.test schema entity ignoreCase = .error fault) :
    ∃ after,
      (applyOperator ⟨schema, .mapping filters, ignoreCase⟩ (.entity entity) field declared
          statement).run progress = (.error fault, after) := by
  have hcheck : Present.checkAll schema entity ignoreCase [present] = .error fault := by
    rw [Present.checkAll, htest]
  have hfails : ComesOutAs schema entity (Present.checkAll schema entity ignoreCase [present]) _
      (applyOperator ⟨schema, .mapping filters, ignoreCase⟩ (.entity entity) field declared
        statement) :=
    applyOperator_comesOutAs_of_present field hpresent statement
  exact ⟨_, Prod.ext ((hfails.error_iff h.holding.leads fault).mpr hcheck) rfl⟩

end Operators

end FilterQuery
