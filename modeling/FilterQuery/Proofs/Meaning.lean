import Mathlib.Data.List.Forall2
import Mathlib.Tactic.Common
import FilterQuery.Proofs.Runs
import FilterQuery.Proofs.Sources

/-!
# What a built query means

Which rows a built query keeps, said without statements, joins and aliases.

**The meaning.**  `Assigns` gives a row to each relationship prefix of the present operators, every
one related to the row of the prefix before it.  `Meets` is what is asked of a row: the conditions
on the row itself, and one such assignment of related rows under which all other conditions hold.

**The subquery.**  `exists_holds_iff`: the subquery that was collected is true of a row exactly
if there is such an assignment for a row with the same key.  The two directions are the soundness and
the completeness of the joins.  Where keys tell rows apart, the row with the same key is the row itself:
`reaches_iff`.

**The statement.**  `scope_of_built`: a built statement selects of its base what meets the present
operators; `scope_of_built_passes` says so of any database.
-/

namespace FilterQuery

open FilterQuery.Sql

/-! ## The meaning -/

/-- The primary key of an entity tells its rows apart, and each of its cells equals itself. -/
structure Sql.Database.KeysTell (database : Database) (entity : Entity) : Prop where
  same : ∀ row ∈ database.rows entity.table, ∀ column ∈ entity.keyColumns,
    (row.cell column.name).equal? (row.cell column.name) = some true
  apart : ∀ row ∈ database.rows entity.table, ∀ other ∈ database.rows entity.table,
    (∀ column ∈ entity.keyColumns,
      (row.cell column.name).equal? (other.cell column.name) = some true) → row = other

/-- A prefix of the path of some operator. -/
def IsPrefixOf (path : FieldPath) (tested : List Present) : Prop :=
  ∃ present ∈ tested, path <+: present.behind

section Meaning

variable (database : Database) (entity : Entity) (ignoreCase : Bool)

/-- Rows for all prefixes, under which the operators on related rows hold: the row itself for the
empty prefix, a related row for each longer one. -/
structure Assigns (tested : List Present) (row : Row) (rows : FieldPath → Row) : Prop where
  root : rows [] = row
  follows : ∀ behind segment, IsPrefixOf (behind ++ [segment]) tested →
    Follows database entity rows behind segment
  holds : ∀ present ∈ tested, present.Holds database.schema entity ignoreCase (rows present.behind)

/-- Some row with the same key has related rows under which the operators hold. -/
def Reaches (tested : List Present) (row : Row) : Prop :=
  ∃ rows, rows [] ∈ database.rows entity.table ∧
    (∀ column ∈ entity.keyColumns,
      ((rows []).cell column.name).equal? (row.cell column.name) = some true) ∧
    Assigns database entity ignoreCase tested (rows []) rows

/-- A row passes present operators: those on the root entity hold of the row itself, the others of
related rows of a row with its key. -/
def Passes (all : List Present) (row : Row) : Prop :=
  (∀ present ∈ rootOnly all, present.Holds database.schema entity ignoreCase row) ∧
    (relatedOnly all ≠ [] → Reaches database entity ignoreCase (relatedOnly all) row)

/-- A row meets present operators: those on the root entity hold of the row itself, and if there are
others they hold under one assignment of related rows. -/
def Meets (all : List Present) (row : Row) : Prop :=
  (∀ present ∈ rootOnly all, present.Holds database.schema entity ignoreCase row) ∧
    (relatedOnly all ≠ [] → ∃ rows, Assigns database entity ignoreCase (relatedOnly all) row rows)

end Meaning

/-! ## The subquery -/

/-- Facts about the things in a list, carried over to what they stand for. -/
lemma forall_iff_of_forall₂ {α β : Type} {R : α → β → Prop} {P : α → Prop} {Q : β → Prop}
    {list : List α} {other : List β} (h : List.Forall₂ R list other)
    (hiff : ∀ a b, R a b → (P a ↔ Q b)) : (∀ a ∈ list, P a) ↔ ∀ b ∈ other, Q b := by
  induction h with
  | nil => simp
  | cons hab _ ih => rw [List.forall_mem_cons, List.forall_mem_cons, hiff _ _ hab, ih]

section Subquery

variable {database : Database} {entity : Entity} {ignoreCase : Bool} {tested : List Present}
  {tracker : JoinTracker Alias} {fresh : Nat} {related : Related}

/-- A condition holds of a row exactly if it is true of it, in whatever source the row is. -/
lemma holds_iff {present : Present} {test : Predicate Column} {schema : Schema}
    (htest : present.test schema entity ignoreCase = .ok test) (assignment : Assignment)
    (source : Source) :
    (test.map (ColumnRef.ofColumn source)).holds assignment = true ↔
      present.Holds schema entity ignoreCase (assignment.row source) := by
  rw [Predicate.holds_map_ofColumn, Present.Holds, htest]
  simp

/-- Whatever a predicate speaks of is the alias of a prefix. -/
lemma Collected.column_mem_joinedSources {entered : List FieldPath} {schema : Schema}
    (h : Collected schema entity ignoreCase entered tested tracker fresh related) :
    ∀ predicate ∈ related.predicates, predicate.column.source ∈ related.joinedSources := by
  have hroot : related.root = (relatedRoot entity).source := by
    rw [h.start]
    rfl
  refine (forall_iff_of_forall₂ (P := fun _ => True) h.predicates ?_).mp fun _ _ => trivial
  rintro present predicate ⟨known, test, hknown, htest, rfl⟩
  have hmem := h.joined.mem_joinSources hknown
  simpa [Predicate.column_map, ColumnRef.ofColumn, Related.joinedSources, hroot] using hmem

/-- The subquery brings in no source of its own where the entity occurs outside. -/
lemma Collected.ownSources_eq_nil {entered : List FieldPath} {schema : Schema}
    (h : Collected schema entity ignoreCase entered tested tracker fresh related)
    {outside : List Source} (houtside : Source.ofTable entity.table ∈ outside) :
    related.ownSources outside = [] := by
  have hroot : related.root = (relatedRoot entity).source := by
    rw [h.start]
    rfl
  have hcorrelation : related.correlation =
      (Related.start entity (relatedRoot entity).source).correlation := by
    rw [h.start]
  have hspoken : ∀ source ∈ related.spokenSources, source = Source.ofTable entity.table := by
    intro source hsource
    simp only [Related.spokenSources, List.mem_filter, mem_addSources, List.not_mem_nil,
      false_or, List.mem_append, List.mem_map, List.mem_flatMap, List.mem_cons, or_false,
      hcorrelation, Related.start, exists_exists_and_eq_and] at hsource
    obtain ⟨⟨column, hcolumn, rfl | rfl⟩ | ⟨predicate, hpredicate, rfl⟩, hnot⟩ := hsource
    · simp [Related.joinedSources, joinSources, hroot] at hnot
    · rfl
    · simp [h.column_mem_joinedSources predicate hpredicate] at hnot
  rw [Related.ownSources, List.filter_eq_nil_iff]
  intro source hsource
  simp [hspoken source hsource, houtside]

/-- The key columns inside are equal to those outside. -/
lemma agrees_correlation_iff {inner : Assignment} :
    inner.agrees (Related.start entity (relatedRoot entity).source).correlation = true ↔
      ∀ column ∈ entity.keyColumns, ((inner.row (relatedRoot entity).source).cell column.name).equal?
        ((inner.row (.ofTable entity.table)).cell column.name) = some true := by
  rw [Assignment.agrees_iff]
  simp only [Related.start, List.forall_mem_map]

/-- Where keys tell rows apart, a row with the same key is the row itself. -/
lemma reaches_iff (hkeys : database.KeysTell entity) {row : Row}
    (hrow : row ∈ database.rows entity.table) :
    Reaches database entity ignoreCase tested row ↔
      ∃ rows, Assigns database entity ignoreCase tested row rows := by
  constructor
  · rintro ⟨rows, hinside, hkey, hassigns⟩
    obtain rfl : rows [] = row := hkeys.apart _ hinside _ hrow hkey
    exact ⟨rows, hassigns⟩
  · rintro ⟨rows, hassigns⟩
    obtain rfl := hassigns.root
    exact ⟨rows, hrow, hkeys.same _ hrow, hassigns⟩

/-- What is inside the subquery: ways through its joins that agree with the row outside and make its
predicates true. -/
lemma exists_holds_iff_chain (h : Collected database.schema entity ignoreCase
      (tested.map Present.behind) tested tracker fresh related)
    {outside : List Source} (houtside : Source.ofTable entity.table ∈ outside)
    (assignment : Assignment) :
    Condition.holds database outside assignment (.exists related) = true ↔
      ∃ inner ∈ database.chain [assignment] (relatedRoot entity).source related.joins,
        inner.agrees (Related.start entity (relatedRoot entity).source).correlation = true ∧
        ∀ predicate ∈ related.predicates, predicate.holds inner = true := by
  have hroot : related.root = (relatedRoot entity).source := by
    rw [h.start]
    rfl
  have hcorrelation : related.correlation =
      (Related.start entity (relatedRoot entity).source).correlation := by
    rw [h.start]
  simp only [Condition.holds, Related.matching, h.ownSources_eq_nil houtside, Database.extendAll,
    List.foldl_nil, hroot, hcorrelation, Bool.not_eq_true', List.isEmpty_eq_false_iff_exists_mem,
    List.mem_filter, Bool.and_eq_true, List.all_eq_true]

/-- The predicates of the subquery are true exactly if the operators hold of the rows of their
prefixes. -/
lemma Collected.predicates_hold_iff {entered : List FieldPath} {schema : Schema}
    (h : Collected schema entity ignoreCase entered tested tracker fresh related)
    (inner : Assignment) :
    (∀ predicate ∈ related.predicates, predicate.holds inner = true) ↔
      ∀ present ∈ tested, present.Holds schema entity ignoreCase
        (rowsAt (relatedRoot entity) tracker inner present.behind) := by
  refine (forall_iff_of_forall₂ h.predicates ?_).symm
  rintro present predicate ⟨known, test, hknown, htest, rfl⟩
  rw [rowsAt_of_alias hknown, holds_iff htest]

/-- **The subquery.**  It is true of a row exactly if for some row with its key related rows can be
assigned to all prefixes so that the operators hold. -/
theorem exists_holds_iff (h : Collected database.schema entity ignoreCase
      (tested.map Present.behind) tested tracker fresh related)
    {outside : List Source} (houtside : Source.ofTable entity.table ∈ outside)
    (assignment : Assignment) :
    Condition.holds database outside assignment (.exists related) = true ↔
      Reaches database entity ignoreCase tested (assignment.row (.ofTable entity.table)) := by
  have htracked : ∀ behind segment, (tracker.alias? (behind ++ [segment])).isSome ↔
      IsPrefixOf (behind ++ [segment]) tested := by
    intro behind segment
    rw [← aliasAt?_concat (relatedRoot entity), h.tracked]
    simp [IsPrefixOf]
  have hitself : ∀ inner ∈ database.chain [assignment] (relatedRoot entity).source related.joins,
      inner.row (.ofTable entity.table) = assignment.row (.ofTable entity.table) := by
    intro inner hinner
    rw [Assignment.row, h.joined.lookup_of_mem_chain hinner (by simp [Source.ofTable]),
      Assignment.row]
  rw [exists_holds_iff_chain h houtside]
  constructor
  · rintro ⟨inner, hinner, hagree, hpredicates⟩
    have hroot : rowsAt (relatedRoot entity) tracker inner [] =
        inner.row (relatedRoot entity).source := rowsAt_of_alias (aliasAt?_nil ..) inner
    refine ⟨rowsAt (relatedRoot entity) tracker inner, ?_, ?_, rfl, ?_, ?_⟩
    · rw [hroot]
      exact h.joined.root_mem_of_mem_chain hinner
    · rw [hroot, ← hitself inner hinner]
      exact agrees_correlation_iff.mp hagree
    · intro behind segment hsub
      exact h.joined.follows_of_mem_chain hinner ((htracked behind segment).mpr hsub)
    · exact (h.predicates_hold_iff inner).mp hpredicates
  · rintro ⟨rows, hstart, hkey, hassigns⟩
    have hfollows : ∀ behind segment, (tracker.alias? (behind ++ [segment])).isSome →
        Follows database (relatedRoot entity).entity rows behind segment :=
      fun behind segment hsome => hassigns.follows behind segment ((htracked _ _).mp hsome)
    obtain ⟨inner, hinner, hrows⟩ :
        ∃ inner ∈ database.chain [assignment] (relatedRoot entity).source related.joins,
          ∀ path known, aliasAt? (relatedRoot entity) tracker path = some known →
            inner.row known.source = rows path := h.joined.exists_mem_chain hstart hfollows
    refine ⟨inner, hinner, ?_, ?_⟩
    · rw [agrees_correlation_iff, hitself inner hinner, hrows [] _ (aliasAt?_nil ..)]
      exact hkey
    · rw [h.predicates_hold_iff]
      intro present hpresent
      obtain ⟨known, hknown⟩ := Option.isSome_iff_exists.mp ((h.tracked present.behind).mpr
        (Or.inr ⟨_, List.mem_map_of_mem hpresent, List.prefix_refl _⟩))
      rw [rowsAt_of_alias hknown, hrows _ _ hknown]
      exact hassigns.holds present hpresent

end Subquery

/-! ## The statement -/

section Statement

variable {database : Database} {entity : Entity} {ignoreCase : Bool} {base statement : Statement}
  {all : List Present} {progress : Progress}

/-- The conditions on the root entity are true exactly if the operators hold of its row. -/
lemma conditions_hold_iff {schema : Schema} {done : List Present} {added : List Condition}
    (h : List.Forall₂ (RootCondition schema entity ignoreCase) done added) (outside : List Source)
    (assignment : Assignment) :
    (∀ condition ∈ added, condition.holds database outside assignment = true) ↔
      ∀ present ∈ done, present.Holds schema entity ignoreCase
        (assignment.row (.ofTable entity.table)) := by
  refine (forall_iff_of_forall₂ h ?_).symm
  rintro present condition ⟨test, htest, rfl⟩
  rw [Condition.holds, holds_iff htest]

/-- The conditions on the root entity speak of its table. -/
lemma source_of_conditions {schema : Schema} {done : List Present} {added : List Condition}
    (h : List.Forall₂ (RootCondition schema entity ignoreCase) done added) :
    ∀ source ∈ conditionSources added, source = Source.ofTable entity.table := by
  induction h with
  | nil => simp [conditionSources]
  | @cons present condition done added hfirst _ ih =>
      obtain ⟨test, -, rfl⟩ := hfirst
      intro source hsource
      simp only [conditionSources, List.flatMap_cons, List.mem_append, List.mem_singleton,
        Predicate.column_map] at hsource
      rcases hsource with rfl | hsource
      · rfl
      · exact ih source hsource

/-- Conditions on the root entity bring in no source. -/
lemma Sql.Statement.Over.speaks (hover : base.Over entity) {conditions : List Condition}
    (h : ∀ source ∈ conditionSources conditions, source = Source.ofTable entity.table) :
    ∀ source ∈ conditionSources conditions, source ∈ base.sources := by
  intro source hsource
  rw [h source hsource]
  exact hover.occurs

/-- A subquery is one condition more, behind those that were added. -/
lemma withRelated_added (base : Statement) (added : List Condition) (related : Option Related) :
    withRelated { base with conditions := base.conditions ++ added } related =
      base.withConditions (added ++ (related.map Condition.exists).toList) := by
  cases related with
  | none => simp [withRelated, Statement.withConditions]
  | some related => simp [withRelated, Statement.filter, Statement.withConditions]

/-- A subquery brings in no source, either. -/
lemma conditionSources_related (related : Option Related) :
    conditionSources (related.map Condition.exists).toList = [] := by
  cases related with
  | none => rfl
  | some related => rfl

/-- What a built statement has besides its base: conditions that bring in no source. -/
lemma Built.withRelated_eq {schema : Schema}
    (h : Built schema entity ignoreCase base all statement progress) :
    ∃ added, withRelated statement progress.related = base.withConditions added ∧
      ∀ source ∈ conditionSources added, source = .ofTable entity.table := by
  obtain ⟨added, rfl, hadded⟩ := h.conditions
  refine ⟨_, withRelated_added base added progress.related, ?_⟩
  rw [conditionSources_append, conditionSources_related, List.append_nil]
  exact source_of_conditions hadded

/-- What is built over an entity is over it, too. -/
lemma Built.over {schema : Schema} (h : Built schema entity ignoreCase base all statement progress)
    (hover : base.Over entity) : (withRelated statement progress.related).Over entity := by
  obtain ⟨added, hrelated, -⟩ := h.withRelated_eq
  rw [hrelated]
  exact hover.withConditions added

open scoped Classical in
/-- **The statement.**  A built statement selects of its base the assignments whose row of the root
entity passes the present operators. -/
theorem scope_of_built_passes
    (h : Built database.schema entity ignoreCase base all statement progress)
    (hover : base.Over entity) :
    (withRelated statement progress.related).scope database =
      (base.scope database).filter fun assignment =>
        Passes database entity ignoreCase all (assignment.row (.ofTable entity.table)) := by
  obtain ⟨added, rfl, hadded⟩ := h.conditions
  have hspoken := source_of_conditions hadded
  cases h.holding with
  | @nothing events hnone =>
      have hscope := Statement.scope_withConditions database (hover.speaks hspoken)
      refine hscope.trans (List.filter_congr fun assignment _ => ?_)
      rw [Bool.eq_iff_iff, List.all_eq_true, conditions_hold_iff hadded, decide_eq_true_eq, Passes]
      simp [hnone]
  | @subquery tracker related fresh events hsome hcollected =>
      have hmore : ∀ source ∈ conditionSources (added ++ [.exists related]),
          source = Source.ofTable entity.table := by
        simpa [conditionSources_append, conditionSources] using hspoken
      rw [withRelated_added, Option.map_some, Option.toList_some,
        Statement.scope_withConditions database (hover.speaks hmore)]
      refine List.filter_congr fun assignment _ => ?_
      rw [Bool.eq_iff_iff, List.all_append, Bool.and_eq_true, List.all_eq_true,
        conditions_hold_iff hadded, List.all_cons, List.all_nil, Bool.and_true,
        exists_holds_iff hcollected hover.occurs, decide_eq_true_eq, Passes]
      simp [hsome]

/-- Where keys tell rows apart, a row passes exactly what it meets. -/
lemma passes_iff_meets (hkeys : database.KeysTell entity) {row : Row}
    (hrow : row ∈ database.rows entity.table) :
    Passes database entity ignoreCase all row ↔ Meets database entity ignoreCase all row := by
  rw [Passes, Meets, reaches_iff hkeys hrow]

open scoped Classical in
/-- Where keys tell rows apart, these are the assignments whose row meets the present operators. -/
theorem scope_of_built
    (h : Built database.schema entity ignoreCase base all statement progress)
    (hover : base.Over entity) (hkeys : database.KeysTell entity) :
    (withRelated statement progress.related).scope database =
      (base.scope database).filter fun assignment =>
        Meets database entity ignoreCase all (assignment.row (.ofTable entity.table)) := by
  rw [scope_of_built_passes h hover]
  refine List.filter_congr fun assignment hassignment => ?_
  have hrow := row_mem_of_mem_candidates (List.mem_filter.mp hassignment).1 hover.occurs
  rw [decide_eq_decide]
  exact passes_iff_meets hkeys hrow

end Statement

end FilterQuery
