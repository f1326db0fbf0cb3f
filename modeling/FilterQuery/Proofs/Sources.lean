import Mathlib.Tactic.Common
import FilterQuery.Scope
import FilterQuery.Sql.Database

/-!
# Sources of a statement

A statement does not list its sources; they are found in its joins, in what it selects and in what
its conditions speak of.  A condition can thus bring in a table, and with it all rows of that table.
This file says when it does not.

**Rows.**  `row_mem_of_mem_candidates` and `lookup_eq_none_of_mem_candidates`: an assignment gives to
every source of the statement a row of its table, and to others none.  Both are kept by each row
that is added (`IsKept`).

**Conditions.**  `Statement.Over` is a statement over the rows of an entity.  Conditions on the
entity itself change neither its sources nor its candidates, so that they only filter:
`scope_withConditions`.

**Base statements.**  `Composed.over`: `Statement.Over` holds of whatever is put together by selecting,
joining, filtering and ordering (`Statement.Composed`).
-/

namespace FilterQuery.Sql

/-! ## Rows -/

section Rows

variable {database : Database}

/-- Something that is true of assignments and the sources they are for, and stays true whenever a row
of its table is added for a source. -/
structure IsKept (database : Database) (P : List Source → Assignment → Prop) : Prop where
  nil : P [] []
  cons : ∀ {known : List Source} {assignment : Assignment} {added : Source} {row : Row},
    P known assignment → row ∈ database.rows added.table →
    P (known ++ [added]) ((added, row) :: assignment)

namespace IsKept

variable {P : List Source → Assignment → Prop} {known : List Source}
  {assignments : List Assignment}

lemma extendAll (hP : IsKept database P) {sources : List Source}
    (h : ∀ assignment ∈ assignments, P known assignment) :
    ∀ assignment ∈ database.extendAll assignments sources, P (known ++ sources) assignment := by
  induction sources generalizing known assignments with
  | nil => simpa [Database.extendAll] using h
  | cons source rest ih =>
      rw [List.append_cons, Database.extendAll, List.foldl_cons]
      refine ih ?_
      intro extended hextended
      simp only [Database.extend, List.mem_flatMap, List.mem_map] at hextended
      obtain ⟨assignment, hassignment, row, hrow, rfl⟩ := hextended
      exact hP.cons (h assignment hassignment) hrow

lemma joins (hP : IsKept database P) {joins : List Join}
    (h : ∀ assignment ∈ assignments, P known assignment) :
    ∀ assignment ∈ joins.foldl database.join assignments,
      P (known ++ joins.map Join.target) assignment := by
  induction joins generalizing known assignments with
  | nil => simpa using h
  | cons join rest ih =>
      rw [List.map_cons, List.append_cons, List.foldl_cons]
      refine ih ?_
      intro joined hjoined
      simp only [Database.join, Database.extend, List.mem_filter, List.mem_flatMap,
        List.mem_map] at hjoined
      obtain ⟨⟨assignment, hassignment, row, hrow, rfl⟩, -⟩ := hjoined
      exact hP.cons (h assignment hassignment) hrow

/-- It is true of all candidates. -/
lemma candidates (hP : IsKept database P) {statement : Statement} {assignment : Assignment}
    (h : assignment ∈ statement.candidates database) : P statement.sources assignment := by
  have hempty : ∀ assignment ∈ [([] : Assignment)], P [] assignment := by
    intro assignment hassignment
    rw [List.mem_singleton.mp hassignment]
    exact hP.nil
  rw [Statement.candidates] at h
  rw [Statement.sources]
  cases hjoins : statement.joins with
  | none =>
      simp only [hjoins] at h
      exact hP.extendAll hempty assignment h
  | some start =>
      obtain ⟨first, joins⟩ := start
      simp only [hjoins] at h
      have hfirst : ∀ assignment ∈ database.extendAll [[]] [first], P [first] assignment :=
        hP.extendAll hempty
      exact hP.extendAll (hP.joins hfirst) assignment h

end IsKept

/-- Every candidate gives to every source of the statement a row of its table. -/
lemma row_mem_of_mem_candidates {statement : Statement} {assignment : Assignment}
    (h : assignment ∈ statement.candidates database) {source : Source}
    (hsource : source ∈ statement.sources) :
    assignment.row source ∈ database.rows source.table := by
  have hkept : IsKept database fun known assignment =>
      ∀ source ∈ known, assignment.row source ∈ database.rows source.table := by
    refine ⟨fun _ hmem => (List.not_mem_nil hmem).elim, ?_⟩
    intro known assignment added row hknown hrow source hsource
    by_cases he : source = added
    · subst he
      simpa [Assignment.row] using hrow
    · have hold : source ∈ known := by simpa [he] using hsource
      have hsame : Assignment.row ((added, row) :: assignment) source = assignment.row source := by
        simp [Assignment.row, List.lookup_cons, beq_false_of_ne he]
      rw [hsame]
      exact hknown source hold
  exact hkept.candidates h source hsource

/-- A candidate has rows for no other sources. -/
lemma lookup_eq_none_of_mem_candidates {statement : Statement} {assignment : Assignment}
    (h : assignment ∈ statement.candidates database) {source : Source}
    (hsource : source ∉ statement.sources) : List.lookup source assignment = none := by
  have hkept : IsKept database fun known assignment =>
      ∀ source, source ∉ known → List.lookup source assignment = none := by
    refine ⟨fun _ _ => rfl, ?_⟩
    intro known assignment added row hknown _ source hsource
    rw [List.mem_append, List.mem_singleton, not_or] at hsource
    rw [List.lookup_cons, beq_false_of_ne hsource.2]
    exact hknown source hsource.1
  exact hkept.candidates h source hsource

end Rows

/-! ## Conditions -/

lemma conditionSources_append (conditions more : List Condition) :
    conditionSources (conditions ++ more) =
      conditionSources conditions ++ conditionSources more := by
  simp [conditionSources]

lemma addSources_append (known more others : List Source) :
    addSources known (more ++ others) = addSources (addSources known more) others := by
  simp [addSources]

/-- What is added is there, and nothing else besides what was there before. -/
lemma mem_addSources {source : Source} {more : List Source} :
    ∀ {known : List Source}, source ∈ addSources known more ↔ source ∈ known ∨ source ∈ more := by
  induction more with
  | nil => simp [addSources]
  | cons added rest ih =>
      intro known
      rw [← List.singleton_append, addSources_append, ih]
      by_cases hadded : added ∈ known
      · have hsame : addSources known [added] = known := by simp [addSources, hadded]
        rw [hsame, List.mem_append, List.mem_singleton]
        constructor
        · rintro (h | h)
          · exact Or.inl h
          · exact Or.inr (Or.inr h)
        · rintro (h | rfl | h)
          · exact Or.inl h
          · exact Or.inl hadded
          · exact Or.inr h
      · have hmore : addSources known [added] = known ++ [added] := by simp [addSources, hadded]
        rw [hmore, List.mem_append, List.mem_append, or_assoc]

/-- Sources that are known, or that do not count, add nothing. -/
lemma filter_addSources {counts : Source → Bool} {more : List Source} :
    ∀ {known : List Source}, (∀ source ∈ more, source ∈ known ∨ counts source = false) →
      (addSources known more).filter counts = known.filter counts := by
  induction more with
  | nil => simp [addSources]
  | cons source rest ih =>
      intro known h
      rw [← List.singleton_append, addSources_append]
      by_cases hknown : source ∈ known
      · have hsame : addSources known [source] = known := by simp [addSources, hknown]
        rw [hsame]
        exact ih fun other hother => h other (List.mem_cons_of_mem _ hother)
      · have hmore : addSources known [source] = known ++ [source] := by
          simp [addSources, hknown]
        have hcounts : counts source = false :=
          (h source List.mem_cons_self).resolve_left hknown
        rw [hmore, ih, List.filter_append]
        · simp [hcounts]
        · intro other hother
          rcases h other (List.mem_cons_of_mem _ hother) with hmem | hnot
          · exact Or.inl (List.mem_append_left _ hmem)
          · exact Or.inr hnot

/-- Sources that are known add nothing. -/
lemma addSources_of_subset {known more : List Source} (h : more ⊆ known) :
    addSources known more = known := by
  induction more with
  | nil => rfl
  | cons source rest ih =>
      obtain ⟨hsource, hrest⟩ := List.cons_subset.mp h
      rw [← List.singleton_append, addSources_append]
      have hsame : addSources known [source] = known := by simp [addSources, hsource]
      rw [hsame, ih hrest]

namespace Statement

/-- The statement with more conditions behind its own. -/
def withConditions (statement : Statement) (more : List Condition) : Statement :=
  { statement with conditions := statement.conditions ++ more }

variable {statement : Statement} {more : List Condition}

/-- Conditions that speak of no new source bring in none. -/
lemma leadingSources_withConditions
    (h : ∀ source ∈ conditionSources more, source ∈ statement.sources) :
    (statement.withConditions more).leadingSources = statement.leadingSources := by
  simp only [leadingSources, withConditions, conditionSources_append, ← List.append_assoc]
  cases hjoins : statement.joins with
  | none =>
      simp only
      rw [addSources_append]
      refine addSources_of_subset fun source hsource => ?_
      simpa only [sources, leadingSources, hjoins] using h source hsource
  | some start =>
      obtain ⟨first, joins⟩ := start
      simp only [List.cons.injEq, true_and]
      rw [addSources_append]
      refine filter_addSources fun source hsource => ?_
      have hmem := h source hsource
      simp only [sources, leadingSources, hjoins, List.drop_one, List.tail_cons,
        List.mem_append, List.mem_filter] at hmem
      rcases hmem with hjoined | ⟨hleading, -⟩
      · exact Or.inr (by simpa using hjoined)
      · exact Or.inl hleading

/-- Nor do they change the sources of the statement. -/
lemma sources_withConditions
    (h : ∀ source ∈ conditionSources more, source ∈ statement.sources) :
    (statement.withConditions more).sources = statement.sources := by
  rw [sources]
  rw [leadingSources_withConditions h]
  rfl

/-- Nor its candidates. -/
lemma candidates_withConditions (database : Database)
    (h : ∀ source ∈ conditionSources more, source ∈ statement.sources) :
    (statement.withConditions more).candidates database = statement.candidates database := by
  rw [candidates]
  rw [leadingSources_withConditions h]
  rfl

/-- **Conditions filter.**  Those that speak of no new source keep of what the statement selects
the assignments of which they are true. -/
theorem scope_withConditions (database : Database)
    (h : ∀ source ∈ conditionSources more, source ∈ statement.sources) :
    (statement.withConditions more).scope database =
      (statement.scope database).filter fun assignment =>
        more.all (Condition.holds database statement.sources assignment) := by
  simp only [scope]
  rw [candidates_withConditions database h, sources_withConditions h, List.filter_filter]
  refine List.filter_congr fun assignment _ => ?_
  simp only [withConditions, List.all_append, Bool.and_comm]

/-- An ordering changes nothing but the order. -/
lemma order_of_orderBy {clauses : List OrderClause} {next : Statement}
    (h : statement.orderBy clauses = .ok next) : ∃ order, next = { statement with order := order } := by
  rw [orderBy] at h
  cases hterms : clauses.mapM OrderClause.term with
  | error fault => simp [hterms, bind, Except.bind] at h
  | ok terms =>
      simp only [hterms, bind, Except.bind, pure, Except.pure] at h
      split at h
      · exact ⟨[], (Except.ok.inj h).symm⟩
      · exact ⟨_, (Except.ok.inj h).symm⟩

/-- Terms are added to the order.  The empty value alone is none: it takes the order away. -/
lemma orderBy_of_terms {clauses : List OrderClause} {terms : List OrderTerm}
    (hterms : clauses.mapM OrderClause.term = .ok terms) (hnull : terms ≠ [.null]) :
    statement.orderBy clauses = .ok { statement with order := statement.order ++ terms } := by
  rw [orderBy, hterms]
  simp only [bind, Except.bind, pure, Except.pure]

/-- An empty ordering changes nothing. -/
lemma orderBy_nil (statement : Statement) : statement.orderBy [] = .ok statement := by
  simp [Statement.orderBy, pure, Except.pure, bind, Except.bind]

/-! ## Base statements -/

/-- The sources of a statement are those that are joined, selected or spoken of. -/
lemma mem_sources {source : Source} :
    source ∈ statement.sources ↔
      (∃ first joins, statement.joins = some (first, joins) ∧ source ∈ joinSources first joins) ∨
        source ∈ statement.selected.map Selected.source ∨
        source ∈ conditionSources statement.conditions := by
  rw [sources, leadingSources]
  cases hjoins : statement.joins with
  | none => simp [mem_addSources]
  | some start =>
      obtain ⟨first, joins⟩ := start
      simp only [List.drop_one, List.tail_cons, List.mem_append, List.mem_filter, mem_addSources,
        List.not_mem_nil, false_or, Option.some.injEq, Prod.mk.injEq, exists_and_left,
        exists_eq_left', and_assoc]
      by_cases hjoined : source ∈ joinSources first joins <;> simp [hjoined]

/-- Conditions bring in what they speak of, and nothing else. -/
lemma mem_sources_withConditions {source : Source} :
    source ∈ (statement.withConditions more).sources ↔
      source ∈ statement.sources ∨ source ∈ conditionSources more := by
  simp only [mem_sources, withConditions, conditionSources_append, List.mem_append, or_assoc]

variable {schema : Schema} {entity : Entity} {next : Statement}

/-- Joining along a relationship changes the joins and nothing else. -/
lemma eq_of_joinAlong {name : String} (h : statement.joinAlong schema name = .ok next) :
    ∃ joins, next = { statement with joins := joins } := by
  rw [Statement.joinAlong] at h
  simp only at h
  split at h <;> cases h
  exact ⟨_, rfl⟩

/-- A condition on a field is one condition more and nothing else. -/
lemma eq_of_filterBy {name : String} {operator : Operator} {value : Value}
    (h : statement.filterBy schema name operator value = .ok next) :
    ∃ owner column predicate, schema.field? name = some (owner, column) ∧
      operator.predicate column value true = .ok predicate ∧
      next = statement.withConditions [.test predicate] := by
  rw [Statement.filterBy] at h
  split at h
  · cases h
  · rename_i owner column hfield
    cases hpredicate : operator.predicate column value true with
    | error fault => simp [hpredicate, Except.mapError, bind, Except.bind] at h
    | ok predicate =>
        simp only [hpredicate, Except.mapError, bind, Except.bind, pure, Except.pure,
          Except.ok.injEq] at h
        exact ⟨owner, column, predicate, hfield, hpredicate, h.symm⟩

/-- A statement over the rows of an entity: the entity is its root, and occurs under the name of its
table. -/
structure Over (entity : Entity) (statement : Statement) : Prop where
  root : statement.root = .entity entity
  occurs : Source.ofTable entity.table ∈ statement.sources

namespace Over

/-- A field is a column of the table of its entity. -/
lemma source_of_field {name : String} {owner : Entity} {column : ColumnRef}
    (h : schema.field? name = some (owner, column)) : column.source = .ofTable owner.table := by
  rw [Schema.field?] at h
  split at h
  · simp only [Option.bind_eq_bind, Option.bind_eq_some_iff, Option.pure_def, Option.some.injEq,
      Prod.mk.injEq] at h
    obtain ⟨found, -, column, -, rfl, rfl⟩ := h
    rfl
  · cases h

/-- A thing is selected from the table of its entity. -/
lemma source_of_selected {name : String} {thing : Selected}
    (h : Selection.selected schema name = .ok thing) :
    thing.source = .ofTable thing.owner.table := by
  rw [Selection.selected] at h
  split at h
  · cases h
    rfl
  · rename_i hfield
    cases h
    exact source_of_field hfield
  · cases h

/-- Selecting entities and columns is selecting over the entity of the first of them. -/
lemma of_columns {names : List String}
    (h : (Selection.columns names).statement schema = .ok statement)
    (hroot : statement.root = .entity entity) : Over entity statement := by
  refine ⟨hroot, mem_sources.mpr (Or.inr (Or.inl ?_))⟩
  simp only [Selection.statement] at h
  cases names with
  | nil =>
      cases h
      cases hroot
  | cons name rest =>
      rw [List.mapM_cons] at h
      cases hfirst : Selection.selected schema name with
      | error fault => simp [hfirst, bind, Except.bind] at h
      | ok first =>
          cases hrest : rest.mapM (Selection.selected schema) with
          | error fault => simp [hfirst, hrest, bind, Except.bind] at h
          | ok things =>
              simp only [hfirst, hrest, bind, Except.bind, pure, Except.pure, Except.ok.injEq] at h
              subst h
              obtain rfl : first.owner = entity := by simpa [Statement.ofSelected] using hroot
              simp [Statement.ofSelected, source_of_selected hfirst]

/-- So is counting the rows of an entity. -/
lemma of_count {name : String} (h : (Selection.count name).statement schema = .ok statement)
    (hroot : statement.root = .entity entity) : Over entity statement := by
  refine ⟨hroot, mem_sources.mpr (Or.inr (Or.inl ?_))⟩
  simp only [Selection.statement] at h
  cases hfield : schema.field? name with
  | none => simp [hfield] at h
  | some found =>
      obtain ⟨owner, column⟩ := found
      simp only [hfield, Except.ok.injEq] at h
      subst h
      obtain rfl : owner = entity := by simpa [Statement.ofSelected] using hroot
      simp [Statement.ofSelected, Selected.source, source_of_field hfield]

/-- What has the root and the sources of a statement over an entity is one itself. -/
lemma mono (h : Over entity statement) (hroot : next.root = statement.root)
    (hsources : statement.sources ⊆ next.sources) : Over entity next :=
  ⟨hroot.trans h.root, hsources h.occurs⟩

/-- Joining along a relationship keeps the entity. -/
lemma joinAlong {name : String} (h : Over entity statement)
    (hnext : statement.joinAlong schema name = .ok next) : Over entity next := by
  rw [Statement.joinAlong] at hnext
  simp only at hnext
  split at hnext
  · cases hnext
  · cases hnext
    refine h.mono rfl fun source hsource => ?_
    rw [mem_sources] at hsource ⊢
    rcases hsource with ⟨first, joins, hjoins, hsource⟩ | hsource
    · refine Or.inl ⟨_, _, rfl, ?_⟩
      simp only [hjoins, Option.getD_some, joinSources, List.map_append, List.mem_cons,
        List.mem_append] at hsource ⊢
      tauto
    · exact Or.inr hsource

/-- So do conditions. -/
lemma withConditions (h : Over entity statement) (more : List Condition) :
    Over entity (statement.withConditions more) :=
  h.mono rfl fun _ hsource => mem_sources_withConditions.mpr (Or.inl hsource)

/-- So does an ordering. -/
lemma orderBy {clauses : List OrderClause} (h : Over entity statement)
    (hnext : statement.orderBy clauses = .ok next) : Over entity next := by
  obtain ⟨order, rfl⟩ := order_of_orderBy hnext
  exact h.mono rfl fun _ hsource => hsource

end Over

/-! ## Base statements -/

/-- A base statement: a selection, with joins, conditions and orderings as they come.  A written
condition speaks of tables under their own names. -/
inductive Composed (schema : Schema) : Statement → Prop where
  | select {selection : Selection} {statement : Statement}
      (made : selection.statement schema = .ok statement) : Composed schema statement
  | join {statement next : Statement} {name : String} (before : Composed schema statement)
      (made : statement.joinAlong schema name = .ok next) : Composed schema next
  | test {statement next : Statement} {name : String} {operator : Operator} {value : Value}
      (before : Composed schema statement)
      (made : statement.filterBy schema name operator value = .ok next) : Composed schema next
  | written {statement : Statement} {sources : List Source} (before : Composed schema statement)
      (text : String) (plain : ∀ source ∈ sources, source.role = .itself) :
      Composed schema (statement.filter (.written text sources))
  | order {statement next : Statement} {clauses : List OrderClause}
      (before : Composed schema statement) (made : statement.orderBy clauses = .ok next) :
      Composed schema next

/-- **Base statements** are statements over the entity whose records they are about, by induction on
how they are put together. -/
theorem Composed.over (h : Composed schema statement) (hroot : statement.root = .entity entity) :
    Over entity statement := by
  induction h with
  | @select selection statement made =>
      cases selection with
      | columns names => exact .of_columns made hroot
      | count name => exact .of_count made hroot
      | aliased name =>
          simp only [Selection.statement] at made
          split at made <;> cases made
          cases hroot
      | unmapped name written =>
          cases made
          cases hroot
      | other =>
          cases made
          cases hroot
  | join before made ih =>
      obtain ⟨joins, rfl⟩ := eq_of_joinAlong made
      exact (ih hroot).joinAlong made
  | test before made ih =>
      obtain ⟨owner, column, predicate, -, -, rfl⟩ := eq_of_filterBy made
      exact (ih hroot).withConditions _
  | written before text plain ih => exact (ih hroot).withConditions _
  | order before made ih =>
      obtain ⟨order, rfl⟩ := order_of_orderBy made
      exact (ih hroot).orderBy made

end Statement

end FilterQuery.Sql
