import Mathlib.Tactic.Common
import FilterQuery.Proofs.Families
import FilterQuery.Proofs.QueryRows

/-!
# Queries over parents

A query over the records of an entity is the same whether or not children are loaded along, and the
families that it loads are those of the records that it selects.

**The same query.**  `query_withEager`: a query does not look at what is loaded along.

**Statements of parents.**  `OfParents.of_composed`: `Statement.OfParents` holds of whatever is put
together by selecting an entity first, joining, filtering and ordering, and it holds of what a query
makes of that.

**The same records.**  `families_withEager`: where the rows of a query come back, its families are
those of the records in these rows, and where they do not, neither do the families.
-/

namespace FilterQuery

open FilterQuery.Sql

/-! ## The same query -/

/-- The statement with children that are loaded along. -/
def Sql.Statement.withEager (statement : Statement) (eager : Option Eager) : Statement :=
  { statement with eager := eager }

section SameQuery

variable {context : BuildContext} {root : Root} (eager : Option Eager)

lemma withEager_filter (statement : Statement) (condition : Condition) :
    (statement.withEager eager).filter condition = (statement.filter condition).withEager eager :=
  rfl

/-- Applying an operator adds a condition, or none, and looks at nothing. -/
lemma applyOperator_withEager (field : FieldFilter) (declared : Value × String)
    (statement : Statement) :
    applyOperator context root field declared (statement.withEager eager) =
      (Statement.withEager · eager) <$> applyOperator context root field declared statement := by
  simp only [applyOperator]
  simp only [map_bind]
  refine bind_congr fun found => ?_
  split
  · simp
  · split
    · simp [map_bind]
    · simp only [map_bind]
      refine bind_congr fun value => ?_
      split
      · simp only [pure_bind, map_bind, map_pure, withEager_filter]
      · simp only [pure_bind, map_bind, map_pure]

/-- So does a whole list of steps, each of which does not look. -/
lemma foldlM_withEager {α : Type} {step : Statement → α → Build Statement} {list : List α}
    (h : ∀ statement a, step (statement.withEager eager) a =
      (Statement.withEager · eager) <$> step statement a) (statement : Statement) :
    list.foldlM step (statement.withEager eager) =
      (Statement.withEager · eager) <$> list.foldlM step statement := by
  induction list generalizing statement with
  | nil => simp
  | cons a rest ih => simp only [List.foldlM_cons, h, bind_map_left, map_bind, ih]

lemma applyFields_withEager (fields : List FieldFilter) (statement : Statement) :
    applyFields context root fields (statement.withEager eager) =
      (Statement.withEager · eager) <$> applyFields context root fields statement := by
  refine foldlM_withEager eager (fun statement field => ?_) statement
  exact foldlM_withEager eager (fun statement declared =>
    applyOperator_withEager eager field declared statement) statement

lemma withRelated_withEager (statement : Statement) (related : Option Related) :
    withRelated (statement.withEager eager) related =
      (withRelated statement related).withEager eager := by
  cases related <;> rfl

lemma orderBy_withEager (statement : Statement) (clauses : List OrderClause) :
    (statement.withEager eager).orderBy clauses =
      (statement.orderBy clauses).map (Statement.withEager · eager) := by
  simp only [Statement.orderBy]
  cases clauses.mapM OrderClause.term with
  | error fault => rfl
  | ok terms =>
      simp only [bind, Except.bind]
      split <;> rfl

/-- What is done with a result is done after the run. -/
lemma run_map {α β : Type} (f : α → β) (action : Build α) (progress : Progress) :
    (f <$> action).run progress =
      ((action.run progress).1.map f, (action.run progress).2) := by
  rw [← bind_pure_comp, Build.run_bind]
  cases action.run progress with
  | mk result after => cases result <;> rfl

lemma build_withEager (definition : Definition) (base : Statement) :
    build context definition (base.withEager eager) =
      (Statement.withEager · eager) <$> build context definition base := by
  by_cases hroot : base.root = .none
  · have hroot' : (base.withEager eager).root = .none := hroot
    simp only [build, hroot, hroot']
    rfl
  · have hroot' : (base.withEager eager).root = base.root := rfl
    rw [build_of_root hroot, build_of_root (hroot'.trans_ne hroot), hroot', applyFields_withEager]
    simp only [bind_map_left, map_bind]
    refine bind_congr fun filtered => bind_congr fun reached => ?_
    rw [withRelated_withEager, orderBy_withEager]
    cases (withRelated filtered reached.related).orderBy definition.ordering with
    | error fault => rfl
    | ok ordered => rfl

lemma buildFresh_withEager (context : BuildContext) (definition : Definition) (base : Statement) :
    (buildFresh context definition (base.withEager eager)).1 =
      (buildFresh context definition base).1.map (Statement.withEager · eager) := by
  rw [buildFresh]
  rw [build_withEager, run_map]
  rfl

/-- **The same query.**  What is loaded along changes nothing else of what is built. -/
theorem query_withEager (schema : Schema) (settings : Settings) (base : Statement)
    (options : Value) (configure : Configure) :
    (query schema settings (base.withEager eager) options configure).1 =
      (query schema settings base options configure).1.map (Statement.withEager · eager) := by
  simp only [query]
  cases configure.build with
  | error fault => rfl
  | ok definition =>
      cases Options.filters settings options with
      | error fault => rfl
      | ok filters =>
          have hfresh := buildFresh_withEager eager
            ⟨schema, .mapping filters, settings.ignoreCase⟩ definition base
          simp only [hfresh]
          cases (buildFresh ⟨schema, .mapping filters, settings.ignoreCase⟩ definition base).1 <;>
            rfl

end SameQuery

/-! ## What a query adds -/

section Additions

variable {schema : Schema} {database : Database} {settings : Settings} {base statement : Statement}
  {options : Value} {configure : Configure} {definition : Definition} {entity : Entity}
  {after : List OrderTerm}

/-- Columns are added to the ordering. -/
lemma orderBy_of_columns {clauses : List OrderClause}
    (hterms : clauses.mapM OrderClause.term = .ok after) (hafter : IsByColumnsOf entity after)
    (statement : Statement) :
    statement.orderBy clauses = .ok { statement with order := statement.order ++ after } := by
  refine Statement.orderBy_of_terms hterms ?_
  rintro rfl
  obtain ⟨column, descending, emptyFirst, hnull, -⟩ := hafter .null (List.mem_singleton_self _)
  cases hnull

/-- What a query has besides its base: conditions that bring in no source, and an ordering. -/
lemma exists_added_of_query (hroot : base.root = .entity entity)
    (hquery : (query schema settings base options configure).1 = .ok statement) :
    ∃ definition added, configure.build = .ok definition ∧
      (∀ source ∈ conditionSources added, source = .ofTable entity.table) ∧
      (base.withConditions added).orderBy definition.ordering = .ok statement := by
  obtain ⟨definition, filters, filtered, progress, hdefinition, -, -, hbuilt, horder⟩ :=
    exists_built_of_query hroot hquery
  obtain ⟨added, hrelated, hspoken⟩ := hbuilt.withRelated_eq
  rw [hrelated] at horder
  exact ⟨definition, added, hdefinition, hspoken, horder⟩

/-- If the definition orders by columns, they stand behind the ordering of the base. -/
lemma exists_conditions_of_query (hroot : base.root = .entity entity)
    (hdefinition : configure.build = .ok definition)
    (hterms : definition.ordering.mapM OrderClause.term = .ok after)
    (hafter : IsByColumnsOf entity after)
    (hquery : (query schema settings base options configure).1 = .ok statement) :
    ∃ added, statement = { base.withConditions added with order := base.order ++ after } ∧
      ∀ source ∈ conditionSources added, source = .ofTable entity.table := by
  obtain ⟨definition', added, hdefinition', hspoken, horder⟩ := exists_added_of_query hroot hquery
  obtain rfl : definition = definition' :=
    Except.ok.inj (hdefinition.symm.trans hdefinition')
  rw [orderBy_of_columns hterms hafter] at horder
  exact ⟨added, (Except.ok.inj horder).symm, hspoken⟩

end Additions

/-! ## Statements of parents -/

/-- A base statement of parents: it starts with the records of an entity, counts nothing and has no
limits of its own, and has no source of children. -/
structure Sql.Statement.OfParents (entity : Entity) (base : Statement) : Prop where
  isOver : base.Over entity
  first : base.selected.head? = some (.entity entity (.ofTable entity.table))
  counts : base.selected.any Selected.isCount = false
  limits : base.HasNoLimits
  apart : ∀ source ∈ base.sources, source.role ≠ .child

namespace Sql.Statement.OfParents

variable {schema : Schema} {entity : Entity} {base next : Statement}

/-- What has the selection and the limits of a statement of parents, and no new sources but such as
are not of children, is one itself. -/
lemma mono (h : base.OfParents entity) (hover : next.Over entity)
    (hselected : next.selected = base.selected) (hlimits : next.HasNoLimits)
    (hsources : ∀ source ∈ next.sources, source ∈ base.sources ∨ source.role ≠ .child) :
    next.OfParents entity :=
  ⟨hover, hselected ▸ h.first, hselected ▸ h.counts, hlimits,
    fun source hsource => (hsources source hsource).elim (h.apart source) id⟩

/-- Selecting an entity first is selecting parents. -/
lemma of_columns {names : List String} (h : (Selection.columns names).statement schema = .ok base)
    (hfirst : base.selected.head? = some (.entity entity (.ofTable entity.table))) :
    base.OfParents entity := by
  have hone : ∀ name thing, Selection.selected schema name = .ok thing →
      thing.isCount = false ∧ thing.source.role ≠ .child := by
    intro name thing hthing
    rw [Over.source_of_selected hthing]
    rw [Selection.selected] at hthing
    split at hthing <;> cases hthing <;> exact ⟨rfl, Role.noConfusion⟩
  simp only [Selection.statement] at h
  cases hselected : names.mapM (Selection.selected schema) with
  | error fault => simp [hselected, bind, Except.bind] at h
  | ok things =>
      simp only [hselected, bind, Except.bind, pure, Except.pure, Except.ok.injEq] at h
      subst h
      have hthings : ∀ thing ∈ things, thing.isCount = false ∧ thing.source.role ≠ .child :=
        (forall_iff_of_forall₂ (P := fun _ => True) (mapM_eq_ok.mp hselected)
          fun name thing hthing => ⟨fun _ => hone name thing hthing, fun _ => trivial⟩).mp
            fun _ _ => trivial
      have hhead : things.head? = some (.entity entity (.ofTable entity.table)) := hfirst
      have hmem : Selected.entity entity (.ofTable entity.table) ∈ things :=
        List.mem_of_mem_head? hhead
      refine ⟨⟨?_, mem_sources.mpr (Or.inr (Or.inl (List.mem_map.mpr ⟨_, hmem, rfl⟩)))⟩, hfirst, ?_,
        ⟨rfl, rfl⟩, ?_⟩
      · rw [hhead]
        rfl
      · simp only [Statement.ofSelected, List.any_eq_false, Bool.not_eq_true]
        exact fun thing hthing => (hthings thing hthing).1
      · intro source hsource
        simp only [mem_sources, Statement.ofSelected, conditionSources, List.flatMap_nil,
          List.not_mem_nil, or_false, reduceCtorEq, false_and, exists_false,
          false_or] at hsource
        obtain ⟨thing, hthing, rfl⟩ := List.mem_map.mp hsource
        exact (hthings thing hthing).2

/-- Joining along a relationship brings in no children. -/
lemma joinAlong {name : String} (h : base.OfParents entity)
    (hnext : base.joinAlong schema name = .ok next) : next.OfParents entity := by
  have hover := h.isOver.joinAlong hnext
  rw [Statement.joinAlong] at hnext
  simp only at hnext
  split at hnext
  · cases hnext
  · rename_i holder relationship target hfound
    cases hnext
    refine h.mono hover rfl h.limits fun source hsource => ?_
    rcases mem_sources.mp hsource with ⟨first, joins, hjoins, hsource⟩ | hsource
    · obtain ⟨rfl, rfl⟩ := Prod.mk.inj (Option.some.inj hjoins)
      simp only [joinSources, List.map_append, List.mem_cons, List.mem_append] at hsource
      -- what was joined before is old, and what is joined now are two tables at most
      have hbefore : source = (base.joins.getD (.ofTable holder.table, [])).1 ∨
          source ∈ (base.joins.getD (.ofTable holder.table, [])).2.map Join.target →
          source ∈ base.sources ∨ source.role ≠ .child := by
        cases hbase : base.joins with
        | none =>
            rintro (rfl | hmem)
            · exact Or.inr Role.noConfusion
            · cases hmem
        | some start =>
            intro hmem
            exact Or.inl (mem_sources.mpr (Or.inl ⟨start.1, start.2, hbase, by
              simpa [joinSources] using hmem⟩))
      rcases hsource with hsource | hsource | hsource
      · exact hbefore (Or.inl hsource)
      · exact hbefore (Or.inr hsource)
      · obtain ⟨join, hjoin, rfl⟩ := List.mem_map.mp hsource
        rcases target_of_mem_linkageJoins hjoin with htarget | ⟨htarget, -⟩ <;>
          exact Or.inr (htarget ▸ Role.noConfusion)
    · exact Or.inl (mem_sources.mpr (Or.inr hsource))

/-- Neither do conditions that speak of none. -/
lemma withConditions {more : List Condition} (h : base.OfParents entity)
    (hmore : ∀ source ∈ conditionSources more, source.role ≠ .child) :
    (base.withConditions more).OfParents entity :=
  h.mono (h.isOver.withConditions more) rfl h.limits fun source hsource =>
    (mem_sources_withConditions.mp hsource).imp_right (hmore source)

/-- Neither does an ordering. -/
lemma orderBy {clauses : List OrderClause} (h : base.OfParents entity)
    (hnext : base.orderBy clauses = .ok next) : next.OfParents entity := by
  have hover := h.isOver.orderBy hnext
  obtain ⟨order, rfl⟩ := order_of_orderBy hnext
  exact h.mono hover rfl h.limits fun _ hsource => Or.inl hsource

/-- **Base statements** that start with the records of an entity are statements of parents, by induction
on how they are put together. -/
theorem of_composed (h : Composed schema base)
    (hfirst : base.selected.head? = some (.entity entity (.ofTable entity.table))) :
    base.OfParents entity := by
  induction h with
  | @select selection base made =>
      cases selection with
      | columns names => exact of_columns made hfirst
      | count name =>
          simp only [Selection.statement] at made
          split at made <;> cases made
          cases hfirst
      | aliased name =>
          simp only [Selection.statement] at made
          split at made <;> cases made
          simp [Statement.ofSelected, Source.ofTable] at hfirst
      | unmapped name written =>
          cases made
          cases hfirst
      | other =>
          cases made
          cases hfirst
  | join before made ih =>
      obtain ⟨joins, rfl⟩ := eq_of_joinAlong made
      exact (ih hfirst).joinAlong made
  | test before made ih =>
      obtain ⟨owner, column, predicate, hfield, hpredicate, rfl⟩ := eq_of_filterBy made
      refine (ih hfirst).withConditions fun source hsource => ?_
      obtain rfl : source = predicate.column.source := by simpa [conditionSources] using hsource
      rw [Operator.column_of_predicate hpredicate, Over.source_of_field hfield]
      exact Role.noConfusion
  | @written base sources before text plain ih =>
      refine (ih hfirst).withConditions fun source hsource => ?_
      have hmem : source ∈ sources := by simpa [conditionSources] using hsource
      rw [plain source hmem]
      exact Role.noConfusion
  | order before made ih =>
      obtain ⟨order, rfl⟩ := order_of_orderBy made
      exact (ih hfirst).orderBy made

end Sql.Statement.OfParents

section SameRecords

variable {database : Database} {base statement : Statement} {eager : Eager}
  {rows : List (List Item)}

/-- The statement of a query over parents is a statement of parents itself. -/
lemma Sql.Statement.OfParents.of_query {added : List Condition} {order : List OrderTerm}
    (h : base.OfParents eager.parent)
    (hadded : ∀ source ∈ conditionSources added, source = .ofTable eager.parent.table) :
    Statement.OfParents eager.parent { base.withConditions added with order := order } := by
  have hparents := h.withConditions fun source hsource =>
    hadded source hsource ▸ Role.noConfusion
  exact hparents.mono (hparents.isOver.mono rfl fun _ hsource => hsource) rfl hparents.limits
    fun _ hsource => Or.inl hsource

/-- The records in the rows of a run are those of the assignments that are kept. -/
lemma exists_kept_of_run (hover : statement.Over eager.parent)
    (hfirst : statement.selected.head? = some (.entity eager.parent eager.holder))
    (hcounts : statement.selected.any Selected.isCount = false)
    (hkeys : database.KeysTell eager.parent)
    (hrun : Query.run database (.rows statement) = .ok rows) :
    ∃ kept, statement.arranged? database (Query.rows statement).written.names false
        statement.shown = some kept ∧
      ∀ row, (∃ a ∈ kept, a.row eager.holder = row) ↔ row ∈ database.rows eager.parent.table ∧
        ∃ found ∈ rows, found.head? = some (.record (recordOf eager.parent row)) := by
  obtain ⟨-, hrows⟩ := withParameters_eq_ok.mp hrun
  obtain ⟨kept, harranged, rfl⟩ := Option.map_eq_some_iff.mp hrows
  have hhead : ∀ a : Assignment, (statement.record a).head? =
      some (.record (recordOf eager.parent (a.row eager.holder))) := by
    intro a
    rw [Statement.record, List.head?_map, hfirst]
    rfl
  have hparent : ∀ a ∈ kept, a.row eager.holder ∈ database.rows eager.parent.table := by
    intro a ha
    have hscope := Statement.mem_scope_of_arranged harranged ha
    exact row_mem_of_mem_candidates (List.mem_filter.mp hscope).1 hover.occurs
  have hitems : ∀ item, item ∈ unique (statement.items kept) ↔
      ∃ a ∈ kept, statement.record a = item := by
    intro item
    rw [mem_unique, Statement.items, hcounts, if_neg Bool.false_ne_true, List.mem_map]
    rfl
  refine ⟨kept, harranged, fun row => ?_⟩
  simp only [hitems]
  constructor
  · rintro ⟨a, ha, rfl⟩
    exact ⟨hparent a ha, statement.record a, ⟨a, ha, rfl⟩, hhead a⟩
  · rintro ⟨hrow, _, ⟨a, ha, rfl⟩, hsame⟩
    rw [hhead a, Option.some.injEq, Item.record.injEq] at hsame
    exact ⟨a, ha, hkeys.row_eq (hparent a ha) hrow hsame⟩

/-- **The same records.**  The parents of the families are those whose records a query selects. -/
lemma hasParent_iff (h : statement.OfParents eager.parent) (hwhole : statement.IsWhole)
    (hkeys : database.KeysTell eager.parent)
    (hrun : Query.run database (.rows statement) = .ok rows) {row : Row} :
    statement.HasParent database eager row ↔ row ∈ database.rows eager.parent.table ∧
      ∃ found ∈ rows, found.head? = some (.record (recordOf eager.parent row)) := by
  obtain ⟨kept, harranged, hkept⟩ := exists_kept_of_run h.isOver h.first h.counts hkeys hrun
  rw [← hkept]
  constructor
  · rintro ⟨a, ha, rfl⟩
    exact Statement.exists_row_of_arranged h.isOver hkeys hwhole (List.mem_of_mem_head? h.first)
      (List.Subset.refl _) harranged ha
  · rintro ⟨a, ha, rfl⟩
    exact ⟨a, Statement.mem_scope_of_arranged harranged ha, rfl⟩

/-- The rows of a statement that is ordered by columns are those that it selects, sorted by them,
unless its parameters do not reach the database. -/
lemma run_eq_of_columns {entity : Entity} (hover : statement.Over entity)
    (horder : IsByColumnsOf entity statement.order) (database : Database) :
    Query.run database (.rows statement) =
      withParameters (misreading statement.order) (Query.rows statement).written.parameters
        (some (unique (statement.items (window ⟨statement.limit, statement.offset⟩
          (let sorted := sortBy (statement.order.flatMap OrderTerm.keys) (statement.scope database)
          if statement.distinct then distinctBy statement.shown sorted else sorted))))) := by
  have hlimits : statement.limits? = some ⟨statement.limit, statement.offset⟩ := by
    simp [Statement.limits?, orderLimits?_of_columns horder]
  rw [Query.run, Statement.arranged?_eq_some.mpr
    ⟨_, hlimits, _, sortKeys?_of_columns horder hover.occurs _ _, rfl⟩]
  rfl

/-- The families of a statement are those of the records in its rows: with its children it has the
same parameters. -/
lemma families_withEager (h : statement.OfParents eager.parent)
    (hkeys : database.KeysTell eager.parent) (hkeys' : database.KeysTell eager.target)
    (hstored : database.IsStored) (horder : IsByColumnsOf eager.parent statement.order) :
    (∀ fault, Query.run database (.rows statement) = .error fault →
      (statement.withEager (some eager)).families database eager = .error fault) ∧
    ∀ rows, Query.run database (.rows statement) = .ok rows → ∃ listing,
      (statement.withEager (some eager)).families database eager =
        .ok (listing.map fun family =>
          ⟨.record (recordOf eager.parent family.1), family.2.map (recordOf eager.target)⟩) ∧
      IsListing database eager (statement.order.flatMap OrderTerm.keys)
        (fun row => row ∈ database.rows eager.parent.table ∧
          ∃ found ∈ rows, found.head? = some (.record (recordOf eager.parent row))) listing := by
  let loading := statement.withEager (some eager)
  have hwhole : statement.IsWhole := Statement.isWhole_of_columns h.limits horder
  have hover : loading.Over eager.parent := ⟨h.isOver.root, h.isOver.occurs⟩
  have hapart : eager.source ∉ loading.sources := fun hmem => h.apart _ hmem rfl
  have hsame : (Query.rows loading).written.parameters =
      (Query.rows statement).written.parameters := by
    rw [parameters_written h.limits.1 h.limits.2 horder.isByColumns]
    exact parameters_written h.limits.1 h.limits.2 horder.isByColumns
  obtain ⟨listing, hfamilies, hlisting⟩ :=
    Statement.families_eq hover hkeys hkeys' hstored hwhole h.first horder hapart
  rw [hsame] at hfamilies
  have hfound := run_eq_of_columns h.isOver horder database
  constructor
  · intro fault hrun
    rw [hfamilies]
    exact withParameters_eq_error (hfound.symm.trans hrun) _
  · intro rows hrun
    have hasked : loading.HasParent database eager = fun row =>
        row ∈ database.rows eager.parent.table ∧
          ∃ found ∈ rows, found.head? = some (.record (recordOf eager.parent row)) :=
      funext fun row => propext (hasParent_iff h hwhole hkeys hrun)
    rw [← hasked]
    refine ⟨listing, ?_, hlisting⟩
    rw [hfamilies]
    exact withParameters_eq_ok.mpr ⟨(withParameters_eq_ok.mp hrun).1, rfl⟩

end SameRecords

end FilterQuery
