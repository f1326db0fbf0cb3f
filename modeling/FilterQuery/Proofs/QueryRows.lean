import Mathlib.Tactic.Common
import FilterQuery.Proofs.Meaning
import FilterQuery.Proofs.Rows
import FilterQuery.Query
import FilterQuery.Sample

/-!
# The rows of a query

What comes back when a built query is run.  `exists_built_of_query` opens an entry point: a query
that does not fail has a definition, filter values, and a build of which `Built` holds.
`fetch_query_perm` is the meaning of queries: of the rows of the base those come back that meet the
present operators, each as often as the base has it.
-/

namespace FilterQuery

open FilterQuery.Sql

/-- Steps mean the definition that they make. -/
lemma query_steps {steps : List Declaration} {definition : Definition}
    (h : Definition.ofSteps steps = .ok definition) (schema : Schema) (settings : Settings)
    (base : Statement) (options : Value) :
    query schema settings base options (.steps steps) =
      query schema settings base options (.definition definition) := by
  rw [query, query, Configure.build, h]
  rfl

section Queries

variable {schema : Schema} {database : Database} {settings : Settings} {base result : Statement}
  {options : Value} {configure : Configure} {entity : Entity}

/-- What a query that does not fail has been through. -/
lemma exists_built_of_query (hroot : base.root = .entity entity)
    (hquery : (query schema settings base options configure).1 = .ok result) :
    ∃ definition filters statement progress, configure.build = .ok definition ∧
      Options.filters settings options = .ok filters ∧
      Present.checkAll schema entity settings.ignoreCase (present filters definition.fields) =
        .ok () ∧
      Built schema entity settings.ignoreCase base (present filters definition.fields) statement
        progress ∧
      (withRelated statement progress.related).orderBy definition.ordering = .ok result := by
  rw [query] at hquery
  cases hdefinition : configure.build with
  | error fault => simp [hdefinition] at hquery
  | ok definition =>
      cases hfilters : Options.filters settings options with
      | error fault => simp [hdefinition, hfilters] at hquery
      | ok filters =>
          simp only [hdefinition, hfilters] at hquery
          have hbuild := mapError_eq_ok.mp hquery
          have hcheck : Present.checkAll schema entity settings.ignoreCase
              (present filters definition.fields) = .ok () :=
            checkAll_of_build hroot (.start schema entity) hbuild
          obtain ⟨statement, progress, hbuilt, hrun⟩ := build_run definition hroot hcheck
          rw [hrun] at hbuild
          exact ⟨definition, filters, statement, progress, rfl, rfl, hcheck, hbuilt,
            mapError_eq_ok.mp hbuild⟩

/-- Where no present operator has a fault, and no ordering is asked for, a query does not fail. -/
lemma query_of_checkAll {filters : Mapping} {definition : Definition}
    (hroot : base.root = .entity entity)
    (hfilters : Options.filters settings options = .ok filters)
    (hordering : definition.ordering = [])
    (hcheck : Present.checkAll schema entity settings.ignoreCase
      (present filters definition.fields) = .ok ()) :
    ∃ statement progress, Built schema entity settings.ignoreCase base
        (present filters definition.fields) statement progress ∧
      (query schema settings base options (.definition definition)).1 =
        .ok (withRelated statement progress.related) := by
  obtain ⟨statement, progress, hbuilt, hrun⟩ := build_run definition hroot hcheck
  refine ⟨statement, progress, hbuilt, ?_⟩
  simp only [query, Configure.build, hfilters, hrun, hordering, Statement.orderBy_nil,
    Except.mapError]

open scoped Classical in
/-- What a query selects of its base, and that nothing else of the base changes but the order. -/
lemma scope_of_query (hover : base.Over entity) (hkeys : database.KeysTell entity)
    (hquery : (query database.schema settings base options configure).1 = .ok result) :
    ∃ definition filters conditions order, configure.build = .ok definition ∧
      Options.filters settings options = .ok filters ∧
      result = { base with conditions := conditions, order := order } ∧
      result.scope database = (base.scope database).filter fun assignment =>
        Meets database entity settings.ignoreCase (present filters definition.fields)
          (assignment.row (.ofTable entity.table)) := by
  obtain ⟨definition, filters, statement, progress, hdefinition, hfilters, -, hbuilt, horder⟩ :=
    exists_built_of_query hover.root hquery
  obtain ⟨order, rfl⟩ := Statement.order_of_orderBy horder
  obtain ⟨conditions, hframe⟩ := hbuilt.frame
  refine ⟨definition, filters, conditions, order, hdefinition, hfilters, ?_, ?_⟩
  · rw [hframe]
  · exact scope_of_built hbuilt hover hkeys

open scoped Classical in
/-- **The meaning of a query.**  It selects those rows of the base whose row of the root entity meets
the present operators, each as often as the base has it.  In whatever order the database puts them, they
come back as they do from the base, and so they do if the statement runs and its ordering ends in no
limits. -/
theorem fetch_query_perm (hover : base.Over entity) (hkeys : database.KeysTell entity)
    (hlimits : base.HasNoLimits) (hdistinct : base.distinct = false)
    (hcounts : base.selected.any Selected.isCount = false)
    (hquery : (query database.schema settings base options configure).1 = .ok result) :
    ∃ definition filters, configure.build = .ok definition ∧
      Options.filters settings options = .ok filters ∧
      let found := (base.scope database).filter fun assignment =>
        Meets database entity settings.ignoreCase (present filters definition.fields)
          (assignment.row (.ofTable entity.table))
      result.scope database = found ∧
      (∀ sorted : List Assignment, sorted.Perm (result.scope database) →
        (result.items sorted).Perm (found.map base.record)) ∧
      ∀ rows, result.fetch database = .ok rows → orderLimits? result.order = some .absent →
        rows.Perm (found.map base.record) := by
  obtain ⟨definition, filters, conditions, order, hdefinition, hfilters, hresult, hscope⟩ :=
    scope_of_query hover hkeys hquery
  have hdistinct' : result.distinct = false := by rw [hresult, hdistinct]
  have hcounts' : result.selected.any Selected.isCount = false := by rw [hresult, hcounts]
  have hrecord : result.record = base.record := by
    rw [hresult]
    rfl
  refine ⟨definition, filters, hdefinition, hfilters, hscope, ?_, ?_⟩
  · intro sorted hsorted
    rw [Statement.items, hcounts', if_neg Bool.false_ne_true, ← hscope, ← hrecord]
    exact hsorted.map _
  · intro rows hfetch horder
    have hlimits' : result.HasNoLimits := by
      rw [hresult]
      exact hlimits
    rw [← hscope, ← hrecord]
    exact Statement.fetch_perm (Statement.isWhole_iff.mpr ⟨hlimits', horder⟩) hdistinct' hcounts'
      hfetch

end Queries

namespace Sample

/-- All posts. -/
def allPosts : Statement :=
  .ofSelected (.entity post) [.entity post (.ofTable "posts")]

/-- All categories. -/
def allCategories : Statement :=
  .ofSelected (.entity category) [.entity category (.ofTable "categories")]

/-- Categories by what the name of a child contains. -/
def byChildName : Configure :=
  .definition ⟨[⟨["children", "name"], [(.op .contains, "child")]⟩], []⟩

/-- Two of the categories have this in their names, and both have the same parent. -/
def childOptions : Value :=
  .mapping [(.str "with", .mapping [(.str "child", .str "oo")])]

/-- The categories with such a child. -/
def categoriesByChild : Statement :=
  (query schema .default allCategories childOptions byChildName).1.toOption.getD allCategories

lemma query_categoriesByChild :
    (query database.schema .default allCategories childOptions byChildName).1 =
      .ok categoriesByChild := rfl

lemma allCategories_over : allCategories.Over category :=
  ⟨rfl, by decide⟩

lemma keysTell_category : database.KeysTell category :=
  ⟨by decide +kernel, by decide +kernel⟩

end Sample

open scoped Classical in
/-- A parent of two children that match comes back once. -/
theorem fetch_query_perm_children :
    ∃ definition filters, Sample.byChildName.build = .ok definition ∧
      Options.filters .default Sample.childOptions = .ok filters ∧
      [[Item.record ⟨"Category", [.int 1]⟩]].Perm
        (((Sample.allCategories.scope Sample.database).filter fun assignment =>
          Meets Sample.database Sample.category true (present filters definition.fields)
            (assignment.row (.ofTable "categories"))).map Sample.allCategories.record) := by
  obtain ⟨definition, filters, hdefinition, hfilters, -, -, hrows⟩ :=
    fetch_query_perm Sample.allCategories_over Sample.keysTell_category ⟨rfl, rfl⟩ rfl rfl
      Sample.query_categoriesByChild
  exact ⟨definition, filters, hdefinition, hfilters, hrows _ (by decide +kernel) rfl⟩

namespace Sample

/-- The first post alone, by a limit at the end of an ordering text. -/
def firstById : Definition :=
  ⟨[], [.text "posts.id LIMIT 1"]⟩

/-- All posts, ordered by that text. -/
def postsFirstById : Statement :=
  { allPosts with order := [.text "posts.id LIMIT 1"] }

/-- The posts are stored in the order of their numbers. -/
lemma sortBy_allPosts :
    sortBy [⟨⟨.ofTable "posts", "id"⟩, false, none⟩] (postsFirstById.scope database) =
      postsFirstById.scope database :=
  List.mergeSort_of_pairwise (by decide +kernel)

lemma fetch_postsFirstById :
    postsFirstById.fetch database = .ok [[Item.record ⟨"Post", [.int 1]⟩]] := by
  have harranged : postsFirstById.arranged? database
      (Query.rows postsFirstById).written.names false postsFirstById.shown =
        some (window ⟨some 1, none⟩ (postsFirstById.scope database)) := by
    refine Statement.arranged?_eq_some.mpr ⟨⟨some 1, none⟩, by decide +kernel,
      [⟨⟨.ofTable "posts", "id"⟩, false, none⟩], by decide +kernel, ?_⟩
    exact congrArg (window _) sortBy_allPosts
  have hnone : (Query.rows postsFirstById).written.parameters = [] := rfl
  rw [Statement.fetch, harranged, hnone]
  rfl

end Sample

open scoped Classical in
/-- A limit at the end of an ordering text leaves out rows that meet the present operators: none of them
is present, and of six posts one comes back. -/
theorem not_fetch_query_perm_of_limits :
    (query Sample.database.schema .default Sample.allPosts .null
        (.definition Sample.firstById)).1 = .ok Sample.postsFirstById ∧
    Sample.postsFirstById.fetch Sample.database = .ok [[Item.record ⟨"Post", [.int 1]⟩]] ∧
    ¬[[Item.record ⟨"Post", [.int 1]⟩]].Perm
      (((Sample.allPosts.scope Sample.database).filter fun assignment =>
        Meets Sample.database Sample.post true (present [] Sample.firstById.fields)
          (assignment.row (.ofTable "posts"))).map Sample.allPosts.record) := by
  refine ⟨rfl, Sample.fetch_postsFirstById, fun hperm => ?_⟩
  have hall : ((Sample.allPosts.scope Sample.database).filter fun assignment =>
      Meets Sample.database Sample.post true (present [] Sample.firstById.fields)
        (assignment.row (.ofTable "posts"))) = Sample.allPosts.scope Sample.database :=
    List.filter_eq_self.mpr fun assignment _ =>
      decide_eq_true ⟨List.forall_mem_nil _, fun hsome => (hsome rfl).elim⟩
  rw [hall] at hperm
  have hlength := hperm.length_eq
  have hsix : ((Sample.allPosts.scope Sample.database).map Sample.allPosts.record).length = 6 := by
    decide +kernel
  rw [hsix] at hlength
  cases hlength

end FilterQuery
