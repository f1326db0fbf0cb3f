import Mathlib.Tactic.Common
import FilterQuery.Proofs.QueryRows

/-!
# One query for two definitions, or one query after the other

The operators of two definitions can be put into one query, or into a second query that starts from
the statement of the first.  The first way shares one row between them for each relationship prefix
that they have in common, the second way does not.

**Meeting both.**  `meets_of_append`: what meets all operators together meets those of each
definition.  `meets_append` is the converse where common prefixes lead to one row at most.  It
merges two assignments of rows; `Assigns.eq_of_shared` shows by induction on a common prefix that
they agree on it, and `Assigns.merge` puts them together.

**Queries.**  `select_combined_and_successive` says what follows for the records that are selected.
-/

namespace FilterQuery

open FilterQuery.Sql

/-! ## Meeting both -/

/-- A relationship relates every row of its holder to one row at most. -/
def RelatesAtMostOne (database : Database) (holder : Entity) (relationship : Relationship)
    (target : Entity) : Prop :=
  ∀ row ∈ database.rows holder.table, ∀ one ∈ database.rows target.table,
    ∀ other ∈ database.rows target.table, relationship.linkage.Relates database row one →
      relationship.linkage.Relates database row other → one = other

/-- The prefixes that two lists of operators have in common use only relationships that relate every
row to one row at most. -/
def SharedToOne (database : Database) (entity : Entity) (first second : List Present) : Prop :=
  ∀ behind segment, IsPrefixOf (behind ++ [segment]) first →
    IsPrefixOf (behind ++ [segment]) second → ∀ holder relationship target,
      database.schema.reach entity behind = .ok holder →
      database.schema.step? holder segment = some (relationship, target) →
      RelatesAtMostOne database holder relationship target

section Meeting

variable {database : Database} {entity : Entity} {ignoreCase : Bool}
  {first second : List Present} {row : Row} {rows others : FieldPath → Row}

/-- What is before a prefix is one. -/
lemma IsPrefixOf.of_prefix {path whole : FieldPath} {tested : List Present}
    (h : IsPrefixOf whole tested) (hsub : path <+: whole) : IsPrefixOf path tested := by
  obtain ⟨present, hpresent, hwhole⟩ := h
  exact ⟨present, hpresent, hsub.trans hwhole⟩

lemma isPrefixOf_append {path : FieldPath} :
    IsPrefixOf path (first ++ second) ↔ IsPrefixOf path first ∨ IsPrefixOf path second := by
  simp only [IsPrefixOf, List.mem_append, or_and_right, exists_or]

/-- The row of a prefix is one of the entity that the prefix leads to. -/
lemma Assigns.mem_rows (h : Assigns database entity ignoreCase first row rows)
    (hrow : row ∈ database.rows entity.table) {path : FieldPath} (hpath : IsPrefixOf path first)
    {holder : Entity} (hholder : database.schema.reach entity path = .ok holder) :
    rows path ∈ database.rows holder.table := by
  rcases List.eq_nil_or_concat path with rfl | ⟨behind, segment, rfl⟩
  · obtain rfl : entity = holder := by simpa using hholder
    rw [h.root]
    exact hrow
  · rw [List.concat_eq_append] at hpath hholder ⊢
    obtain ⟨above, relationship, target, habove, hstep, hmem, -⟩ := h.follows behind segment hpath
    have htarget : database.schema.reach entity (behind ++ [segment]) = .ok target :=
      Schema.reach_concat_eq_ok.mpr ⟨above, relationship, habove, hstep⟩
    obtain rfl := Except.ok.inj (htarget.symm.trans hholder)
    exact hmem

/-- **Two assignments agree** on the prefixes that they share, one segment after the other: from the
same row every common relationship leads to one row at most. -/
lemma Assigns.eq_of_shared (h : Assigns database entity ignoreCase first row rows)
    (h' : Assigns database entity ignoreCase second row others)
    (hrow : row ∈ database.rows entity.table)
    (hone : SharedToOne database entity first second) :
    ∀ path, IsPrefixOf path first → IsPrefixOf path second → rows path = others path := by
  intro path
  induction path using List.reverseRecOn with
  | nil =>
      intro _ _
      rw [h.root, h'.root]
  | append_singleton behind segment ih =>
      intro hfirst hsecond
      have hsub : behind <+: behind ++ [segment] := List.prefix_append _ _
      have hbehind := ih (hfirst.of_prefix hsub) (hsecond.of_prefix hsub)
      obtain ⟨holder, relationship, target, hholder, hstep, hmem, hrel⟩ :=
        h.follows behind segment hfirst
      obtain ⟨holder', relationship', target', hholder', hstep', hmem', hrel'⟩ :=
        h'.follows behind segment hsecond
      obtain rfl := Except.ok.inj (hholder.symm.trans hholder')
      obtain ⟨rfl, rfl⟩ : relationship = relationship' ∧ target = target' := by
        simpa using hstep.symm.trans hstep'
      rw [← hbehind] at hrel'
      exact hone behind segment hfirst hsecond holder relationship target hholder hstep _
        (h.mem_rows hrow (hfirst.of_prefix hsub) hholder) _ hmem _ hmem' hrel hrel'

open scoped Classical in
/-- **Two assignments put together**: the first one where it has rows, else the second. -/
lemma Assigns.merge (h : Assigns database entity ignoreCase first row rows)
    (h' : Assigns database entity ignoreCase second row others)
    (hsame : ∀ path, IsPrefixOf path first → IsPrefixOf path second → rows path = others path) :
    Assigns database entity ignoreCase (first ++ second) row
      (fun path => if IsPrefixOf path first then rows path else others path) where
  root := by
    split
    · exact h.root
    · exact h'.root
  follows := by
    intro behind segment hprefix
    have hsub : behind <+: behind ++ [segment] := List.prefix_append _ _
    by_cases hfirst : IsPrefixOf (behind ++ [segment]) first
    · refine (h.follows behind segment hfirst).congr ?_ ?_
      · exact if_pos (hfirst.of_prefix hsub)
      · exact if_pos hfirst
    · have hsecond := (isPrefixOf_append.mp hprefix).resolve_left hfirst
      refine (h'.follows behind segment hsecond).congr ?_ ?_
      · split
        · rename_i hbehind
          exact hsame behind hbehind (hsecond.of_prefix hsub)
        · rfl
      · exact if_neg hfirst
  holds := by
    intro present hpresent
    by_cases hfirst : IsPrefixOf present.behind first
    · rw [if_pos hfirst]
      rcases List.mem_append.mp hpresent with hmem | hmem
      · exact h.holds present hmem
      · rw [hsame present.behind hfirst ⟨present, hmem, List.prefix_refl _⟩]
        exact h'.holds present hmem
    · rw [if_neg hfirst]
      rcases List.mem_append.mp hpresent with hmem | hmem
      · exact absurd ⟨present, hmem, List.prefix_refl _⟩ hfirst
      · exact h'.holds present hmem

/-- An assignment for some operators is one for fewer. -/
lemma Assigns.mono {tested : List Present} (h : Assigns database entity ignoreCase tested row rows)
    (hsub : first ⊆ tested) : Assigns database entity ignoreCase first row rows where
  root := h.root
  follows := fun behind segment ⟨present, hpresent, hprefix⟩ =>
    h.follows behind segment ⟨present, hsub hpresent, hprefix⟩
  holds := fun present hpresent => h.holds present (hsub hpresent)

/-- What meets some operators meets fewer. -/
lemma Meets.mono {all : List Present} (h : Meets database entity ignoreCase all row)
    (hsub : first ⊆ all) : Meets database entity ignoreCase first row :=
  only_mono (Q := fun related => ∃ rows, Assigns database entity ignoreCase related row rows)
    (fun hrelated ⟨rows, hrows⟩ => ⟨rows, hrows.mono hrelated⟩) hsub h

/-- What meets the operators of both definitions together meets those of each. -/
lemma meets_of_append (h : Meets database entity ignoreCase (first ++ second) row) :
    Meets database entity ignoreCase first row ∧ Meets database entity ignoreCase second row :=
  ⟨h.mono (List.subset_append_left _ _), h.mono (List.subset_append_right _ _)⟩

/-- **Meeting both.**  Where the common prefixes lead to one row at most, what meets the operators of
each definition meets them together. -/
theorem meets_append (hrow : row ∈ database.rows entity.table)
    (hone : SharedToOne database entity (relatedOnly first) (relatedOnly second))
    (h : Meets database entity ignoreCase first row)
    (h' : Meets database entity ignoreCase second row) :
    Meets database entity ignoreCase (first ++ second) row := by
  constructor
  · intro present hpresent
    rw [rootOnly_append] at hpresent
    rcases List.mem_append.mp hpresent with hmem | hmem
    · exact h.1 present hmem
    · exact h'.1 present hmem
  · intro hsome
    rw [relatedOnly_append] at hsome ⊢
    by_cases hfirst : relatedOnly first = []
    · rw [hfirst, List.nil_append] at hsome ⊢
      exact h'.2 hsome
    · obtain ⟨rows, hrows⟩ := h.2 hfirst
      by_cases hsecond : relatedOnly second = []
      · rw [hsecond, List.append_nil]
        exact ⟨rows, hrows⟩
      · obtain ⟨others, hothers⟩ := h'.2 hsecond
        exact ⟨_, hrows.merge hothers (hrows.eq_of_shared hothers hrow hone)⟩

end Meeting

/-! ## Queries

A base need not be over an entity; over anything else there is nothing that present operators could
be put on.  What follows is said of bases of all kinds at once.
-/

/-- A base of some kind: if it is over an entity, the entity occurs in it and has a key. -/
def Sql.Statement.IsBase (database : Database) (base : Statement) : Prop :=
  ∀ entity, base.root = .entity entity → base.Over entity ∧ database.KeysTell entity

/-- Present operators can be built over a root: none of them has a fault, or there are none. -/
def Buildable (schema : Schema) (ignoreCase : Bool) (all : List Present) : Root → Prop
  | .entity entity => Present.checkAll schema entity ignoreCase all = .ok ()
  | .none => False
  | _ => all = []

/-- An assignment is what present operators over a root ask for. -/
def Accepts (database : Database) (ignoreCase : Bool) (all : List Present) (root : Root)
    (assignment : Assignment) : Prop :=
  ∀ entity, root = .entity entity →
    Meets database entity ignoreCase all (assignment.row (.ofTable entity.table))

/-- A statement selects of its base what is accepted, and is the same otherwise. -/
structure FiltersBy (database : Database) (accepts : Assignment → Prop)
    (base result : Statement) : Prop where
  frame : ∃ conditions, result = { base with conditions := conditions }
  isBase : result.IsBase database
  scope : ∀ assignment, assignment ∈ result.scope database ↔
    assignment ∈ base.scope database ∧ accepts assignment

section Queries

variable {database : Database} {settings : Settings} {base result next : Statement}
  {ignoreCase : Bool} {first second : List Present} {options : Value} {filters : Mapping}
  {accepts more : Assignment → Prop}

/-- Operators can be built together exactly if they can be built apart. -/
lemma buildable_append {schema : Schema} {root : Root} :
    Buildable schema ignoreCase (first ++ second) root ↔
      Buildable schema ignoreCase first root ∧ Buildable schema ignoreCase second root := by
  cases root with
  | entity entity =>
      simp only [Buildable, Present.checkAll_eq_ok, List.mem_append, or_imp, forall_and]
  | aliased entity => simp [Buildable]
  | unmapped name written => simp [Buildable]
  | none => simp [Buildable]

/-- Filtering twice is filtering by both. -/
lemma FiltersBy.trans (h : FiltersBy database accepts base result)
    (h' : FiltersBy database more result next) :
    FiltersBy database (fun assignment => accepts assignment ∧ more assignment) base next where
  frame := by
    obtain ⟨conditions, rfl⟩ := h.frame
    exact h'.frame
  isBase := h'.isBase
  scope := by
    intro assignment
    rw [h'.scope, h.scope, and_assoc]

/-- The root is that of the base. -/
lemma FiltersBy.root_eq (h : FiltersBy database accepts base result) :
    result.root = base.root := by
  obtain ⟨conditions, rfl⟩ := h.frame
  rfl

/-- The records that are selected. -/
lemma FiltersBy.selects_iff (h : FiltersBy database accepts base result) {row : List Item} :
    result.Selects database row ↔
      ∃ assignment ∈ base.scope database, accepts assignment ∧ row = base.record assignment := by
  have hrecord : result.record = base.record := by
    obtain ⟨conditions, rfl⟩ := h.frame
    rfl
  simp only [Statement.Selects, hrecord, h.scope, and_assoc]

/-- What is selected of a whole base is what comes back. -/
lemma FiltersBy.mem_fetch_iff (h : FiltersBy database accepts base result)
    (hwhole : base.IsWhole) (hcounts : base.selected.any Selected.isCount = false)
    {rows : List (List Item)} (hrows : result.fetch database = .ok rows) (row : List Item) :
    row ∈ rows ↔ result.Selects database row := by
  obtain ⟨conditions, rfl⟩ := h.frame
  have hwhole' : Statement.IsWhole { base with conditions := conditions } := hwhole
  exact Statement.mem_fetch_iff hwhole' hcounts hrows

/-- **A query that can be built** selects of its base what its present operators accept. -/
lemma exists_query_of_buildable {definition : Definition} (hbase : base.IsBase database)
    (hfilters : Options.filters settings options = .ok filters)
    (hordering : definition.ordering = [])
    (hbuildable : Buildable database.schema settings.ignoreCase (present filters definition.fields)
      base.root) :
    ∃ result, (query database.schema settings base options (.definition definition)).1 =
        .ok result ∧
      FiltersBy database (Accepts database settings.ignoreCase
        (present filters definition.fields) base.root) base result := by
  classical
  by_cases hentity : ∃ entity, base.root = .entity entity
  · obtain ⟨entity, hroot⟩ := hentity
    obtain ⟨hover, hkeys⟩ := hbase entity hroot
    rw [hroot] at hbuildable
    obtain ⟨statement, progress, hbuilt, hquery⟩ :=
      query_of_checkAll hroot hfilters hordering hbuildable
    have hover' := hbuilt.over hover
    refine ⟨_, hquery, hbuilt.frame, ?_, ?_⟩
    · intro other hother
      obtain rfl : entity = other := by simpa using hover'.root.symm.trans hother
      exact ⟨hover', hkeys⟩
    · intro assignment
      rw [scope_of_built hbuilt hover hkeys]
      simp [Accepts, hroot]
  · have hnot : ∀ entity, base.root ≠ .entity entity := fun entity h => hentity ⟨entity, h⟩
    obtain ⟨hroot, hnothing⟩ : base.root ≠ .none ∧ present filters definition.fields = [] := by
      cases hroot : base.root with
      | entity entity => exact absurd hroot (hnot entity)
      | none => simp [Buildable, hroot] at hbuildable
      | aliased entity => simpa [Buildable, hroot] using hbuildable
      | unmapped name written => simpa [Buildable, hroot] using hbuildable
    refine ⟨base, ?_, ⟨base.conditions, rfl⟩, hbase, ?_⟩
    · simp only [query, Configure.build, hfilters, build_of_nothing hroot hnothing, hordering,
        Statement.orderBy_nil, Except.mapError]
    · intro assignment
      simp [Accepts, hnot]

/-- A query that does not fail can be built. -/
lemma buildable_of_query {definition : Definition}
    (hquery : (query database.schema settings base options (.definition definition)).1 =
      .ok result) :
    ∃ filters, Options.filters settings options = .ok filters ∧
      Buildable database.schema settings.ignoreCase (present filters definition.fields)
        base.root := by
  by_cases hentity : ∃ entity, base.root = .entity entity
  · obtain ⟨entity, hroot⟩ := hentity
    obtain ⟨other, filters, _, _, hdefinition, hfilters, hcheck, -, -⟩ :=
      exists_built_of_query hroot hquery
    obtain rfl : definition = other := Except.ok.inj hdefinition
    exact ⟨filters, hfilters, by rw [hroot]; exact hcheck⟩
  · have hnot : ∀ entity, base.root ≠ .entity entity := fun entity h => hentity ⟨entity, h⟩
    cases hfilters : Options.filters settings options with
    | error fault => simp [query, Configure.build, hfilters] at hquery
    | ok filters =>
        simp only [query, Configure.build, hfilters] at hquery
        have hbuilt := nothing_of_build hnot (mapError_eq_ok.mp hquery)
        refine ⟨filters, rfl, ?_⟩
        cases hkind : base.root with
        | entity entity => exact absurd hkind (hnot entity)
        | none => exact absurd hkind hbuilt.1
        | aliased entity => exact hbuilt.2
        | unmapped name written => exact hbuilt.2

/-- **One query or two.**  What one query with the operators of two definitions selects is also
selected by a query with the second definition on top of one with the first; the order of the two
does not matter; and nothing else is selected if the prefixes that the definitions have in common
lead to one row at most.  All of these can be built, and what they select is what comes back. -/
theorem select_combined_and_successive {combined : Statement} {first second : Definition}
    (hbase : base.IsBase database) (hwhole : base.IsWhole)
    (hfirst : first.ordering = []) (hsecond : second.ordering = [])
    (hcombined : (query database.schema settings base options
      (.definition ⟨first.fields ++ second.fields, []⟩)).1 = .ok combined) :
    ∃ filters firstOnly firstThenSecond secondOnly secondThenFirst,
      Options.filters settings options = .ok filters ∧
      (query database.schema settings base options (.definition first)).1 = .ok firstOnly ∧
      (query database.schema settings firstOnly options (.definition second)).1 =
        .ok firstThenSecond ∧
      (query database.schema settings base options (.definition second)).1 = .ok secondOnly ∧
      (query database.schema settings secondOnly options (.definition first)).1 =
        .ok secondThenFirst ∧
      (∀ row, combined.Selects database row → firstThenSecond.Selects database row) ∧
      (∀ row, firstThenSecond.Selects database row ↔ secondThenFirst.Selects database row) ∧
      ((∀ entity, base.root = .entity entity →
          SharedToOne database entity (relatedOnly (present filters first.fields))
            (relatedOnly (present filters second.fields))) →
        ∀ row, firstThenSecond.Selects database row → combined.Selects database row) ∧
      (base.selected.any Selected.isCount = false →
        ∀ statement ∈ [combined, firstThenSecond, secondThenFirst], ∀ rows,
          statement.fetch database = .ok rows →
          ∀ row, row ∈ rows ↔ statement.Selects database row) := by
  obtain ⟨filters, hfilters, hbuildable⟩ := buildable_of_query hcombined
  obtain ⟨other, hother, hall⟩ := exists_query_of_buildable hbase hfilters rfl hbuildable
  obtain rfl := Except.ok.inj (hcombined.symm.trans hother)
  rw [present_append] at hbuildable hall
  obtain ⟨hbuildable₁, hbuildable₂⟩ := buildable_append.mp hbuildable
  obtain ⟨one, hone, hby₁⟩ := exists_query_of_buildable hbase hfilters hfirst hbuildable₁
  obtain ⟨two, htwo, hby₂⟩ := exists_query_of_buildable hbase hfilters hsecond hbuildable₂
  obtain ⟨oneTwo, honeTwo, hby₁₂⟩ := exists_query_of_buildable hby₁.isBase hfilters hsecond
    (hby₁.root_eq ▸ hbuildable₂)
  obtain ⟨twoOne, htwoOne, hby₂₁⟩ := exists_query_of_buildable hby₂.isBase hfilters hfirst
    (hby₂.root_eq ▸ hbuildable₁)
  rw [hby₁.root_eq] at hby₁₂
  rw [hby₂.root_eq] at hby₂₁
  have hboth := hby₁.trans hby₁₂
  have hboth' := hby₂.trans hby₂₁
  refine ⟨filters, one, oneTwo, two, twoOne, hfilters, hone, honeTwo, htwo, htwoOne, ?_, ?_, ?_, ?_⟩
  · intro row hselected
    obtain ⟨assignment, hmem, haccepts, hrow⟩ := hall.selects_iff.mp hselected
    refine hboth.selects_iff.mpr ⟨assignment, hmem, ⟨?_, ?_⟩, hrow⟩
    · exact fun entity hentity => (meets_of_append (haccepts entity hentity)).1
    · exact fun entity hentity => (meets_of_append (haccepts entity hentity)).2
  · intro row
    rw [hboth.selects_iff, hboth'.selects_iff]
    simp only [and_comm]
  · intro hshared row hselected
    obtain ⟨assignment, hmem, ⟨haccepts₁, haccepts₂⟩, hrow⟩ := hboth.selects_iff.mp hselected
    refine hall.selects_iff.mpr ⟨assignment, hmem, fun entity hentity => ?_, hrow⟩
    have hcandidate := (List.mem_filter.mp hmem).1
    exact meets_append (row_mem_of_mem_candidates hcandidate (hbase entity hentity).1.occurs)
      (hshared entity hentity) (haccepts₁ entity hentity) (haccepts₂ entity hentity)
  · intro hcounts statement hstatement rows hrows row
    simp only [List.mem_cons, List.not_mem_nil, or_false] at hstatement
    rcases hstatement with rfl | rfl | rfl
    · exact hall.mem_fetch_iff hwhole hcounts hrows row
    · exact hboth.mem_fetch_iff hwhole hcounts hrows row
    · exact hboth'.mem_fetch_iff hwhole hcounts hrows row

end Queries

namespace Sample

/-- Categories by the name of the category above them. -/
def byParentName : Definition :=
  ⟨[⟨["parent", "name"], [(.op .contains, "name")]⟩], []⟩

/-- Categories by the number of the category above them. -/
def byParentId : Definition :=
  ⟨[⟨["parent", "id"], [(.op .equalTo, "id")]⟩], []⟩

def parentOptions : Value :=
  .mapping [(.str "with", .mapping [(.str "name", .str "oo"), (.str "id", .int 2)])]

/-- Categories by both at once. -/
def categoriesByParent : Statement :=
  (query schema .default allCategories parentOptions
    (.definition ⟨byParentName.fields ++ byParentId.fields, []⟩)).1.toOption.getD allCategories

lemma allCategories_isBase : allCategories.IsBase database := by
  intro entity hentity
  obtain rfl : category = entity := by simpa [allCategories, Statement.ofSelected] using hentity
  exact ⟨allCategories_over, keysTell_category⟩

lemma query_categoriesByParent :
    (query database.schema .default allCategories parentOptions
      (.definition ⟨byParentName.fields ++ byParentId.fields, []⟩)).1 =
        .ok categoriesByParent := rfl

/-- A category has one parent at most. -/
lemma parent_sharedToOne :
    SharedToOne database category [⟨["parent", "name"], .op .contains, .str "oo"⟩]
      [⟨["parent", "id"], .op .equalTo, .int 2⟩] := by
  rintro behind segment ⟨present, hpresent, more, hprefix⟩ - holder relationship target hholder hstep
  obtain rfl := List.mem_singleton.mp hpresent
  obtain ⟨rfl, rfl⟩ : behind = [] ∧ segment = "parent" := by
    cases behind <;> simp_all [Present.behind]
  obtain rfl : category = holder := Except.ok.inj hholder
  have hparent : schema.step? category "parent" =
      some (refersTo "parent" "Category" [("id", "parent_id")] (some "children"), category) := rfl
  obtain ⟨rfl, rfl⟩ := Prod.mk.inj (Option.some.inj (hparent.symm.trans hstep))
  rw [RelatesAtMostOne]
  decide +kernel

end Sample

/-- Two conditions on the parent select the same in one query and in two. -/
theorem select_combined_and_successive_parent :
    ∃ named both,
      (query Sample.schema .default Sample.allCategories Sample.parentOptions
        (.definition Sample.byParentName)).1 = .ok named ∧
      (query Sample.schema .default named Sample.parentOptions
        (.definition Sample.byParentId)).1 = .ok both ∧
      ∀ row, Sample.categoriesByParent.Selects Sample.database row ↔
        both.Selects Sample.database row := by
  obtain ⟨filters, named, both, _, _, hfilters, hnamed, hboth, -, -, hsub, -, hsame, -⟩ :=
    select_combined_and_successive Sample.allCategories_isBase rfl rfl rfl
      Sample.query_categoriesByParent
  obtain rfl := Except.ok.inj hfilters
  refine ⟨named, both, hnamed, hboth, fun row => ⟨hsub row, hsame ?_ row⟩⟩
  intro entity hentity
  obtain rfl : Sample.category = entity := by
    simpa [Sample.allCategories, Statement.ofSelected] using hentity
  exact Sample.parent_sharedToOne

end FilterQuery
