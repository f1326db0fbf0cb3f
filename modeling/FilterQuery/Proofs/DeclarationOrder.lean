import Mathlib.Tactic.Common
import FilterQuery.Proofs.FilterKeys
import FilterQuery.Proofs.Names
import FilterQuery.Proofs.QueryChildren
import FilterQuery.Proofs.Successive

/-!
# The order of declarations

The order in which operators are declared decides which prefixes are joined first, under which aliases,
and which fault comes first.  None of this shows in the rows.

**One set of operators.**  Whether a row passes, whether there is a fault, and which parameters are
listed depend on the present operators as a set: `Passes.congr`, `checkAll_mono` and
`mem_parameters_of_built`.

**One result.**  `fetch_of_permuted`: however the declarations of a definition are arranged, either all
arrangements can be built or none, and all that are built give the same rows.
-/

namespace FilterQuery

open FilterQuery.Sql

/-! ## One set of operators -/

section Sets

variable {database : Database} {schema : Schema} {entity : Entity} {ignoreCase : Bool}
  {all other : List Present} {row : Row}

/-- What passes some operators passes fewer. -/
lemma Passes.mono (h : Passes database entity ignoreCase other row) (hsub : all ⊆ other) :
    Passes database entity ignoreCase all row :=
  only_mono (Q := fun related => Reaches database entity ignoreCase related row)
    (fun hrelated ⟨rows, hinside, hkey, hassigns⟩ =>
      ⟨rows, hinside, hkey, hassigns.mono hrelated⟩) hsub h

/-- Passing depends on the operators as a set. -/
lemma Passes.congr (hsub : all ⊆ other) (hsub' : other ⊆ all) :
    Passes database entity ignoreCase all row ↔ Passes database entity ignoreCase other row :=
  ⟨fun h => h.mono hsub', fun h => h.mono hsub⟩

/-- So does being without a fault, though not which fault is the first. -/
lemma checkAll_mono (hsub : all ⊆ other)
    (h : Present.checkAll schema entity ignoreCase other = .ok ()) :
    Present.checkAll schema entity ignoreCase all = .ok () :=
  Present.checkAll_eq_ok.mpr fun present hpresent =>
    Present.checkAll_eq_ok.mp h present (hsub hpresent)

/-- A condition lists the same parameters in whatever source its column is. -/
lemma parameters_map_ofColumn (test : Predicate Column) (source more : Source) :
    (test.map (ColumnRef.ofColumn source)).parameters =
      (test.map (ColumnRef.ofColumn more)).parameters := by
  cases test <;> rfl

/-- The conditions of a statement list the parameters of its predicates. -/
lemma conditionParameters_eq (statement : Statement) :
    statement.conditions.flatMap Condition.parameters =
      statement.predicates.flatMap Predicate.parameters := by
  rw [Statement.predicates, List.flatMap_assoc]
  refine List.flatMap_congr fun condition _ => ?_
  cases condition with
  | test predicate => simp [Condition.parameters]
  | «exists» related => rfl
  | written text sources => rfl

/-- A parameter that the condition of an operator lists. -/
def Present.Lists (schema : Schema) (entity : Entity) (ignoreCase : Bool) (parameter : Parameter)
    (present : Present) : Prop :=
  ∃ predicate, IsConditionOf schema entity ignoreCase present predicate ∧
    parameter ∈ predicate.parameters

/-- One condition of an operator lists what any other lists. -/
lemma Present.lists_iff {present : Present} {predicate : Predicate ColumnRef} {parameter : Parameter}
    (h : IsConditionOf schema entity ignoreCase present predicate) :
    present.Lists schema entity ignoreCase parameter ↔ parameter ∈ predicate.parameters := by
  refine ⟨?_, fun hmem => ⟨predicate, h, hmem⟩⟩
  rintro ⟨found, ⟨source, test, htest, rfl⟩, hmem⟩
  obtain ⟨more, same, hsame, rfl⟩ := h
  obtain rfl : test = same := Except.ok.inj (htest.symm.trans hsame)
  rwa [parameters_map_ofColumn test more source]

/-- A build lists the parameters of its base, and those of the present operators. -/
lemma mem_parameters_of_built {base statement : Statement} {progress : Progress}
    (h : Built schema entity ignoreCase base all statement progress) {parameter : Parameter} :
    parameter ∈ (withRelated statement progress.related).conditions.flatMap
        Condition.parameters ↔
      parameter ∈ base.conditions.flatMap Condition.parameters ∨
        ∃ present ∈ all, present.Lists schema entity ignoreCase parameter := by
  obtain ⟨more, hmore, hconditions⟩ := h.predicates
  have hmem : ∀ present, present ∈ rootOnly all ++ relatedOnly all ↔ present ∈ all := by
    intro present
    by_cases hroot : present.IsRoot <;> simp [rootOnly, relatedOnly, hroot]
  -- that nothing lists it is a fact about all operators, and can be carried over to the predicates
  have hnone : (∀ present ∈ rootOnly all ++ relatedOnly all,
        ¬present.Lists schema entity ignoreCase parameter) ↔
      ∀ predicate ∈ more, parameter ∉ predicate.parameters :=
    forall_iff_of_forall₂ hconditions fun present predicate hcondition =>
      not_congr (Present.lists_iff hcondition)
  rw [conditionParameters_eq, conditionParameters_eq, hmore, List.flatMap_append, List.mem_append,
    List.mem_flatMap (l := more)]
  refine or_congr_right (not_iff_not.mp ?_)
  simpa [hmem] using hnone.symm

end Sets

/-! ## One result -/

section Results

variable {database : Database} {entity : Entity} {ignoreCase : Bool} {filters : Mapping}
  {base result : Statement} {definition permuted : Definition}

/-- Other conditions do not change what an ordering makes of the order. -/
lemma Sql.Statement.orderBy_conditions (statement : Statement) (conditions : List Condition)
    (clauses : List OrderClause) :
    { statement with conditions := conditions }.orderBy clauses =
      (statement.orderBy clauses).map fun next => { next with conditions := conditions } := by
  simp only [Statement.orderBy]
  cases clauses.mapM OrderClause.term with
  | error fault => rfl
  | ok terms =>
      simp only [bind, Except.bind, pure, Except.pure]
      split <;> rfl

/-- Conditions that present operators may have led to: they bring in no source, let through what
passes, and list what the operators list. -/
structure ConditionsOf (database : Database) (entity : Entity) (ignoreCase : Bool)
    (base : Statement) (all : List Present) (conditions : List Condition) : Prop where
  leading : { base with conditions := conditions }.leadingSources = base.leadingSources
  scope : open scoped Classical in
    { base with conditions := conditions }.scope database =
      (base.scope database).filter fun assignment =>
        Passes database entity ignoreCase all (assignment.row (.ofTable entity.table))
  parameters : ∀ parameter, parameter ∈ conditions.flatMap Condition.parameters ↔
    parameter ∈ base.conditions.flatMap Condition.parameters ∨
      ∃ present ∈ all, present.Lists database.schema entity ignoreCase parameter

/-- What is built has the conditions that the present operators lead to. -/
lemma Built.conditionsOf {statement : Statement} {all : List Present} {progress : Progress}
    (h : Built database.schema entity ignoreCase base all statement progress)
    (hover : base.Over entity) :
    ∃ conditions,
      withRelated statement progress.related = { base with conditions := conditions } ∧
      ConditionsOf database entity ignoreCase base all conditions := by
  obtain ⟨conditions, hframe⟩ := h.frame
  obtain ⟨added, hadded, hspoken⟩ := h.withRelated_eq
  refine ⟨conditions, hframe, ?_, ?_, ?_⟩
  · rw [← hframe, hadded]
    exact Statement.leadingSources_withConditions (hover.speaks hspoken)
  · rw [← hframe]
    exact scope_of_built_passes h hover
  · intro parameter
    rw [← mem_parameters_of_built h, hframe]

/-- What comes of a build without a fault: conditions, and the ordering of the base. -/
lemma build_of_checkAll (hover : base.Over entity)
    (hcheck : Present.checkAll database.schema entity ignoreCase
      (present filters definition.fields) = .ok ()) :
    ∃ conditions, ConditionsOf database entity ignoreCase base (present filters definition.fields)
        conditions ∧
      (buildFresh ⟨database.schema, .mapping filters, ignoreCase⟩ definition base).1 =
        ((base.orderBy definition.ordering).map fun ordered =>
          { ordered with conditions := conditions }).mapError .scope := by
  obtain ⟨statement, progress, hbuilt, hrun⟩ := build_run definition hover.root hcheck
  obtain ⟨conditions, hframe, hconditions⟩ := hbuilt.conditionsOf hover
  exact ⟨conditions, hconditions, by rw [hrun, hframe, Statement.orderBy_conditions]⟩

/-- A statement with other conditions of the same operators gives the same rows. -/
lemma sameRows_of_conditionsOf {all other : List Present} {conditions more : List Condition}
    (order : List OrderTerm)
    (h : ConditionsOf database entity ignoreCase base all conditions)
    (h' : ConditionsOf database entity ignoreCase base other more) (hsub : all ⊆ other)
    (hsub' : other ⊆ all) :
    Statement.SameRows database { base with conditions := more, order := order }
      { base with conditions := conditions, order := order } := by
  let statement : Statement := { base with conditions := conditions, order := order }
  have hleading : { statement with conditions := more }.leadingSources =
      statement.leadingSources := h'.leading.trans h.leading.symm
  have hscope : { statement with conditions := more }.scope database = statement.scope database := by
    have hpasses : ∀ row, Passes database entity ignoreCase other row ↔
        Passes database entity ignoreCase all row := fun row => Passes.congr hsub' hsub
    refine (h'.scope.trans (List.filter_congr fun assignment _ => ?_)).trans h.scope.symm
    rw [decide_eq_decide]
    exact hpasses _
  have hlisted : ∀ parameter, parameter ∈ { statement with conditions := more }.parameters ↔
      parameter ∈ statement.parameters := by
    intro parameter
    have hconditions : parameter ∈ more.flatMap Condition.parameters ↔
        parameter ∈ conditions.flatMap Condition.parameters := by
      rw [h.parameters, h'.parameters]
      exact or_congr_right ⟨fun ⟨present, hmem, hlists⟩ => ⟨present, hsub' hmem, hlists⟩,
        fun ⟨present, hmem, hlists⟩ => ⟨present, hsub hmem, hlists⟩⟩
    simp only [Statement.parameters, statement, List.mem_append, hconditions]
  have harranged := arranged?_of_conditions database hleading hscope
  refine ⟨hscope, rfl, fun rows => ?_⟩
  rw [Statement.fetch, Statement.fetch, withParameters_eq_ok, withParameters_eq_ok]
  refine and_congr ?_ ?_
  · simp only [mem_parameters_written]
    exact forall_congr' fun parameter => imp_congr_left (hlisted parameter)
  · exact iff_of_eq (congrArg (fun found : Option (List Assignment) =>
      found.map statement.items = some rows) harranged)

/-- The same operators count in whatever order they are declared. -/
lemma present_perm (filters : Mapping)
    (hperm : permuted.declarations.Perm definition.declarations) :
    (present filters permuted.fields).Perm (present filters definition.fields) := by
  rw [present_eq_filterMap, present_eq_filterMap]
  exact hperm.filterMap _

/-- A build over an entity does not fail exactly if no operator has a fault and the ordering is one. -/
lemma build_eq_ok_iff (hover : base.Over entity) :
    (∃ result, (buildFresh ⟨database.schema, .mapping filters, ignoreCase⟩ definition base).1 =
      .ok result) ↔
    Present.checkAll database.schema entity ignoreCase (present filters definition.fields) =
      .ok () ∧ ∃ ordered, base.orderBy definition.ordering = .ok ordered := by
  cases hcheck : Present.checkAll database.schema entity ignoreCase
      (present filters definition.fields) with
  | error fault => simp [build_fault definition hover.root hcheck]
  | ok _ =>
      obtain ⟨conditions, -, hrun⟩ := build_of_checkAll hover hcheck
      rw [hrun]
      cases base.orderBy definition.ordering <;> simp [Except.map, Except.mapError]

/-- What can be built in one order of declaration can be built in any other. -/
lemma exists_build_of_permuted (hover : ∀ entity, base.root = .entity entity → base.Over entity)
    (hperm : permuted.declarations.Perm definition.declarations)
    (hordering : permuted.ordering = definition.ordering)
    (h : ∃ result, (buildFresh ⟨database.schema, .mapping filters, ignoreCase⟩ definition base).1 =
      .ok result) :
    ∃ result, (buildFresh ⟨database.schema, .mapping filters, ignoreCase⟩ permuted base).1 =
      .ok result := by
  have hsame := present_perm filters hperm
  by_cases hentity : ∃ entity, base.root = .entity entity
  · obtain ⟨entity, hroot⟩ := hentity
    rw [build_eq_ok_iff (hover entity hroot)] at h ⊢
    rw [hordering]
    exact ⟨checkAll_mono hsame.subset h.1, h.2⟩
  · obtain ⟨result, hbuild⟩ := h
    obtain ⟨hroot, hnothing⟩ := nothing_of_build (not_exists.mp hentity) hbuild
    rw [hnothing, List.perm_nil] at hsame
    refine ⟨result, ?_⟩
    rw [build_of_nothing hroot hsame, hordering, ← build_of_nothing hroot hnothing]
    exact hbuild

/-- **The order of declarations does not matter.**  However the declarations of a definition are
arranged, across fields as well, it can be built exactly if it can be built as it is; and what is built
selects the same rows in every database, each as often, whatever the ordering makes of them. -/
theorem fetch_of_permuted (hover : ∀ entity, base.root = .entity entity → base.Over entity)
    (hperm : permuted.declarations.Perm definition.declarations)
    (hordering : permuted.ordering = definition.ordering) :
    ((∃ result, (buildFresh ⟨database.schema, .mapping filters, ignoreCase⟩ permuted base).1 =
        .ok result) ↔
      ∃ result, (buildFresh ⟨database.schema, .mapping filters, ignoreCase⟩ definition base).1 =
        .ok result) ∧
    ∀ one other,
      (buildFresh ⟨database.schema, .mapping filters, ignoreCase⟩ permuted base).1 = .ok one →
      (buildFresh ⟨database.schema, .mapping filters, ignoreCase⟩ definition base).1 = .ok other →
      one.SameRows database other := by
  refine ⟨⟨exists_build_of_permuted hover hperm.symm hordering.symm,
    exists_build_of_permuted hover hperm hordering⟩, ?_⟩
  intro one other hone hother
  have hsame := present_perm filters hperm
  by_cases hentity : ∃ entity, base.root = .entity entity
  · obtain ⟨entity, hroot⟩ := hentity
    have hbase := hover entity hroot
    have hcheck := ((build_eq_ok_iff hbase).mp ⟨one, hone⟩).1
    have hcheck' := ((build_eq_ok_iff hbase).mp ⟨other, hother⟩).1
    obtain ⟨more, hmore, hrun⟩ := build_of_checkAll hbase hcheck
    obtain ⟨conditions, hconditions, hrun'⟩ := build_of_checkAll hbase hcheck'
    rw [hrun, hordering] at hone
    rw [hrun'] at hother
    cases hordered : base.orderBy definition.ordering with
    | error fault => simp [hordered, Except.map, Except.mapError] at hother
    | ok ordered =>
        obtain ⟨order, rfl⟩ := Statement.order_of_orderBy hordered
        rw [hordered] at hone hother
        obtain rfl := Except.ok.inj hone
        obtain rfl := Except.ok.inj hother
        exact (sameRows_of_conditionsOf order hconditions hmore hsame.symm.subset hsame.subset :)
  · obtain ⟨hroot, hnothing⟩ := nothing_of_build (not_exists.mp hentity) hother
    rw [hnothing, List.perm_nil] at hsame
    rw [build_of_nothing hroot hsame, hordering, ← build_of_nothing hroot hnothing, hother] at hone
    rw [Except.ok.inj hone]
    exact .refl database one

end Results

namespace Sample

/-- Posts by their title, and by who has said what in a comment. -/
def byCommentAndTitle : Definition where
  fields := [⟨["title"], [(.op .contains, "title")]⟩,
    ⟨["comments", "author", "name"], [(.op .equalTo, "who")]⟩,
    ⟨["comments", "body"], [(.op .contains, "what")]⟩]
  ordering := [.text "view_count DESC"]

/-- The same declarations the other way round. -/
def byCommentAndTitleReversed : Definition where
  fields := [⟨["comments", "body"], [(.op .contains, "what")]⟩,
    ⟨["comments", "author", "name"], [(.op .equalTo, "who")]⟩,
    ⟨["title"], [(.op .contains, "title")]⟩]
  ordering := [.text "view_count DESC"]

/-- Two posts have such a title, one of them with such a comment. -/
def commentFilters : Mapping :=
  [(.str "title", .str "dsl"), (.str "who", .str "alice"), (.str "what", .str "more")]

lemma allPosts_base : ∀ entity, allPosts.root = .entity entity → allPosts.Over entity := by
  intro entity hroot
  cases hroot
  exact allPosts_ofParents.isOver

end Sample

/-- The declarations reversed: whatever comes of one arrangement comes of the other. -/
theorem fetch_of_permuted_reversed :
    ((∃ result, (buildFresh ⟨Sample.database.schema, .mapping Sample.commentFilters, true⟩
        Sample.byCommentAndTitleReversed Sample.allPosts).1 = .ok result) ↔
      ∃ result, (buildFresh ⟨Sample.database.schema, .mapping Sample.commentFilters, true⟩
        Sample.byCommentAndTitle Sample.allPosts).1 = .ok result) ∧
    ∀ one other,
      (buildFresh ⟨Sample.database.schema, .mapping Sample.commentFilters, true⟩
        Sample.byCommentAndTitleReversed Sample.allPosts).1 = .ok one →
      (buildFresh ⟨Sample.database.schema, .mapping Sample.commentFilters, true⟩
        Sample.byCommentAndTitle Sample.allPosts).1 = .ok other →
      one.SameRows Sample.database other := by
  have hperm : Sample.byCommentAndTitleReversed.declarations.Perm
      Sample.byCommentAndTitle.declarations := List.reverse_perm Sample.byCommentAndTitle.declarations
  exact fetch_of_permuted Sample.allPosts_base hperm rfl

end FilterQuery
