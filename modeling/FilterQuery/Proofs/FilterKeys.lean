import Mathlib.Tactic.Common
import FilterQuery.Proofs.QueryRows

/-!
# Keys of filter values

A runtime key is declared in a definition, and supplied with the filter values; both places turn it
into a text, each in its own way.  A value whose key is turned into another text than the declared
one is not found, and its operator is skipped without a fault.

`normalKey_eq_display_iff`: the two texts are the same for all keys but operators, whose spelling is
not their display form.  `declared_key_adds_iff`: hence an operator that is declared under a key adds
its one condition for a value under the same key exactly if the key is no operator.
-/

namespace FilterQuery

open FilterQuery.Sql

/-- The two texts of a key. -/
lemma normalKey_eq_display_iff (key : Value) :
    Options.normalKey key = key.display ↔ ∀ member, key ≠ .op member := by
  cases key with
  | op operator =>
      refine iff_of_false ?_ fun h => h operator rfl
      cases operator <;> decide
  | _ => simp [Options.normalKey]

/-- The filter values of options with one key. -/
lemma filters_singleton (settings : Settings) {key : Value} (value : Value)
    (hkey : Options.keyFault? key = none) :
    Options.filters settings
        (.mapping [(.str settings.filtersKey, .mapping [(key, value)])]) =
      .ok [(.str (Options.normalKey key), value)] := by
  simp [Options.filters, Options.ofRecord?, Mapping.find?, Value.sameKey, Options.read,
    Options.firstFault?, hkey, Options.normalize, Mapping.ofPairs, Mapping.merge, Mapping.insert, Except.mapError]

/-- The definition of one field with one operator. -/
lemma build_singleton {path : Value} {segments : FieldPath} (name key : Value)
    (hpath : FieldPath.ofValue path = .ok segments) :
    (Configure.steps [.field path (some (.mapping [(name, key)])) []]).build =
      .ok ⟨[⟨segments, [(name, key.display)]⟩], []⟩ := by
  simp [Configure.build, Definition.ofSteps, Definition.extend, Definition.declare,
    Definition.fieldFilter, Definition.repeated?, hpath, Definition.operatorMapping,
    Value.isTruthy, Mapping.ofValue, Mapping.update, Mapping.merge, Mapping.insert,
    Definition.withKeys, Definition.empty, Except.mapError, bind, Except.bind, pure, Except.pure]

/-- Whether the operator counts depends on the two texts only. -/
lemma present_singleton (segments : FieldPath) (name value : Value) (supplied declared : String) :
    present [(.str supplied, value)] [⟨segments, [(name, declared)]⟩] =
      if supplied = declared then [⟨segments, name, value⟩] else [] := by
  by_cases h : supplied = declared <;>
    simp [present, FieldFilter.present?, Mapping.find?, Value.sameKey, h]

/-- All conditions of a statement on single columns, those of its subqueries included. -/
def Sql.Statement.predicates (statement : Statement) : List (Predicate ColumnRef) :=
  statement.conditions.flatMap fun condition =>
    match condition with
    | .test predicate => [predicate]
    | .exists related => related.predicates
    | .written .. => []

lemma Sql.Statement.predicates_withConditions (statement : Statement) (more : List Condition) :
    (statement.withConditions more).predicates = statement.predicates ++
      more.flatMap fun condition =>
        match condition with
        | .test predicate => [predicate]
        | .exists related => related.predicates
        | .written .. => [] :=
  List.flatMap_append ..

section Keys

variable {schema : Schema} {settings : Settings} {base : Statement} {entity : Entity}

/-- A predicate is the condition of a present operator, in some source. -/
def IsConditionOf (schema : Schema) (entity : Entity) (ignoreCase : Bool) (present : Present)
    (predicate : Predicate ColumnRef) : Prop :=
  ∃ source test, present.test schema entity ignoreCase = .ok test ∧
    predicate = test.map (ColumnRef.ofColumn source)

/-- The conditions on the root entity, seen as predicates. -/
lemma exists_tests_of_rootConditions {ignoreCase : Bool} {done : List Present}
    {added : List Condition}
    (h : List.Forall₂ (RootCondition schema entity ignoreCase) done added) :
    ∃ tests : List (Predicate ColumnRef), added = tests.map Condition.test ∧
      List.Forall₂ (IsConditionOf schema entity ignoreCase) done tests := by
  induction h with
  | nil => exact ⟨[], rfl, .nil⟩
  | cons hfirst _ ih =>
      obtain ⟨test, htest, rfl⟩ := hfirst
      obtain ⟨tests, rfl, htests⟩ := ih
      exact ⟨_ :: tests, rfl, .cons ⟨_, test, htest, rfl⟩ htests⟩

/-- A build adds one condition for each present operator: those on the root entity first, then those
of the subquery. -/
lemma Built.predicates {ignoreCase : Bool} {all : List Present} {statement : Statement}
    {progress : Progress} (h : Built schema entity ignoreCase base all statement progress) :
    ∃ more, (withRelated statement progress.related).predicates = base.predicates ++ more ∧
      List.Forall₂ (IsConditionOf schema entity ignoreCase) (rootOnly all ++ relatedOnly all)
        more := by
  obtain ⟨added, rfl, hadded⟩ := h.conditions
  obtain ⟨tests, rfl, htests⟩ := exists_tests_of_rootConditions hadded
  have hflat : (tests.map Condition.test).flatMap (fun condition =>
      match condition with
      | .test predicate => [predicate]
      | .exists related => related.predicates
      | .written .. => []) = tests := by
    simp [List.flatMap_map]
  cases h.holding with
  | @nothing events hnone =>
      refine ⟨tests, ?_, by rwa [hnone, List.append_nil]⟩
      exact (Statement.predicates_withConditions base _).trans (by rw [hflat])
  | @subquery tracker related fresh events hsome hcollected =>
      refine ⟨tests ++ related.predicates, ?_, List.rel_append htests (hcollected.predicates.imp ?_)⟩
      · rw [withRelated_added, Statement.predicates_withConditions, List.flatMap_append, hflat]
        simp
      · rintro present predicate ⟨known, test, -, htest, rfl⟩
        exact ⟨known.source, test, htest, rfl⟩

/-- A build without present operators gives back its base. -/
lemma Built.eq_base_of_nil {ignoreCase : Bool} {statement : Statement} {progress : Progress}
    (h : Built schema entity ignoreCase base [] statement progress) :
    withRelated statement progress.related = base := by
  obtain ⟨added, rfl, hadded⟩ := h.conditions
  obtain rfl := List.forall₂_nil_left_iff.mp hadded
  cases h.holding with
  | nothing hnone => simp [withRelated]
  | subquery hsome hcollected => exact absurd rfl hsome

/-- **A declared key and the same key supplied.**  An operator that is declared under a key that can be
written adds one condition for a value that is supplied under this very key exactly if the key is no
operator; under an operator it is skipped, and the query is its base. -/
theorem declared_key_adds_iff {path : Value} {segments : FieldPath} {name key value : Value}
    {operator : Operator} {column : Column} {test : Predicate Column}
    (hroot : base.root = .entity entity)
    (hpath : FieldPath.ofValue path = .ok segments)
    (hkey : Options.keyFault? key = none)
    (hoperator : operatorOf? name = some operator)
    (hcolumn : schema.columnAt entity segments = .ok column)
    (htest : operator.predicate column value settings.ignoreCase = .ok test) :
    ∃ result, (query schema settings base
        (.mapping [(.str settings.filtersKey, .mapping [(key, value)])])
        (.steps [.field path (some (.mapping [(name, key)])) []])).1 = .ok result ∧
      ((∃ source, result.predicates =
        base.predicates ++ [test.map (ColumnRef.ofColumn source)]) ↔ ∀ member, key ≠ .op member) ∧
      ((∃ member, key = .op member) → result = base) := by
  have hpresent : Present.test schema entity settings.ignoreCase ⟨segments, name, value⟩ =
      .ok test := Present.test_eq_ok.mpr ⟨operator, column, hoperator, hcolumn, htest⟩
  have hcheck : ∀ supplied declared : String, Present.checkAll schema entity settings.ignoreCase
      (present [(.str supplied, value)] [⟨segments, [(name, declared)]⟩]) = .ok () := by
    intro supplied declared
    rw [present_singleton, Present.checkAll_eq_ok]
    split <;> simp [hpresent]
  obtain ⟨statement, progress, hbuilt, hrun⟩ := build_run
    ⟨[⟨segments, [(name, key.display)]⟩], []⟩ hroot
    (hcheck (Options.normalKey key) key.display)
  refine ⟨withRelated statement progress.related, ?_, ?_⟩
  · simp only [query, build_singleton name key hpath, filters_singleton settings value hkey, hrun,
      Statement.orderBy_nil, Except.mapError]
  · rw [present_singleton] at hbuilt
    by_cases hmember : ∀ member, key ≠ .op member
    · rw [if_pos ((normalKey_eq_display_iff key).mpr hmember)] at hbuilt
      obtain ⟨more, hmore, hconditions⟩ := hbuilt.predicates
      have honly : rootOnly [⟨segments, name, value⟩] ++ relatedOnly [⟨segments, name, value⟩] =
          [⟨segments, name, value⟩] := by
        by_cases hlength : Present.IsRoot ⟨segments, name, value⟩
        · rw [(only_of_isRoot hlength).1, (only_of_isRoot hlength).2, List.append_nil]
        · rw [(only_of_not_isRoot hlength).1, (only_of_not_isRoot hlength).2, List.nil_append]
      rw [honly, List.forall₂_cons_left_iff] at hconditions
      obtain ⟨predicate, rest, ⟨source, other, hother, rfl⟩, hrest, rfl⟩ := hconditions
      obtain rfl : test = other := Except.ok.inj (hpresent.symm.trans hother)
      obtain rfl := List.forall₂_nil_left_iff.mp hrest
      refine ⟨iff_of_true ⟨source, hmore⟩ hmember, ?_⟩
      rintro ⟨member, rfl⟩
      exact absurd rfl (hmember member)
    · rw [if_neg fun h => hmember ((normalKey_eq_display_iff key).mp h)] at hbuilt
      have hbase := hbuilt.eq_base_of_nil
      rw [hbase]
      refine ⟨iff_of_false ?_ hmember, fun _ => rfl⟩
      rintro ⟨source, hmore⟩
      simpa using congrArg List.length hmore

end Keys

/-- The key `1` is supplied as it is declared. -/
theorem declared_key_adds_one :
    ∃ result, (query Sample.schema .default Sample.allPosts
        (.mapping [(.str Settings.default.filtersKey,
          .mapping [(.int 1, .str "SQLAlchemy tips")])])
        (.steps [.field (.str "title") (some (.mapping [(.op .equalTo, .int 1)])) []])).1 =
          .ok result ∧
      ((∃ source, result.predicates = Sample.allPosts.predicates ++
        [(Predicate.compare (Sample.column "title" .string) .equal
          (.str "SQLAlchemy tips")).map (ColumnRef.ofColumn source)]) ↔
            ∀ member, Value.int 1 ≠ .op member) ∧
      ((∃ member, Value.int 1 = .op member) → result = Sample.allPosts) := by
  have hpath : FieldPath.ofValue (.str "title") = .ok ["title"] := by rfl
  have hcolumn : Sample.schema.columnAt Sample.post ["title"] =
      .ok (Sample.column "title" .string) := by rfl
  exact declared_key_adds_iff rfl hpath (by decide +kernel) rfl hcolumn rfl

/-- The operator `contains` as a key is not: the query is its base, and no condition is added. -/
theorem not_adds_of_operator_key :
    ¬ ∃ result predicate, (query Sample.schema .default Sample.allPosts
        (.mapping [(.str Settings.default.filtersKey,
          .mapping [(.op .contains, .str "dsl")])])
        (.steps [.field (.str "title") (some (.mapping [(.str "contains", .op .contains)])) []])).1 =
          .ok result ∧
      result.predicates = Sample.allPosts.predicates ++ [predicate] := by
  rintro ⟨result, predicate, hquery, hone⟩
  have hbase : (query Sample.schema .default Sample.allPosts
      (.mapping [(.str Settings.default.filtersKey, .mapping [(.op .contains, .str "dsl")])])
      (.steps [.field (.str "title") (some (.mapping [(.str "contains", .op .contains)])) []])).1 =
        .ok Sample.allPosts := by rfl
  obtain rfl := Except.ok.inj (hbase.symm.trans hquery)
  simpa using congrArg List.length hone

end FilterQuery
