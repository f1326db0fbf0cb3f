import Mathlib.Tactic.Common
import FilterQuery.Proofs.DeclarationOrder
import FilterQuery.Proofs.Patterns

/-!
# Texts that contain a text

What the operator `contains` asks of a column, and that the setting about case has no say in it.

**A setting without effect.**  With the setting, the database is asked to put both sides in lower case
before it compares them, as it does by itself.  `Predicate.withCase` changes the setting of a
condition, and `holdsOn_withCase` says that the condition stays true of the same cells.  Everything
that is asked of a row then stays as it is: `passes_ignoreCase`.

**A literal test.**  `contains_iff_occurs`: the condition is true of a text exactly if the given text occurs
in what is seen of it, characters that are marks of patterns included.  Whatever queries are built with the
setting, the same can be built without it, and the rows are the same.
-/

namespace FilterQuery

open FilterQuery.Sql

/-! ## A setting without effect -/

/-- A condition with another setting about case. -/
def Sql.Predicate.withCase {α : Type} (ignoreCase : Bool) : Predicate α → Predicate α
  | .contains column _ pattern => .contains column ignoreCase pattern
  | test => test

section Predicates

variable {α : Type} (ignoreCase other : Bool) (test : Predicate α)

@[simp]
lemma Sql.Predicate.column_withCase : (test.withCase ignoreCase).column = test.column := by
  cases test <;> rfl

@[simp]
lemma Sql.Predicate.parameters_withCase (test : Predicate ColumnRef) :
    (test.withCase ignoreCase).parameters = test.parameters := by
  cases test <;> rfl

lemma Sql.Predicate.withCase_map {β : Type} (f : α → β) :
    (test.map f).withCase ignoreCase = (test.withCase ignoreCase).map f := by
  cases test <;> rfl

lemma Sql.containsPattern_lowerAscii (pattern : String) :
    containsPattern (Text.lowerAscii pattern) =
      (containsPattern pattern).map Text.foldAscii := by
  simp only [containsPattern, Text.toList_lowerAscii, List.map_append, List.map_cons]
  rfl

/-- A condition is true of the same cells with either setting. -/
@[simp]
lemma Sql.Predicate.holdsOn_withCase (type : ColumnType) (cell : Cell) :
    (test.withCase ignoreCase).holdsOn type cell = test.holdsOn type cell := by
  cases test with
  | contains column setting pattern =>
      simp only [withCase, holdsOn]
      cases cell.shown? with
      | none => rfl
      | some text =>
          -- folding both sides first, as the setting asks, is what the match does anyway
          have hfold : Like.isMatch (containsPattern (Text.lowerAscii pattern))
              (Text.lowerAscii text).toList = Like.isMatch (containsPattern pattern) text.toList := by
            rw [containsPattern_lowerAscii, Text.toList_lowerAscii, Like.isMatch_map_foldAscii]
          simp only [hfold, ite_self]
  | compare | flag | isNull => rfl

@[simp]
lemma Sql.Predicate.holdsFor_withCase (row : Row) (test : Predicate Column) :
    (test.withCase ignoreCase).holdsFor row = test.holdsFor row := by
  rw [holdsFor, holdsOn_withCase, column_withCase]
  rfl

/-- An operator leads to the same condition but for the setting, or to the same fault. -/
lemma Operator.predicate_withCase (operator : Operator) (column : α) (value : Value) :
    operator.predicate column value ignoreCase =
      (operator.predicate column value other).map (Predicate.withCase ignoreCase) := by
  cases operator with
  | contains =>
      simp only [Operator.predicate]
      cases value.text? <;> rfl
  | present => rfl
  | equalTo | notEqualTo | greaterThan | greaterThanOrEqualTo | lessThan | lessThanOrEqualTo =>
      cases value <;> rfl

end Predicates

section Rows

variable {database : Database} {schema : Schema} {entity : Entity} {ignoreCase : Bool}
  {all : List Present} {row : Row}

namespace Present

/-- So does a present operator. -/
lemma test_withCase (schema : Schema) (entity : Entity) (ignoreCase other : Bool)
    (present : Present) :
    present.test schema entity ignoreCase =
      (present.test schema entity other).map (Predicate.withCase ignoreCase) := by
  simp only [Present.test]
  cases operatorOf? present.declared with
  | none => rfl
  | some operator =>
      cases schema.columnAt entity present.path with
      | error cause => rfl
      | ok column =>
          dsimp only
          rw [Operator.predicate_withCase ignoreCase other]
          cases operator.predicate column present.value other <;> rfl

/-- The first fault is the same with either setting. -/
lemma checkAll_ignoreCase (schema : Schema) (entity : Entity) (ignoreCase other : Bool)
    (all : List Present) :
    checkAll schema entity ignoreCase all = checkAll schema entity other all := by
  induction all with
  | nil => rfl
  | cons present rest ih =>
      rw [checkAll, checkAll, test_withCase schema entity ignoreCase other, ih]
      cases present.test schema entity other <;> rfl

/-- What an operator asks is met by the same rows. -/
lemma Holds.withCase {present : Present} (other : Bool)
    (h : present.Holds schema entity ignoreCase row) : present.Holds schema entity other row := by
  obtain ⟨test, htest, hrow⟩ := h
  refine ⟨test.withCase other, ?_, by rwa [Predicate.holdsFor_withCase]⟩
  rw [test_withCase schema entity other ignoreCase, htest]
  rfl

/-- Its parameters are the same. -/
lemma Lists.withCase {present : Present} {parameter : Parameter} (other : Bool)
    (h : present.Lists schema entity ignoreCase parameter) :
    present.Lists schema entity other parameter := by
  obtain ⟨_, ⟨source, test, htest, rfl⟩, hlisted⟩ := h
  refine ⟨(test.withCase other).map (.ofColumn source), ⟨source, test.withCase other, ?_, rfl⟩, ?_⟩
  · rw [test_withCase schema entity other ignoreCase, htest]
    rfl
  · rwa [← Predicate.withCase_map, Predicate.parameters_withCase]

end Present

/-- The same rows pass with either setting. -/
lemma Passes.withCase (other : Bool) (h : Passes database entity ignoreCase all row) :
    Passes database entity other all row := by
  refine ⟨fun present hpresent => (h.1 present hpresent).withCase other, fun hsome => ?_⟩
  obtain ⟨rows, hinside, hkey, hassigns⟩ := h.2 hsome
  exact ⟨rows, hinside, hkey, hassigns.root, hassigns.follows,
    fun present hpresent => (hassigns.holds present hpresent).withCase other⟩

lemma passes_ignoreCase (one other : Bool) :
    Passes database entity one all row ↔ Passes database entity other all row :=
  ⟨Passes.withCase other, Passes.withCase one⟩

/-- Conditions that present operators lead to with one setting do for those of the other. -/
lemma ConditionsOf.withCase {base : Statement} {conditions : List Condition} (other : Bool)
    (h : ConditionsOf database entity ignoreCase base all conditions) :
    ConditionsOf database entity other base all conditions where
  leading := h.leading
  scope := by
    rw [h.scope]
    refine List.filter_congr fun assignment _ => ?_
    rw [decide_eq_decide]
    exact passes_ignoreCase ignoreCase other
  parameters := fun parameter => by
    rw [h.parameters parameter]
    exact or_congr_right ⟨
      fun ⟨present, hpresent, hlists⟩ => ⟨present, hpresent, hlists.withCase other⟩,
      fun ⟨present, hpresent, hlists⟩ => ⟨present, hpresent, hlists.withCase ignoreCase⟩⟩

end Rows

/-! ## A literal test -/

section Queries

variable {database : Database} {filters : Mapping} {base : Statement} {definition : Definition}
  {ignoreCase other : Bool}

/-- What can be built with one setting can be built with the other. -/
lemma exists_build_withCase (hover : ∀ entity, base.root = .entity entity → base.Over entity)
    (h : ∃ result, (buildFresh ⟨database.schema, .mapping filters, ignoreCase⟩ definition base).1 =
      .ok result) :
    ∃ result, (buildFresh ⟨database.schema, .mapping filters, other⟩ definition base).1 =
      .ok result := by
  by_cases hentity : ∃ entity, base.root = .entity entity
  · obtain ⟨entity, hroot⟩ := hentity
    rw [build_eq_ok_iff (hover entity hroot)] at h ⊢
    rwa [Present.checkAll_ignoreCase database.schema entity other ignoreCase]
  · obtain ⟨result, hbuild⟩ := h
    obtain ⟨hroot, hnothing⟩ := nothing_of_build (not_exists.mp hentity) hbuild
    exact ⟨result, (build_of_nothing hroot hnothing).trans
      ((build_of_nothing hroot hnothing).symm.trans hbuild)⟩

/-- What is built with either setting gives the same rows. -/
lemma sameRows_withCase (hover : ∀ entity, base.root = .entity entity → base.Over entity)
    {one two : Statement}
    (hone : (buildFresh ⟨database.schema, .mapping filters, ignoreCase⟩ definition base).1 = .ok one)
    (htwo : (buildFresh ⟨database.schema, .mapping filters, other⟩ definition base).1 = .ok two) :
    one.SameRows database two := by
  by_cases hentity : ∃ entity, base.root = .entity entity
  · obtain ⟨entity, hroot⟩ := hentity
    have hbase := hover entity hroot
    have hcheck := ((build_eq_ok_iff hbase).mp ⟨one, hone⟩).1
    have hcheck' := ((build_eq_ok_iff hbase).mp ⟨two, htwo⟩).1
    obtain ⟨conditions, hconditions, hrun⟩ := build_of_checkAll hbase hcheck
    obtain ⟨more, hmore, hrun'⟩ := build_of_checkAll hbase hcheck'
    rw [hrun] at hone
    rw [hrun'] at htwo
    cases hordered : base.orderBy definition.ordering with
    | error fault => simp [hordered, Except.map, Except.mapError] at hone
    | ok ordered =>
        obtain ⟨order, rfl⟩ := Statement.order_of_orderBy hordered
        rw [hordered] at hone htwo
        obtain rfl := Except.ok.inj hone
        obtain rfl := Except.ok.inj htwo
        exact (sameRows_of_conditionsOf order hmore (hconditions.withCase other)
          (List.Subset.refl _) (List.Subset.refl _) :)
  · obtain ⟨hroot, hnothing⟩ := nothing_of_build (not_exists.mp hentity) hone
    rw [build_of_nothing hroot hnothing, ← build_of_nothing hroot hnothing, htwo] at hone
    rw [Except.ok.inj hone]
    exact .refl database one

end Queries

/-- **A literal test.**  With a text without null characters, whatever marks are in it, `contains` is
true of the texts in which it occurs, letters of ASCII in either case, and never of an empty cell.  Both
texts count as they are seen: up to a null character, if there is one, and with the replacement character
for what is none.  This is so with either setting, and what can be built with one can be built with the
other and gives the same rows in every database. -/
theorem contains_iff_occurs {value : Value} {text : String} {database : Database}
    {filters : Mapping} {definition : Definition} {base : Statement}
    (htext : value.text? = some text) (hnull : '\x00' ∉ text.toList)
    (hover : ∀ entity, base.root = .entity entity → base.Over entity) :
    (∀ column : Column, ∃ test : Bool → Predicate Column, ∀ ignoreCase,
      Operator.contains.predicate column value ignoreCase = .ok (test ignoreCase) ∧
      (∀ shown, (test ignoreCase).holdsOn column.type (.text shown) = true ↔
        (Like.seen text.toList).map Text.foldAscii <:+:
          (Like.seen shown.toList).map Text.foldAscii) ∧
      (test ignoreCase).holdsOn column.type .null = false) ∧
    ((∃ result, (buildFresh ⟨database.schema, .mapping filters, true⟩ definition base).1 =
        .ok result) ↔
      ∃ result, (buildFresh ⟨database.schema, .mapping filters, false⟩ definition base).1 =
        .ok result) ∧
    ∀ one other,
      (buildFresh ⟨database.schema, .mapping filters, true⟩ definition base).1 = .ok one →
      (buildFresh ⟨database.schema, .mapping filters, false⟩ definition base).1 = .ok other →
      one.SameRows database other := by
  refine ⟨fun column => ?_, ⟨exists_build_withCase hover, exists_build_withCase hover⟩,
    fun one other hone hother => sameRows_withCase hover hone hother⟩
  let test (ignoreCase : Bool) : Predicate Column :=
    .contains column ignoreCase (Like.escaped text)
  have hcase : ∀ ignoreCase, test ignoreCase = (test false).withCase ignoreCase := fun _ => rfl
  refine ⟨test, fun ignoreCase => ⟨?_, fun shown => ?_, rfl⟩⟩
  · simp only [Operator.predicate, htext, test]
  · have hshown : (test false).holdsOn column.type (.text shown) =
        Like.isMatch (containsPattern (Like.escaped text)) shown.toList := by
      simp only [test, Predicate.holdsOn, Cell.shown?, Bool.false_eq_true, if_false]
    rw [hcase, Predicate.holdsOn_withCase, hshown]
    exact Like.isMatch_containsPattern_iff hnull shown.toList

/-- Marks of patterns are looked for like any other character, and the rows of a query by titles and
comments are the same with either setting. -/
theorem contains_iff_occurs_marks :
    (∃ test : Bool → Predicate Column, ∀ ignoreCase,
      Operator.contains.predicate (Sample.column "name" .string) (.str "0%_/X") ignoreCase =
        .ok (test ignoreCase) ∧
      (test ignoreCase).holdsOn .string (.text "100%_/x") = true ∧
      (test ignoreCase).holdsOn .string (.text "100ab/x") = false) ∧
    ∀ one other,
      (buildFresh ⟨Sample.database.schema, .mapping Sample.commentFilters, true⟩
        Sample.byCommentAndTitle Sample.allPosts).1 = .ok one →
      (buildFresh ⟨Sample.database.schema, .mapping Sample.commentFilters, false⟩
        Sample.byCommentAndTitle Sample.allPosts).1 = .ok other →
      one.SameRows Sample.database other := by
  obtain ⟨hcolumn, -, hrows⟩ := @contains_iff_occurs (.str "0%_/X") "0%_/X" Sample.database
    Sample.commentFilters Sample.byCommentAndTitle Sample.allPosts rfl (by decide)
    Sample.allPosts_base
  obtain ⟨test, htest⟩ := hcolumn (Sample.column "name" .string)
  refine ⟨⟨test, fun ignoreCase => ?_⟩, hrows⟩
  obtain ⟨hpredicate, hshown, -⟩ := htest ignoreCase
  refine ⟨hpredicate, (hshown _).mpr (by decide), Bool.eq_false_iff.mpr (mt (hshown _).mp ?_)⟩
  decide

/-- **Not what stands behind a null character**: `dsl` occurs in this text, and is not seen in it. -/
theorem not_contains_iff_occurs_behind_null :
    ¬∀ (column : Column) (value : Value) (text shown : String) (ignoreCase : Bool)
      (test : Predicate Column), value.text? = some text → '\x00' ∉ text.toList →
      Operator.contains.predicate column value ignoreCase = .ok test →
      (test.holdsOn column.type (.text shown) = true ↔
        text.toList.map Text.foldAscii <:+: shown.toList.map Text.foldAscii) := by
  intro hoccurs
  have hiff := hoccurs (Sample.column "name" .string) (.str "dsl") "dsl" "x\x00dsl" false
    (.contains (Sample.column "name" .string) false (Like.escaped "dsl")) rfl (by decide) rfl
  have hnot : (Predicate.contains (Sample.column "name" .string) false
      (Like.escaped "dsl")).holdsOn .string (.text "x\x00dsl") = false := by decide +kernel
  cases hnot.symm.trans (hiff.mpr (by decide +kernel))

end FilterQuery
