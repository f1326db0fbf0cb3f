import Mathlib.Tactic.Common
import FilterQuery.Proofs.QueryRows

/-!
# Skipped operators

What a build comes to depends on the present operators and on nothing else of a definition and of
the filter values.

**Two runs.**  `Alike` relates two builds: from progress that is equal but for the reported events
they come to equal results, and to progress that is equal but for the events.  It is closed under
everything that builds are made of, and every part of a build is alike to itself when the filter
values, or the operators declared beside the one at work, are others.

**One form for all.**  `Asked` is what a present operator says: path, operator name and value.
`Asked.apply` does what a build does for it, reports left out, and `build_alike` says that a build is
alike to carrying out what is asked, one after the other.  `build_of_asked` is the law: equal
sequences of what is asked, and equal orderings, have equal outcomes.
-/

namespace FilterQuery

open FilterQuery.Sql

/-! ## Two runs -/

/-- Progress without what has been reported. -/
def Progress.silent (progress : Progress) : Progress :=
  { progress with events := [] }

/-- Two builds are alike: what was reported before makes no difference, and what they report is the
only difference between them. -/
def Alike {α : Type} (x y : Build α) : Prop :=
  ∀ progress progress' : Progress, progress.silent = progress'.silent →
    (x.run progress).1 = (y.run progress').1 ∧
      (x.run progress).2.silent = (y.run progress').2.silent

/-- Progress that is equal but for the events, part by part. -/
lemma Progress.silent_eq_iff {progress progress' : Progress} :
    progress.silent = progress'.silent ↔ progress.tracker = progress'.tracker ∧
      progress.related = progress'.related ∧ progress.fresh = progress'.fresh := by
  simp [silent]

namespace Alike

variable {α β : Type} {x y z : Build α}

lemma symm (h : Alike x y) : Alike y x := fun progress progress' hsilent =>
  ⟨(h progress' progress hsilent.symm).1.symm, (h progress' progress hsilent.symm).2.symm⟩

lemma trans (h : Alike x y) (h' : Alike y z) : Alike x z := fun progress progress' hsilent =>
  ⟨(h progress progress' hsilent).1.trans (h' progress' progress' rfl).1,
    (h progress progress' hsilent).2.trans (h' progress' progress' rfl).2⟩

lemma of_pure (a : α) : Alike (pure a) (pure a) := fun _ _ hsilent => ⟨rfl, hsilent⟩

lemma of_throw (fault : BuildFault) : Alike (throw fault : Build α) (throw fault) :=
  fun _ _ hsilent => ⟨rfl, hsilent⟩

lemma of_liftExcept (result : Except BuildFault α) :
    Alike (liftExcept result) (liftExcept result) :=
  fun progress progress' hsilent => by simpa using hsilent

/-- One after the other. -/
lemma bind {f g : α → Build β} (h : Alike x y) (hf : ∀ a, Alike (f a) (g a)) :
    Alike (x >>= f) (y >>= g) := by
  intro progress progress' hsilent
  obtain ⟨hresult, hafter⟩ := h progress progress' hsilent
  rw [Build.run_bind, Build.run_bind]
  rcases hx : x.run progress with ⟨result, after⟩
  rcases hy : y.run progress' with ⟨result', after'⟩
  rw [hx, hy] at hresult hafter
  obtain rfl : result = result' := hresult
  cases result with
  | ok a => exact hf a after after' hafter
  | error fault => exact ⟨rfl, hafter⟩

/-- Progress may be looked at, as long as the events are not. -/
lemma of_get {f g : Progress → Build β}
    (h : ∀ progress progress' : Progress, progress.silent = progress'.silent →
      Alike (f progress) (g progress')) : Alike (get >>= f) (get >>= g) :=
  fun progress progress' hsilent => h progress progress' hsilent progress progress' hsilent

/-- Progress may be changed, as long as it is not by the events. -/
lemma of_modify {f g : Progress → Progress}
    (h : ∀ progress progress' : Progress, progress.silent = progress'.silent →
      (f progress).silent = (g progress').silent) :
    Alike (modify f : Build PUnit) (modify g) :=
  fun progress progress' hsilent => ⟨rfl, h progress progress' hsilent⟩

/-- Reports make no difference. -/
lemma of_report (event event' : Event) : Alike (report event) (report event') :=
  of_modify fun _ _ hsilent => hsilent

/-- A report that only one of the builds makes. -/
lemma report_left {f : Build α} (event : Event) (h : Alike f x) :
    Alike (do report event; f) x := by
  intro progress progress' hsilent
  rw [Build.run_bind, run_report]
  exact h _ progress' hsilent

/-- One build after the other over a list, by induction on it. -/
lemma foldlM {f g : β → α → Build β} (h : ∀ b a, Alike (f b a) (g b a)) (list : List α) (b : β) :
    Alike (list.foldlM f b) (list.foldlM g b) := by
  induction list generalizing b with
  | nil => exact of_pure b
  | cons a rest ih =>
      rw [List.foldlM_cons, List.foldlM_cons]
      exact (h b a).bind fun next => ih next

end Alike

/-! ## Paths

What a path leads to depends on the schema and on the path alone: not on the filter values, and not
on the operators of its field.
-/

section Paths

variable {schema : Schema} {filters filters' : Value} {ignoreCase ignoreCase' : Bool}
  {field field' : FieldFilter}

lemma alike_newAlias (table : String) : Alike (newAlias table) (newAlias table) := by
  intro progress progress' hsilent
  obtain ⟨htracker, hrelated, hfresh⟩ := Progress.silent_eq_iff.mp hsilent
  rw [run_newAlias, run_newAlias, hfresh]
  exact ⟨rfl, Progress.silent_eq_iff.mpr ⟨htracker, hrelated, rfl⟩⟩

lemma alike_breakPath {α : Type} (hpath : field.path = field'.path) (cause : PathBreak) :
    Alike (breakPath field cause : Build α) (breakPath field' cause) := by
  have hname : field.name = field'.name := congrArg FieldPath.dotted hpath
  rw [breakPath, breakPath, hname]
  exact (Alike.of_report _ _).bind fun _ => .of_throw _

lemma alike_columnOf (hpath : field.path = field'.path) (entity : Entity) (source : Source) :
    Alike (columnOf field entity source) (columnOf field' entity source) := by
  rw [columnOf, columnOf, hpath]
  cases entity.column? (field'.path.getLast?.getD "") with
  | some column => exact .of_pure _
  | none => exact alike_breakPath hpath _

lemma alike_rootColumn (hpath : field.path = field'.path) (root : Root) :
    Alike (rootColumn root field) (rootColumn root field') := by
  cases root with
  | entity entity => exact alike_columnOf hpath _ _
  | aliased entity => exact .of_throw _
  | unmapped name written => exact alike_breakPath hpath _
  | none => exact .of_throw _

lemma alike_relatedScope (root : Root) : Alike (relatedScope root) (relatedScope root) := by
  refine .of_get fun progress progress' hsilent => ?_
  obtain ⟨-, hrelated, -⟩ := Progress.silent_eq_iff.mp hsilent
  rw [hrelated]
  cases progress'.related with
  | some related => exact .of_pure related
  | none =>
      cases root with
      | entity entity =>
          refine (alike_newAlias entity.table).bind fun source => ?_
          refine (Alike.of_modify fun progress progress' hsilent => ?_).bind fun _ => .of_pure _
          obtain ⟨htracker, -, hfresh⟩ := Progress.silent_eq_iff.mp hsilent
          exact Progress.silent_eq_iff.mpr ⟨htracker, rfl, hfresh⟩
      | aliased entity => exact .of_throw _
      | unmapped name written => exact .of_throw _
      | none => exact .of_throw _

lemma alike_track (path : FieldPath) (known : Alias) :
    Alike (modify fun progress => { progress with tracker := progress.tracker.add path known } :
        Build PUnit)
      (modify fun progress => { progress with tracker := progress.tracker.add path known }) := by
  refine .of_modify fun progress progress' hsilent => ?_
  obtain ⟨htracker, hrelated, hfresh⟩ := Progress.silent_eq_iff.mp hsilent
  exact Progress.silent_eq_iff.mpr ⟨by rw [htracker], hrelated, hfresh⟩

/-- One relationship. -/
lemma alike_enter (hpath : field.path = field'.path) (path : FieldPath) (segment : String)
    (reached : Reached) :
    Alike (enter ⟨schema, filters, ignoreCase⟩ field path segment reached)
      (enter ⟨schema, filters', ignoreCase'⟩ field' path segment reached) := by
  unfold enter
  dsimp only
  split
  · exact alike_breakPath hpath _
  · rename_i relationship target hfound
    refine .of_get fun progress progress' hsilent => ?_
    obtain ⟨htracker, -, -⟩ := Progress.silent_eq_iff.mp hsilent
    rw [htracker]
    cases progress'.tracker.alias? path with
    | some known => exact .of_pure _
    | none =>
        cases reached.here.entity.relationship? segment with
        | none => exact .of_throw _
        | some held =>
            have hjoin (link : Source) := (alike_newAlias target.table).bind fun source =>
              (alike_track path ⟨source, target⟩).bind fun _ =>
              (Alike.of_report (.joined field.name (FieldPath.dotted path))
                (.joined field'.name (FieldPath.dotted path))).bind fun _ =>
              Alike.of_pure (⟨{ reached.related with
                joins := reached.related.joins ++
                  linkageJoins held.linkage reached.here.source link source },
                ⟨source, target⟩, target⟩ : Reached)
            cases hlinked : linkTable? held.linkage with
            | some table =>
                simp only [hlinked]
                exact (alike_newAlias table).bind hjoin
            | none =>
                simp only [hlinked]
                exact (Alike.of_pure _).bind hjoin

/-- Relationships one after the other, by induction on how many there are. -/
lemma alike_walk (hpath : field.path = field'.path) (segments : List String) (behind : FieldPath)
    (reached : Reached) :
    Alike (walk ⟨schema, filters, ignoreCase⟩ field behind segments reached)
      (walk ⟨schema, filters', ignoreCase'⟩ field' behind segments reached) := by
  induction segments generalizing behind reached with
  | nil => exact .of_pure reached
  | cons segment rest ih =>
      rw [walk, walk]
      exact (alike_enter hpath _ _ _).bind fun next => ih _ next

lemma alike_relatedColumn (hpath : field.path = field'.path) (root : Root) :
    Alike (relatedColumn ⟨schema, filters, ignoreCase⟩ root field)
      (relatedColumn ⟨schema, filters', ignoreCase'⟩ root field') := by
  refine (alike_relatedScope root).bind fun related => ?_
  cases root with
  | entity entity =>
      dsimp only
      rw [hpath]
      refine (alike_walk hpath _ _ _).bind fun reached => ?_
      refine (Alike.of_modify fun progress progress' hsilent => ?_).bind fun _ =>
        alike_columnOf hpath _ _
      obtain ⟨htracker, -, hfresh⟩ := Progress.silent_eq_iff.mp hsilent
      exact Progress.silent_eq_iff.mpr ⟨htracker, rfl, hfresh⟩
  | aliased entity => exact .of_throw _
  | unmapped name written => exact alike_breakPath hpath _
  | none => exact .of_throw _

lemma alike_addRelated (predicate : Predicate ColumnRef) :
    Alike (addRelated predicate) (addRelated predicate) := by
  refine .of_modify fun progress progress' hsilent => ?_
  obtain ⟨htracker, hrelated, hfresh⟩ := Progress.silent_eq_iff.mp hsilent
  exact Progress.silent_eq_iff.mpr ⟨htracker, by rw [hrelated], hfresh⟩

end Paths

/-! ## What is asked -/

/-- What a present operator says: its path, the name of the operator, and the value. -/
structure Asked where
  path : FieldPath
  operator : String
  value : Value

/-- The name that an operator is declared under: its spelling if it is one, else what it reads
like. -/
def Present.operatorName (present : Present) : String :=
  match operatorOf? present.declared with
  | some operator => operator.name
  | none => present.declared.display

/-- What a present operator says. -/
def Present.asked (present : Present) : Asked :=
  ⟨present.path, present.operatorName, present.value⟩

/-- An operator is found by its name just as by what it is declared under. -/
lemma Present.ofName?_operatorName (present : Present) :
    Operator.ofName? present.operatorName = operatorOf? present.declared := by
  rw [operatorName]
  cases hoperator : operatorOf? present.declared with
  | some operator => exact operator.ofName?_name
  | none =>
      cases hdeclared : present.declared with
      | op operator => simp [hdeclared, operatorOf?] at hoperator
      | _ => simpa [hdeclared, operatorOf?] using hoperator

/-- Carries out what is asked, without a report. -/
def Asked.apply (schema : Schema) (ignoreCase : Bool) (root : Root) (statement : Statement)
    (asked : Asked) : Build Statement :=
  match Operator.ofName? asked.operator with
  | none => throw (.unknownOperator asked.operator (FieldPath.dotted asked.path))
  | some operator => do
    let predicateOf (column : ColumnRef) : Build (Predicate ColumnRef) :=
      liftExcept ((operator.predicate column asked.value ignoreCase).mapError BuildFault.operand)
    if asked.path.length = 1 then do
      let predicate ← predicateOf (← rootColumn root ⟨asked.path, []⟩)
      return statement.filter (.test predicate)
    else do
      let predicate ←
        predicateOf (← relatedColumn ⟨schema, .null, ignoreCase⟩ root ⟨asked.path, []⟩)
      addRelated predicate
      return statement

section Applying

variable {schema : Schema} {filters : Mapping} {ignoreCase : Bool} {root : Root}

/-- What is asked of the root entity. -/
lemma Asked.apply_root (schema : Schema) (statement : Statement) {asked : Asked}
    {operator : Operator} (hoperator : Operator.ofName? asked.operator = some operator)
    (hlength : asked.path.length = 1) :
    asked.apply schema ignoreCase root statement =
      (do let column ← rootColumn root ⟨asked.path, []⟩
          let predicate ← liftExcept
            ((operator.predicate column asked.value ignoreCase).mapError BuildFault.operand)
          return statement.filter (.test predicate)) := by
  simp only [Asked.apply, hoperator, hlength, if_true]

/-- What is asked of related rows. -/
lemma Asked.apply_related (schema : Schema) (statement : Statement) {asked : Asked}
    {operator : Operator} (hoperator : Operator.ofName? asked.operator = some operator)
    (hlength : asked.path.length ≠ 1) :
    asked.apply schema ignoreCase root statement =
      (do let column ← relatedColumn ⟨schema, .null, ignoreCase⟩ root ⟨asked.path, []⟩
          let predicate ← liftExcept
            ((operator.predicate column asked.value ignoreCase).mapError BuildFault.operand)
          addRelated predicate
          return statement) := by
  simp only [Asked.apply, hoperator, hlength, if_false]

/-- An absent operator is skipped: nothing comes of it but a report. -/
lemma alike_applyOperator_of_absent (field : FieldFilter) {declared : Value × String}
    (h : field.present? filters declared = none) (statement : Statement) :
    Alike (applyOperator ⟨schema, .mapping filters, ignoreCase⟩ root field declared statement)
      (pure statement) := by
  intro progress progress' hsilent
  rw [applyOperator_of_absent root statement progress h]
  exact ⟨rfl, hsilent⟩

/-- A present operator does what it says, and reports it. -/
lemma alike_applyOperator_of_present (field : FieldFilter) {declared : Value × String}
    {present : Present} (h : field.present? filters declared = some present)
    (statement : Statement) :
    Alike (applyOperator ⟨schema, .mapping filters, ignoreCase⟩ root field declared statement)
      (present.asked.apply schema ignoreCase root statement) := by
  obtain ⟨value, hfind, rfl⟩ := present?_eq_some.mp h
  have hname := Present.ofName?_operatorName ⟨field.path, declared.1, value⟩
  cases hoperator : operatorOf? declared.1 with
  | none =>
      intro progress progress' hsilent
      rw [applyOperator_of_unknown root statement progress hfind hoperator, Asked.apply]
      simp only [Present.asked, hname, hoperator, Build.run_throw]
      exact ⟨by simp [Present.operatorName, hoperator, FieldFilter.name], hsilent⟩
  | some operator =>
      rw [hoperator] at hname
      intro progress progress' hsilent
      by_cases hlength : field.path.length = 1
      · rw [applyOperator_root root statement progress hfind hoperator hlength,
          Asked.apply_root schema statement hname hlength]
        have hcolumn : Alike (rootColumn root field) (rootColumn root ⟨field.path, []⟩) :=
          alike_rootColumn rfl root
        exact hcolumn.bind (fun column => (Alike.of_liftExcept _).bind fun predicate =>
          .report_left _ (.of_pure _)) progress progress' hsilent
      · rw [applyOperator_related root statement progress hfind hoperator hlength,
          Asked.apply_related schema statement hname hlength]
        have hcolumn : Alike (relatedColumn ⟨schema, .mapping filters, ignoreCase⟩ root field)
            (relatedColumn ⟨schema, .null, ignoreCase⟩ root ⟨field.path, []⟩) :=
          alike_relatedColumn (by rfl) root
        exact hcolumn.bind (fun column => (Alike.of_liftExcept _).bind fun predicate =>
          (alike_addRelated predicate).bind fun _ => .report_left _ (.of_pure _))
          progress progress' hsilent

end Applying

/-! ## Whole builds -/

section Builds

variable {schema : Schema} {filters filters' : Mapping} {ignoreCase : Bool} {root : Root}

/-- The operators of a field, by induction on how many there are. -/
lemma alike_applyOperators (field : FieldFilter) (operators : List (Value × String))
    (statement : Statement) :
    Alike
      (operators.foldlM (fun statement declared =>
        applyOperator ⟨schema, .mapping filters, ignoreCase⟩ root field declared statement)
        statement)
      (((operators.filterMap (field.present? filters)).map Present.asked).foldlM
        (Asked.apply schema ignoreCase root) statement) := by
  induction operators generalizing statement with
  | nil => exact .of_pure statement
  | cons declared rest ih =>
      rw [List.foldlM_cons]
      cases hpresent : field.present? filters declared with
      | none =>
          rw [List.filterMap_cons_none hpresent]
          exact (alike_applyOperator_of_absent field hpresent statement).bind fun next => ih next
      | some present =>
          rw [List.filterMap_cons_some hpresent, List.map_cons, List.foldlM_cons]
          exact (alike_applyOperator_of_present field hpresent statement).bind fun next => ih next

/-- **All fields**, by induction on how many there are: what comes of them is what the present
operators ask for, one after the other. -/
theorem alike_applyFields (fields : List FieldFilter) (statement : Statement) :
    Alike (applyFields ⟨schema, .mapping filters, ignoreCase⟩ root fields statement)
      (((present filters fields).map Present.asked).foldlM (Asked.apply schema ignoreCase root)
        statement) := by
  induction fields generalizing statement with
  | nil => exact .of_pure statement
  | cons field rest ih =>
      have hsplit : present filters (field :: rest) =
          field.operators.filterMap (field.present? filters) ++ present filters rest := rfl
      rw [hsplit, List.map_append, List.foldlM_append, applyFields, List.foldlM_cons]
      exact (alike_applyOperators field field.operators statement).bind fun next => ih next

/-- **Two builds** are alike if the same is asked and ordered. -/
theorem alike_build {definition definition' : Definition} (base : Statement)
    (hasked : (present filters definition.fields).map Present.asked =
      (present filters' definition'.fields).map Present.asked)
    (hordering : definition.ordering = definition'.ordering) :
    Alike (build ⟨schema, .mapping filters, ignoreCase⟩ definition base)
      (build ⟨schema, .mapping filters', ignoreCase⟩ definition' base) := by
  by_cases hroot : base.root = .none
  · simp only [build, hroot]
    exact .of_throw _
  · have hfields : Alike
        (applyFields ⟨schema, .mapping filters, ignoreCase⟩ base.root definition.fields base)
        (applyFields ⟨schema, .mapping filters', ignoreCase⟩ base.root definition'.fields base) :=
      (alike_applyFields definition.fields base).trans
        (hasked ▸ (alike_applyFields definition'.fields base).symm)
    intro progress progress' hsilent
    rw [build_of_root hroot, build_of_root hroot, hordering]
    refine hfields.bind (fun filtered => .of_get fun reached reached' hreached => ?_) progress
      progress' hsilent
    rw [(Progress.silent_eq_iff.mp hreached).2.1]
    exact .of_liftExcept _

end Builds

/-! ## What has no effect -/

namespace Definition

/-- The definition without the operators for which there is no value. -/
def withoutAbsent (filters : Mapping) (definition : Definition) : Definition :=
  { definition with fields := definition.fields.map fun field =>
      { field with operators :=
          field.operators.filter fun declared => (field.present? filters declared).isSome } }

/-- The definition with its runtime keys renamed. -/
def renameKeys (rename : String → String) (definition : Definition) : Definition :=
  { definition with fields := definition.fields.map fun field =>
      { field with operators :=
          field.operators.map fun declared => (declared.1, rename declared.2) } }

/-- An operator without a value does not count. -/
lemma present_withoutAbsent (filters : Mapping) (definition : Definition) :
    present filters (definition.withoutAbsent filters).fields =
      present filters definition.fields := by
  simp only [present, withoutAbsent, List.flatMap_map]
  refine List.flatMap_congr fun field _ => ?_
  rw [List.filterMap_filter]
  refine List.filterMap_congr fun declared _ => ?_
  change (if (field.present? filters declared).isSome = true then
    field.present? filters declared else none) = field.present? filters declared
  cases field.present? filters declared <;> rfl

lemma renameKeys_id (definition : Definition) : definition.renameKeys id = definition := by
  simp [renameKeys]

/-- Where a new key finds what the old one does, the same counts. -/
lemma present_renameKeys {filters filters' : Mapping} {definition : Definition}
    {rename : String → String}
    (hkeys : ∀ key ∈ definition.runtimeKeys,
      Mapping.find? filters' (.str (rename key)) = Mapping.find? filters (.str key)) :
    present filters' (definition.renameKeys rename).fields =
      present filters definition.fields := by
  simp only [present, renameKeys, List.flatMap_map]
  refine List.flatMap_congr fun field hfield => ?_
  rw [List.filterMap_map]
  refine List.filterMap_congr fun declared hdeclared => ?_
  have hkey : declared.2 ∈ definition.runtimeKeys :=
    List.mem_flatMap.mpr ⟨field, hfield, List.mem_map_of_mem hdeclared⟩
  simp only [Function.comp_apply, FieldFilter.present?, hkeys _ hkey]

end Definition

/-- **The outcome depends on the present operators only.**  Builds have the same outcome, statement or
fault, if the sequences of what their present operators say are equal, and their orderings are.  In
particular nothing comes of absent operators, whatever they are and wherever they stand; of what is
supplied under keys that are not declared, and of renaming the keys; and of how operators are spread
over declarations. -/
theorem build_of_asked (schema : Schema) (base : Statement) (ignoreCase : Bool) (filters : Mapping)
    (definition : Definition) :
    (∀ filters' definition',
      (present filters' definition'.fields).map Present.asked =
        (present filters definition.fields).map Present.asked →
      definition'.ordering = definition.ordering →
      (buildFresh ⟨schema, .mapping filters', ignoreCase⟩ definition' base).1 =
        (buildFresh ⟨schema, .mapping filters, ignoreCase⟩ definition base).1) ∧
    (buildFresh ⟨schema, .mapping filters, ignoreCase⟩ (definition.withoutAbsent filters) base).1 =
      (buildFresh ⟨schema, .mapping filters, ignoreCase⟩ definition base).1 ∧
    (∀ filters', (∀ key ∈ definition.runtimeKeys,
        Mapping.find? filters' (.str key) = Mapping.find? filters (.str key)) →
      (buildFresh ⟨schema, .mapping filters', ignoreCase⟩ definition base).1 =
        (buildFresh ⟨schema, .mapping filters, ignoreCase⟩ definition base).1) ∧
    (∀ filters' rename,
      (∀ key ∈ definition.runtimeKeys,
        Mapping.find? filters' (.str (rename key)) = Mapping.find? filters (.str key)) →
      (buildFresh ⟨schema, .mapping filters', ignoreCase⟩ (definition.renameKeys rename) base).1 =
        (buildFresh ⟨schema, .mapping filters, ignoreCase⟩ definition base).1) ∧
    (∀ definition' : Definition, definition'.declarations = definition.declarations →
      definition'.ordering = definition.ordering →
      (buildFresh ⟨schema, .mapping filters, ignoreCase⟩ definition' base).1 =
        (buildFresh ⟨schema, .mapping filters, ignoreCase⟩ definition base).1) := by
  have hlaw : ∀ filters' (definition' : Definition),
      (present filters' definition'.fields).map Present.asked =
        (present filters definition.fields).map Present.asked →
      definition'.ordering = definition.ordering →
      (buildFresh ⟨schema, .mapping filters', ignoreCase⟩ definition' base).1 =
        (buildFresh ⟨schema, .mapping filters, ignoreCase⟩ definition base).1 :=
    fun filters' definition' hasked hordering =>
      (alike_build base hasked hordering .start .start rfl).1
  have hrenamed : ∀ filters' rename,
      (∀ key ∈ definition.runtimeKeys,
        Mapping.find? filters' (.str (rename key)) = Mapping.find? filters (.str key)) →
      (buildFresh ⟨schema, .mapping filters', ignoreCase⟩ (definition.renameKeys rename) base).1 =
        (buildFresh ⟨schema, .mapping filters, ignoreCase⟩ definition base).1 :=
    fun filters' rename hkeys =>
      hlaw filters' _ (by rw [Definition.present_renameKeys hkeys]) rfl
  refine ⟨hlaw, ?_, fun filters' hkeys => ?_, hrenamed, fun definition' hdeclarations hordering => ?_⟩
  · exact hlaw filters _ (by rw [Definition.present_withoutAbsent]) rfl
  · rw [← hrenamed filters' id hkeys, Definition.renameKeys_id]
  · refine hlaw filters definition' ?_ hordering
    rw [present_eq_filterMap, present_eq_filterMap, hdeclarations]

/-- Two ways to ask for the same posts: under other keys, with another spelling of the operator, in
two declarations, and with an absent operator in between. -/
theorem build_of_asked_posts :
    (buildFresh ⟨Sample.schema, .mapping [(.str "first", .str "dsl"), (.str "second", .int 1)], true⟩
        ⟨[⟨["title"], [(.op .contains, "first"), (.str "unknown", "absent")]⟩,
          ⟨["comments", "nowhere"], [(.op .present, "absent")]⟩,
          ⟨["title"], [(.str "present", "second")]⟩], []⟩ Sample.allPosts).1 =
      (buildFresh ⟨Sample.schema, .mapping [(.str "title", .str "dsl"), (.str "any", .int 1)], true⟩
        ⟨[⟨["title"], [(.str "contains", "title"), (.op .present, "any")]⟩], []⟩
        Sample.allPosts).1 :=
  (build_of_asked Sample.schema Sample.allPosts true _ _).1 _ _ rfl rfl

end FilterQuery
