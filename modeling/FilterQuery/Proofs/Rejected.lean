import Mathlib.Tactic.Common
import FilterQuery.Failure
import FilterQuery.Proofs.DottedPaths
import FilterQuery.Proofs.QueryRows

/-!
# Rejected builds

Which builds over an entity fail, and how the failure is reported.

**What is wrong with an operator.**  `Schema.Breaks` says where a path breaks off, and
`Present.Offends` what is wrong with a present operator and how that is told: a name that means no
operator comes before a path that leads nowhere.  Neither of them knows how a build looks things up.

**What is wrong with a build.**  Without operands that are refused, a build fails exactly if some
present operator is rejected or some ordering clause orders nothing.  The first rejected operator is
the one that is reported: `build_rejected_iff`.
-/

namespace FilterQuery

open FilterQuery.Sql

/-! ## Names of operators -/

/-- A declared name means an operator: it is the operator itself, or it reads like its spelling. -/
def Operator.IsNamedBy (operator : Operator) (name : Value) : Prop :=
  name = .op operator ∨ name.display = operator.name

lemma Operator.ofName?_eq_none_iff {spelling : String} :
    Operator.ofName? spelling = none ↔ ∀ operator : Operator, spelling ≠ operator.name := by
  simp only [Operator.ofName?, List.find?_eq_none, beq_iff_eq]
  exact ⟨fun h operator heq => h operator operator.mem_all heq.symm,
    fun h operator _ heq => h operator heq.symm⟩

/-- A name is looked up in vain exactly if it means no operator. -/
lemma operatorOf?_eq_none_iff {name : Value} :
    operatorOf? name = none ↔ ∀ operator : Operator, ¬operator.IsNamedBy name := by
  cases name with
  | op operator =>
      refine iff_of_false (by simp [operatorOf?]) fun h => h operator (.inl rfl)
  | _ => simp [operatorOf?, Operator.ofName?_eq_none_iff, Operator.IsNamedBy]

/-! ## Paths that lead nowhere -/

/-- Where a path breaks off: at the leftmost segment before the last one that is no relationship of
the entity reached, or else at the last one if it is no column. -/
inductive Schema.Breaks (schema : Schema) : Entity → FieldPath → String → Entity → Prop where
  | column {entity : Entity} {name : String} :
      entity.column? name = none → Breaks schema entity [name] name entity
  | relationship {entity : Entity} {segment : String} {rest : List String} :
      rest ≠ [] → schema.step? entity segment = none →
      Breaks schema entity (segment :: rest) segment entity
  | behind {entity target model : Entity} {relationship : Relationship} {segment name : String}
      {rest : List String} :
      schema.step? entity segment = some (relationship, target) →
      Breaks schema target rest name model → Breaks schema entity (segment :: rest) name model

namespace Schema

variable {schema : Schema} {entity model : Entity} {path : FieldPath} {segment : String}
  {cause : PathBreak}

lemma columnAt_singleton (schema : Schema) (entity : Entity) (name : String) :
    schema.columnAt entity [name] =
      match entity.column? name with
      | some column => .ok column
      | none => .error (.notColumn name entity.name) := rfl

/-- The first relationship of a path is entered first. -/
lemma columnAt_cons {rest : List String} (hrest : rest ≠ []) :
    schema.columnAt entity (segment :: rest) =
      match schema.step? entity segment with
      | some (_, target) => schema.columnAt target rest
      | none => .error (.notRelationship segment entity.name) := by
  have hlast : (segment :: rest).getLast? = rest.getLast? := by
    cases rest with
    | nil => exact absurd rfl hrest
    | cons next others => exact List.getLast?_cons_cons
  simp only [columnAt, List.dropLast_cons_of_ne_nil hrest, hlast, reach]
  cases schema.step? entity segment with
  | none => rfl
  | some found => rfl

/-- A path that breaks off leads to no column, and the break tells where. -/
lemma Breaks.columnAt (h : schema.Breaks entity path segment model) :
    ∃ cause, schema.columnAt entity path = .error cause ∧ cause.segment? = some segment ∧
      cause.model = model.name := by
  induction h with
  | @column entity name hcolumn =>
      exact ⟨.notColumn name entity.name, by rw [columnAt_singleton, hcolumn], rfl, rfl⟩
  | @relationship entity segment rest hrest hstep =>
      exact ⟨.notRelationship segment entity.name, by rw [columnAt_cons hrest, hstep], rfl, rfl⟩
  | @behind entity target model relationship segment name rest hstep hbreaks ih =>
      have hrest : rest ≠ [] := by
        rintro rfl
        cases hbreaks
      obtain ⟨cause, hcause, hsegment, hmodel⟩ := ih
      exact ⟨cause, by rw [columnAt_cons hrest, hstep]; exact hcause, hsegment, hmodel⟩

/-- A path that leads to no column breaks off somewhere, by induction on its segments. -/
lemma exists_breaks_of_columnAt (hpath : path ≠ [])
    (h : schema.columnAt entity path = .error cause) :
    ∃ segment model, schema.Breaks entity path segment model := by
  induction path generalizing entity with
  | nil => exact absurd rfl hpath
  | cons segment rest ih =>
      by_cases hrest : rest = []
      · subst hrest
        rw [columnAt_singleton] at h
        cases hcolumn : entity.column? segment with
        | none => exact ⟨segment, entity, .column hcolumn⟩
        | some column => simp [hcolumn] at h
      · rw [columnAt_cons hrest] at h
        cases hstep : schema.step? entity segment with
        | none => exact ⟨segment, entity, .relationship hrest hstep⟩
        | some found =>
            obtain ⟨relationship, target⟩ := found
            rw [hstep] at h
            obtain ⟨name, model, hbreaks⟩ := ih hrest h
            exact ⟨name, model, .behind hstep hbreaks⟩

end Schema

/-! ## Rejected operators -/

namespace Present

/-- What is wrong with a present operator: the class of the error, and its details. -/
inductive Offends (schema : Schema) (entity : Entity) (present : Present) :
    ErrorClass → List (String × Value) → Prop where
  /-- Its name means no operator, whatever its path is. -/
  | unknown : (∀ operator : Operator, ¬operator.IsNamedBy present.declared) →
      Offends schema entity present .unknownOperator
        [("operator", .str present.declared.display), ("field", .str (FieldPath.dotted present.path))]
  /-- Its name means an operator, but its path breaks off. -/
  | path {operator : Operator} {segment : String} {model : Entity} :
      operator.IsNamedBy present.declared → schema.Breaks entity present.path segment model →
      Offends schema entity present .invalidFieldPath
        [("field", .str (FieldPath.dotted present.path)), ("segment", .str segment),
          ("model", .str model.name)]

/-- Something is wrong with a present operator. -/
def IsRejected (schema : Schema) (entity : Entity) (present : Present) : Prop :=
  ∃ errorClass details, present.Offends schema entity errorClass details

/-- The operator takes the value: on the column that the path leads to, there is a condition. -/
def TakesValue (schema : Schema) (entity : Entity) (ignoreCase : Bool) (present : Present) : Prop :=
  ∀ operator column, operatorOf? present.declared = some operator →
    schema.columnAt entity present.path = .ok column →
    ∃ test, operator.predicate column present.value ignoreCase = .ok test

end Present

/-- An error is of a class, and it carries exactly these details. -/
def BuildFault.IsReportedAs (fault : BuildFault) (errorClass : ErrorClass)
    (details : List (String × Value)) : Prop :=
  fault.report.kind = errorClass.name ∧
    fault.report.details = some (details.map fun entry => (.str entry.1, entry.2))

section Operators

variable {schema : Schema} {entity : Entity} {ignoreCase : Bool} {present : Present}
  {errorClass : ErrorClass} {details : List (String × Value)}

/-- What is wrong with an operator is what its test fails with. -/
lemma Present.Offends.test (ignoreCase : Bool)
    (h : present.Offends schema entity errorClass details) :
    ∃ fault, present.test schema entity ignoreCase = .error fault ∧
      fault.IsReportedAs errorClass details := by
  cases h with
  | unknown hunknown =>
      refine ⟨.unknownOperator present.declared.display (FieldPath.dotted present.path), ?_, rfl,
        rfl⟩
      rw [Present.test, operatorOf?_eq_none_iff.mpr hunknown]
  | @path operator segment model hnamed hbreaks =>
      obtain ⟨cause, hcause, hsegment, hmodel⟩ := hbreaks.columnAt
      refine ⟨.invalidPath (FieldPath.dotted present.path) cause, ?_, rfl, ?_⟩
      · rw [Present.test]
        cases hoperator : operatorOf? present.declared with
        | none => exact absurd hnamed (operatorOf?_eq_none_iff.mp hoperator operator)
        | some found => simp only [hcause]
      · simp [BuildFault.report, Report.own, hsegment, hmodel]

/-- A test fails with nothing else, if the operand is taken. -/
lemma Present.isRejected_of_test {fault : BuildFault} (hpath : present.path ≠ [])
    (htakes : present.TakesValue schema entity ignoreCase)
    (htest : present.test schema entity ignoreCase = .error fault) :
    present.IsRejected schema entity := by
  cases hoperator : operatorOf? present.declared with
  | none => exact ⟨_, _, .unknown (operatorOf?_eq_none_iff.mp hoperator)⟩
  | some operator =>
      cases hcolumn : schema.columnAt entity present.path with
      | error cause =>
          have hnamed : ∃ operator : Operator, operator.IsNamedBy present.declared := by
            by_contra hnone
            rw [operatorOf?_eq_none_iff.mpr (not_exists.mp hnone)] at hoperator
            cases hoperator
          obtain ⟨named, hnamed⟩ := hnamed
          obtain ⟨segment, model, hbreaks⟩ := Schema.exists_breaks_of_columnAt hpath hcolumn
          exact ⟨_, _, .path hnamed hbreaks⟩
      | ok column =>
          obtain ⟨test, hpredicate⟩ := htakes operator column hoperator hcolumn
          have hok := Present.test_eq_ok.mpr ⟨operator, column, hoperator, hcolumn, hpredicate⟩
          rw [hok] at htest
          cases htest

/-- An operator has a condition exactly if nothing is wrong with it. -/
lemma Present.exists_test_iff (hpath : present.path ≠ [])
    (htakes : present.TakesValue schema entity ignoreCase) :
    (∃ test, present.test schema entity ignoreCase = .ok test) ↔
      ¬present.IsRejected schema entity := by
  constructor
  · rintro ⟨test, htest⟩ ⟨errorClass, details, hoffends⟩
    obtain ⟨fault, hfault, -⟩ := hoffends.test ignoreCase
    rw [htest] at hfault
    cases hfault
  · intro hfine
    cases htest : present.test schema entity ignoreCase with
    | ok test => exact ⟨test, rfl⟩
    | error fault => exact absurd (Present.isRejected_of_test hpath htakes htest) hfine

end Operators

/-! ## Declared paths -/

lemma Definition.path_ne_nil_of_fieldFilter {path : Value} {operators : Option Value}
    {named : List (String × Value)} {field : FieldFilter}
    (h : Definition.fieldFilter path operators named = .ok field) : field.path ≠ [] := by
  cases hrepeated : Definition.repeated? operators named with
  | some argument =>
      simp [Definition.fieldFilter, hrepeated, throw, throwThe, MonadExceptOf.throw, bind,
        Except.bind] at h
  | none =>
      simp only [Definition.fieldFilter, hrepeated, bind_eq_ok, mapError_eq_ok] at h
      obtain ⟨segments, hsegments, mapping, -, hfield⟩ := h
      cases hfield
      exact (FieldPath.ofValue_eq_ok.mp hsegments).2.1

/-- One more step keeps every path of a definition from being empty. -/
lemma Definition.paths_declare {definition next : Definition} {declaration : Declaration}
    (hpaths : ∀ field ∈ definition.fields, field.path ≠ [])
    (h : definition.declare declaration = .ok next) : ∀ field ∈ next.fields, field.path ≠ [] := by
  cases declaration with
  | order clauses =>
      cases h
      exact hpaths
  | field path operators named =>
      simp only [Definition.declare, bind_eq_ok] at h
      obtain ⟨declared, hdeclared, hnext⟩ := h
      cases hnext
      intro field hfield
      rcases List.mem_append.mp hfield with hold | hnew
      · exact hpaths field hold
      · rw [List.mem_singleton.mp hnew]
        exact Definition.path_ne_nil_of_fieldFilter hdeclared

/-- A definition that is made by steps declares no empty path. -/
lemma Definition.paths_ofSteps {steps : List Declaration} {definition : Definition}
    (h : Definition.ofSteps steps = .ok definition) :
    ∀ field ∈ definition.fields, field.path ≠ [] := by
  have hextend : ∀ start : Definition, (∀ field ∈ start.fields, field.path ≠ []) →
      start.extend steps = .ok definition → ∀ field ∈ definition.fields, field.path ≠ [] := by
    clear h
    induction steps with
    | nil =>
        intro start hstart h
        cases h
        exact hstart
    | cons step rest ih =>
        intro start hstart h
        rw [Definition.extend, List.foldlM_cons, bind_eq_ok] at h
        obtain ⟨next, hnext, hrest⟩ := h
        exact ih next (Definition.paths_declare hstart hnext) hrest
  exact hextend .empty (by simp [Definition.empty]) h

/-- The path of a present operator is that of its field. -/
lemma path_ne_nil_of_present (filters : Mapping) {fields : List FieldFilter}
    (h : ∀ field ∈ fields, field.path ≠ []) :
    ∀ asked ∈ present filters fields, asked.path ≠ [] := by
  intro asked hasked
  obtain ⟨field, hfield, hoperators⟩ := List.mem_flatMap.mp hasked
  obtain ⟨declared, -, hpresent⟩ := List.mem_filterMap.mp hoperators
  obtain ⟨value, -, rfl⟩ := present?_eq_some.mp hpresent
  exact h field hfield

/-! ## Ordering clauses -/

/-- A clause orders nothing: it is neither a column nor a text, nor the empty value nor a truth
value. -/
def OrderClause.IsRefused (clause : OrderClause) : Prop :=
  ∃ value, clause = .value value ∧ value ≠ .null ∧ ∀ truth, value ≠ .bool truth

/-- A clause either is a term or is refused, with the error of its kind. -/
lemma OrderClause.term_cases (clause : OrderClause) :
    (¬clause.IsRefused ∧ ∃ term, clause.term = .ok term) ∨
      (clause.IsRefused ∧ ∃ shown, clause.term = .error (.notOrdering shown)) := by
  cases clause with
  | column column descending emptyFirst => exact .inl ⟨by simp [IsRefused], _, rfl⟩
  | text raw => exact .inl ⟨by simp [IsRefused], _, rfl⟩
  | value value =>
      cases value with
      | null => exact .inl ⟨by simp [IsRefused], _, rfl⟩
      | bool truth => exact .inl ⟨by simp [IsRefused], _, rfl⟩
      | _ => exact .inr ⟨by simp [IsRefused], _, rfl⟩

/-- Clauses give terms as long as none of them is refused. -/
lemma OrderClause.mapM_term_cases (clauses : List OrderClause) :
    ((∀ clause ∈ clauses, ¬clause.IsRefused) ∧ ∃ terms, clauses.mapM OrderClause.term = .ok terms) ∨
      ((∃ clause ∈ clauses, clause.IsRefused) ∧
        ∃ shown, clauses.mapM OrderClause.term = .error (.notOrdering shown)) := by
  induction clauses with
  | nil => exact .inl ⟨by simp, [], rfl⟩
  | cons clause rest ih =>
      rcases clause.term_cases with ⟨hfine, term, hterm⟩ | ⟨hrefused, shown, hterm⟩
      · rcases ih with ⟨hothers, terms, hterms⟩ | ⟨⟨other, hother, hrefused⟩, shown, hterms⟩
        · exact .inl ⟨List.forall_mem_cons.mpr ⟨hfine, hothers⟩, term :: terms, by
            rw [List.mapM_cons, hterm, hterms]; rfl⟩
        · exact .inr ⟨⟨other, List.mem_cons_of_mem _ hother, hrefused⟩, shown, by
            rw [List.mapM_cons, hterm, hterms]; rfl⟩
      · exact .inr ⟨⟨clause, List.mem_cons_self, hrefused⟩, shown, by
          rw [List.mapM_cons, hterm]; rfl⟩

/-- An ordering is added unless one of its clauses is refused. -/
lemma Sql.Statement.orderBy_cases (statement : Statement) (clauses : List OrderClause) :
    ((∀ clause ∈ clauses, ¬clause.IsRefused) ∧ ∃ next, statement.orderBy clauses = .ok next) ∨
      ((∃ clause ∈ clauses, clause.IsRefused) ∧
        ∃ shown, statement.orderBy clauses = .error (.notOrdering shown)) := by
  rcases OrderClause.mapM_term_cases clauses with ⟨hfine, terms, hterms⟩ | ⟨hrefused, shown, hterms⟩
  · refine .inl ⟨hfine, ?_⟩
    rw [Statement.orderBy, hterms]
    by_cases hnull : terms = [.null]
    · exact ⟨{ statement with order := [] }, by subst hnull; rfl⟩
    · refine ⟨{ statement with order := statement.order ++ terms }, ?_⟩
      simp only [bind, Except.bind, pure, Except.pure]
  · exact .inr ⟨hrefused, shown, by rw [Statement.orderBy, hterms]; rfl⟩

/-! ## Builds -/

/-- The first present operator with which something is wrong, told by class and details. -/
def FirstOffends (schema : Schema) (entity : Entity) (all : List Present)
    (errorClass : ErrorClass) (details : List (String × Value)) : Prop :=
  ∃ before first after, all = before ++ first :: after ∧
    (∀ asked ∈ before, ¬asked.IsRejected schema entity) ∧
    first.Offends schema entity errorClass details

/-- Where something is wrong with an operator, something is wrong with a first one. -/
lemma exists_firstOffends {schema : Schema} {entity : Entity} {all : List Present}
    (h : ∃ asked ∈ all, asked.IsRejected schema entity) :
    ∃ errorClass details, FirstOffends schema entity all errorClass details := by
  induction all with
  | nil => simp at h
  | cons next rest ih =>
      by_cases hnext : next.IsRejected schema entity
      · obtain ⟨errorClass, details, hoffends⟩ := hnext
        exact ⟨errorClass, details, [], next, rest, rfl, by simp, hoffends⟩
      · have hrest : ∃ asked ∈ rest, asked.IsRejected schema entity := by
          simpa [hnext] using h
        obtain ⟨errorClass, details, before, first, after, rfl, hbefore, hoffends⟩ := ih hrest
        exact ⟨errorClass, details, next :: before, first, after, rfl,
          List.forall_mem_cons.mpr ⟨hnext, hbefore⟩, hoffends⟩

section Builds

variable {schema : Schema} {entity : Entity} {ignoreCase : Bool} {filters : Mapping}
  {base : Statement} {definition : Definition}

/-- The first operator with which something is wrong is the one that ends a build. -/
lemma build_of_firstOffends {errorClass : ErrorClass} {details : List (String × Value)}
    (hroot : base.root = .entity entity)
    (htested : ∀ asked ∈ present filters definition.fields,
      (∃ test, asked.test schema entity ignoreCase = .ok test) ↔
        ¬asked.IsRejected schema entity)
    (h : FirstOffends schema entity (present filters definition.fields) errorClass details) :
    ∃ fault, (buildFresh ⟨schema, .mapping filters, ignoreCase⟩ definition base).1 =
      .error fault ∧ fault.IsReportedAs errorClass details := by
  obtain ⟨before, first, after, hall, hbefore, hoffends⟩ := h
  obtain ⟨fault, hfault, hreported⟩ := hoffends.test ignoreCase
  refine ⟨fault, build_fault definition hroot ?_, hreported⟩
  have hok : Present.checkAll schema entity ignoreCase before = .ok () :=
    Present.checkAll_eq_ok.mpr fun asked hasked =>
      (htested asked (hall ▸ List.mem_append_left _ hasked)).mpr (hbefore asked hasked)
  rw [hall, Present.checkAll_append, hok]
  simp only [Except.bind, Present.checkAll, hfault]

/-- Without anything wrong with an operator, a build ends in its ordering. -/
lemma build_of_tested (hroot : base.root = .entity entity)
    (htested : ∀ asked ∈ present filters definition.fields,
      ∃ test, asked.test schema entity ignoreCase = .ok test) :
    ((∀ clause ∈ definition.ordering, ¬clause.IsRefused) ∧ ∃ result,
        (buildFresh ⟨schema, .mapping filters, ignoreCase⟩ definition base).1 = .ok result) ∨
      ((∃ clause ∈ definition.ordering, clause.IsRefused) ∧ ∃ shown,
        (buildFresh ⟨schema, .mapping filters, ignoreCase⟩ definition base).1 =
          .error (.scope (.notOrdering shown))) := by
  obtain ⟨statement, progress, -, hrun⟩ := build_run definition hroot
    (Present.checkAll_eq_ok.mpr htested)
  rcases Statement.orderBy_cases (withRelated statement progress.related) definition.ordering with
    ⟨hfine, result, hresult⟩ | ⟨hrefused, shown, hshown⟩
  · exact .inl ⟨hfine, result, by rw [hrun, hresult]; rfl⟩
  · exact .inr ⟨hrefused, shown, by rw [hrun, hshown]; rfl⟩

/-- **Exactly when a build is rejected, and with what.**  Let all operands be taken.  A build over an
entity fails exactly if something is wrong with a present operator, or a clause of the ordering
orders nothing.  The error is that of the first present operator with which something is wrong; only
where there is none it is that of the ordering. -/
theorem build_rejected_iff {steps : List Declaration} (hroot : base.root = .entity entity)
    (hdefinition : Definition.ofSteps steps = .ok definition)
    (htakes : ∀ asked ∈ present filters definition.fields,
      asked.TakesValue schema entity ignoreCase) :
    ((∃ fault, (buildFresh ⟨schema, .mapping filters, ignoreCase⟩ definition base).1 =
        .error fault) ↔
      (∃ asked ∈ present filters definition.fields, asked.IsRejected schema entity) ∨
        ∃ clause ∈ definition.ordering, clause.IsRefused) ∧
    (∀ errorClass details,
      FirstOffends schema entity (present filters definition.fields) errorClass details →
      ∃ fault, (buildFresh ⟨schema, .mapping filters, ignoreCase⟩ definition base).1 =
        .error fault ∧ fault.IsReportedAs errorClass details) ∧
    ((∀ asked ∈ present filters definition.fields, ¬asked.IsRejected schema entity) →
      ∀ fault, (buildFresh ⟨schema, .mapping filters, ignoreCase⟩ definition base).1 =
        .error fault → fault.report.kind = "ArgumentError") := by
  have hpaths := path_ne_nil_of_present filters (Definition.paths_ofSteps hdefinition)
  have htested : ∀ asked ∈ present filters definition.fields,
      (∃ test, asked.test schema entity ignoreCase = .ok test) ↔
        ¬asked.IsRejected schema entity :=
    fun asked hasked => Present.exists_test_iff (hpaths asked hasked) (htakes asked hasked)
  refine ⟨?_, fun errorClass details => build_of_firstOffends hroot htested, ?_⟩
  · by_cases hwrong : ∃ asked ∈ present filters definition.fields, asked.IsRejected schema entity
    · obtain ⟨errorClass, details, hfirst⟩ := exists_firstOffends hwrong
      obtain ⟨fault, hfault, -⟩ := build_of_firstOffends hroot htested hfirst
      exact iff_of_true ⟨fault, hfault⟩ (.inl hwrong)
    · have hfine : ∀ asked ∈ present filters definition.fields,
          ∃ test, asked.test schema entity ignoreCase = .ok test := fun asked hasked =>
        (htested asked hasked).mpr fun hrejected => hwrong ⟨asked, hasked, hrejected⟩
      rcases build_of_tested hroot hfine with ⟨hclauses, result, hrun⟩ | ⟨hrefused, shown, hrun⟩
      · refine iff_of_false (by simp [hrun]) ?_
        rintro (hrejected | ⟨clause, hclause, hrefused⟩)
        · exact hwrong hrejected
        · exact hclauses clause hclause hrefused
      · exact iff_of_true ⟨_, hrun⟩ (.inr hrefused)
  · intro hfine fault hfault
    rcases build_of_tested hroot fun asked hasked => (htested asked hasked).mpr
      (hfine asked hasked) with ⟨-, result, hrun⟩ | ⟨-, shown, hrun⟩
    · rw [hrun] at hfault
      cases hfault
    · rw [hrun] at hfault
      cases hfault
      rfl

end Builds

namespace Sample

/-- Labels by fields that there are not: under the first key nothing is supplied, the second path
ends in a synonym, and the third operator is unknown. -/
def lostSteps : List Declaration :=
  [.field (.str "nowhere") (some (.mapping [(.str "unknown", .str "absent")])) [],
    .field (.str "products.title") (some (.mapping [(.str "contains", .str "title")])) [],
    .field (.str "text") (some (.mapping [(.str "unknown", .str "title")])) []]

/-- What these steps declare. -/
def lostDefinition : Definition :=
  ⟨[⟨["nowhere"], [(.str "unknown", "absent")]⟩,
    ⟨["products", "title"], [(.str "contains", "title")]⟩,
    ⟨["text"], [(.str "unknown", "title")]⟩], []⟩

lemma ofSteps_lostSteps : Definition.ofSteps lostSteps = .ok lostDefinition := rfl

/-- All labels. -/
def allLabels : Statement :=
  .ofSelected (.entity label) [.entity label (.ofTable "labels")]

end Sample

/-- The synonym at the end of the second path is reported: the operator before it is absent, and the
unknown one comes later. -/
theorem build_rejected_iff_synonym :
    ∃ fault, (buildFresh ⟨Sample.schema, .mapping [(.str "title", .str "Saw")], true⟩
        Sample.lostDefinition Sample.allLabels).1 = .error fault ∧
      fault.IsReportedAs .invalidFieldPath
        [("field", .str "products.title"), ("segment", .str "title"),
          ("model", .str "Product")] := by
  have hnamed : Operator.contains.IsNamedBy (.str "contains") := .inr rfl
  have hbreaks : Sample.schema.Breaks Sample.label ["products", "title"] "title"
      Sample.product := .behind rfl (.column rfl)
  have hoffends : Present.Offends Sample.schema Sample.label
      ⟨["products", "title"], .str "contains", .str "Saw"⟩ .invalidFieldPath _ :=
    .path hnamed hbreaks
  have hfirst : FirstOffends Sample.schema Sample.label
      (present [(.str "title", .str "Saw")] Sample.lostDefinition.fields) .invalidFieldPath
      [("field", .str "products.title"), ("segment", .str "title"),
        ("model", .str "Product")] :=
    ⟨[], _, _, rfl, by simp, hoffends⟩
  refine (build_rejected_iff rfl Sample.ofSteps_lostSteps ?_).2.1 _ _ hfirst
  intro asked hasked operator column hoperator hcolumn
  simp [present, Sample.lostDefinition, FieldFilter.present?, Mapping.find?, Value.sameKey] at hasked
  rcases hasked with rfl | rfl
  · cases hcolumn
  · cases hoperator

/-- An ordering by a number is refused, though nothing is wrong with an operator. -/
theorem not_rejected_iff_of_ordering :
    ¬((∃ fault, (buildFresh ⟨Sample.schema, .mapping [], true⟩ ⟨[], [.value (.int 5)]⟩
        Sample.allPosts).1 = .error fault) ↔
      ∃ asked ∈ present [] [], asked.IsRejected Sample.schema Sample.post) := by
  have hfails : ∃ fault, (buildFresh ⟨Sample.schema, .mapping [], true⟩ ⟨[], [.value (.int 5)]⟩
      Sample.allPosts).1 = .error fault := ⟨.scope (.notOrdering "5"), rfl⟩
  intro h
  obtain ⟨asked, hasked, -⟩ := h.mp hfails
  cases hasked

end FilterQuery
